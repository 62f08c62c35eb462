import Retint.Proofs.Bundle.Expansion

/-!
# Sheets read line by line

White space, options and targets of an import statement can go over several lines. In a sheet whose
statements each stand on one line, what a line contributes to a bundle is a matter of that line.
What can be inlined is replaced by what it means, and any other line stays. So the lines of a bundle
are lines of the files that it is made of, and none of them could have been inlined.

## Main definitions

* `Import.IsOneLine` — each statement of a sheet stands on one line
* `Import.IsKept` — a line that stays as it is
* `Bundle.importLine?`, `Bundle.lineOf` — what a line imports, and what it contributes

## Main results

* `Text.line_induction` — going through the lines of a text
* `Import.pieces_line`, `Import.pieces_last` — the pieces of a sheet, line by line
* `Bundle.expand_line`, `Bundle.expand_last` — the expansion of a sheet, line by line
* `Bundle.forall_lines_of_flatten` — the lines of a bundle
-/

namespace Retint

namespace Text

/-- A text is one line, or a line and the text after its end. -/
@[elab_as_elim]
theorem line_induction {motive : Text → Prop} (last : ∀ l : Text, '\n' ∉ l → motive l)
    (line : ∀ l rest : Text, '\n' ∉ l → motive rest → motive (l ++ '\n' :: rest)) (t : Text) :
    motive t := by
  induction hlen : t.length using Nat.strongRecOn generalizing t with
  | _ k ih =>
    subst hlen
    by_cases hn : '\n' ∈ t
    · obtain ⟨l, rest, rfl, hl⟩ := List.eq_append_cons_of_mem hn
      exact line l rest hl (ih rest.length (by simp; omega) rest rfl)
    · exact last t hn

/-- What is in a text, but for the character that it is split at, is in one of the parts. -/
theorem mem_iff_exists_splitOn {c d : Char} (hd : d ≠ c) (t : Text) :
    d ∈ t ↔ ∃ part ∈ splitOn c t, d ∈ part := by
  have hjoined : d ∈ t ++ [c] ↔ d ∈ (splitOn c t).flatMap (· ++ [c]) := by rw [flatMap_splitOn]
  simpa [hd] using hjoined

end Text

namespace Import

open Text

variable {l rest r target : Text} {n : Nat} {ps : List Piece} {c : Char}

/-! ### Statements on one line -/

/-- Each statement of a sheet stands on one line. -/
def IsOneLine (t : Text) : Prop := ∀ p ∈ pieces t, p.isStatement = true → '\n' ∉ p.text

instance (t : Text) : Decidable (IsOneLine t) := inferInstanceAs (Decidable (∀ p ∈ pieces t, _))

/-- A line that is a statement is one also where other lines follow. -/
theorem statement?_append (h : statement? l = some (target, n)) (hl : '\n' ∉ l)
    (hr : StartsLine r) : statement? (l ++ r) = some (target, l.length) := by
  obtain ⟨p, hp, htarget, -, u, hu, hstarts⟩ := statement?_eq_some_iff.mp h
  have hnil : u = [] := by
    refine hstarts.resolve_right ?_
    rintro ⟨more, rfl⟩
    exact hl (by simp [hu])
  rw [hnil, List.append_nil] at hu
  exact statement?_eq_some_iff.mpr ⟨p, hp, htarget, by rw [hu], r, by rw [hu], hr⟩

/-- What starts a sheet as a statement is its first piece. -/
theorem exists_pieces_of_statement? {t : Text} (h : statement? t = some (target, n)) :
    ∃ ps, pieces t = .statement (t.take n) target :: ps := by
  cases t with
  | nil => cases h
  | cons c t =>
    refine ⟨piecesFrom statement? (c == '\n') (n - 1) t, ?_⟩
    rw [pieces, piecesFrom, if_pos rfl, h]

/-- If no statement goes over several lines, a line that is no statement does not start one. -/
theorem IsOneLine.statement?_eq_none (h : IsOneLine (l ++ '\n' :: rest)) (hl : '\n' ∉ l)
    (hnone : statement? l = none) : statement? (l ++ '\n' :: rest) = none := by
  cases hfind : statement? (l ++ '\n' :: rest) with
  | none => rfl
  | some found =>
    obtain ⟨target, n⟩ := found
    obtain ⟨p, hp, htarget, hlength, r, hr, hstarts⟩ := statement?_eq_some_iff.mp hfind
    obtain ⟨ps, hps⟩ := exists_pieces_of_statement? hfind
    rw [← hlength, hr, List.take_left] at hps
    have hone : '\n' ∉ p.text := h (.statement p.text target) (by rw [hr, hps]; simp) rfl
    -- The statement ends where the line does, so it is the line.
    obtain rfl : l = p.text := by
      rcases hstarts with rfl | ⟨more, rfl⟩
      · exact absurd (by rw [← List.append_nil p.text, ← hr]; simp) hone
      · exact (append_cons_inj hl hone hr).1
    have hself : statement? p.text = some (target, p.text.length) :=
      statement?_eq_some_iff.mpr ⟨p, hp, htarget, rfl, [], by simp, .inl rfl⟩
    cases hnone.symm.trans hself

/-! ### The pieces of a line -/

/-- The pieces of a line, with those of what follows it. -/
def linePieces (l : Text) (ps : List Piece) : List Piece :=
  match statement? l with
  | some (target, _) => .statement l target :: ps
  | none => l.foldr consChar ps

theorem opens_of_not_mem (atStart : Bool) (hl : '\n' ∉ l) (hne : l ≠ []) :
    opens atStart l = false := by
  rw [opens, List.getLast?_eq_some_getLast hne]
  have hlast : l.getLast hne ≠ '\n' := ne_of_mem_of_not_mem (List.getLast_mem hne) hl
  simpa using hlast

theorem piecesFrom_append_of_not_mem (find? : Text → Option (Text × Nat)) (hl : '\n' ∉ l)
    (r : Text) :
    piecesFrom find? false 0 (l ++ r) = l.foldr consChar (piecesFrom find? false 0 r) := by
  induction l with
  | nil => rfl
  | cons c l ih =>
    have hend : (c == '\n') = false := by simpa using Ne.symm (List.ne_of_not_mem_cons hl)
    rw [List.cons_append, piecesFrom, hend, ih (List.not_mem_of_not_mem_cons hl)]
    rfl

theorem piecesFrom_skip (find? : Text → Option (Text × Nat)) (atStart : Bool) (a r : Text) :
    piecesFrom find? atStart a.length (a ++ r) = piecesFrom find? (opens atStart a) 0 r := by
  induction a generalizing atStart with
  | nil => rfl
  | cons c a ih =>
    rw [List.length_cons, List.cons_append, piecesFrom, ih, opens_cons]

theorem pieces_append_of_none (hl : '\n' ∉ l) (h : statement? (l ++ r) = none) :
    pieces (l ++ r) = l.foldr consChar (piecesFrom statement? false 0 r) := by
  cases l with
  | nil =>
    cases r with
    | nil => rfl
    | cons c r =>
      rw [List.nil_append] at h
      rw [List.nil_append, pieces, piecesFrom, if_pos rfl, h]
      rfl
  | cons c l =>
    have hend : (c == '\n') = false := by simpa using Ne.symm (List.ne_of_not_mem_cons hl)
    rw [List.cons_append] at h
    rw [List.cons_append, pieces, piecesFrom, if_pos rfl, h, hend]
    exact congrArg (consChar c)
      (piecesFrom_append_of_not_mem statement? (List.not_mem_of_not_mem_cons hl) r)

theorem pieces_append_of_some (hl : '\n' ∉ l) (hr : StartsLine r)
    (h : statement? l = some (target, n)) :
    pieces (l ++ r) = .statement l target :: piecesFrom statement? false 0 r := by
  have hstatement := statement?_append h hl hr
  cases l with
  | nil => cases h
  | cons c l =>
    rw [List.cons_append] at hstatement
    rw [List.cons_append, pieces, piecesFrom, if_pos rfl, hstatement, ← List.cons_append]
    dsimp only
    have hopens := opens_of_not_mem true hl (List.cons_ne_nil c l)
    rw [opens_cons] at hopens
    rw [List.take_left, List.length_cons, Nat.add_sub_cancel, piecesFrom_skip, hopens]

/-- The pieces of a text that starts with a line. -/
theorem pieces_append (hl : '\n' ∉ l) (hr : StartsLine r)
    (h : statement? l = none → statement? (l ++ r) = none) :
    pieces (l ++ r) = linePieces l (piecesFrom statement? false 0 r) := by
  rw [linePieces]
  cases hstatement : statement? l with
  | none => exact pieces_append_of_none hl (h hstatement)
  | some found => exact pieces_append_of_some hl hr hstatement

/-- **The pieces of the last line.** -/
theorem pieces_last (hl : '\n' ∉ l) : pieces l = linePieces l [] := by
  have hpieces := pieces_append hl (.inl rfl) fun h => by rwa [List.append_nil]
  rwa [List.append_nil] at hpieces

/-- **The pieces of a line**, and those of the lines after it. -/
theorem pieces_line (h : IsOneLine (l ++ '\n' :: rest)) (hl : '\n' ∉ l) :
    pieces (l ++ '\n' :: rest) = linePieces l (consChar '\n' (pieces rest)) :=
  pieces_append hl (.inr ⟨rest, rfl⟩) (h.statement?_eq_none hl)

theorem statement_mem_consChar {p : Piece} (hp : p.isStatement = true) :
    p ∈ consChar c ps ↔ p ∈ ps := by
  rcases consChar_eq c ps with heq | ⟨t, more, rfl, heq⟩
  · rw [heq, List.mem_cons, or_iff_right]
    rintro rfl
    cases hp
  · rw [heq, List.mem_cons, List.mem_cons, or_iff_right, or_iff_right]
    · rintro rfl
      cases hp
    · rintro rfl
      cases hp

theorem statement_mem_foldr_consChar {p : Piece} (hp : p.isStatement = true) :
    p ∈ l.foldr consChar ps ↔ p ∈ ps := by
  induction l with
  | nil => rfl
  | cons c l ih => rw [List.foldr_cons, statement_mem_consChar hp, ih]

/-- The statements of a line, and those of what follows. -/
theorem statement_mem_linePieces {s : Text} : .statement s target ∈ linePieces l ps ↔
    (s = l ∧ ∃ n, statement? l = some (target, n)) ∨ .statement s target ∈ ps := by
  rw [linePieces]
  cases hl : statement? l with
  | none => simp [statement_mem_foldr_consChar (p := .statement s target) rfl]
  | some found =>
    obtain ⟨target', n⟩ := found
    simp [eq_comm]

theorem IsOneLine.tail (h : IsOneLine (l ++ '\n' :: rest)) (hl : '\n' ∉ l) : IsOneLine rest := by
  intro p hp hs
  cases p with
  | verbatim => cases hs
  | statement s target =>
    refine h (.statement s target) ?_ hs
    rw [pieces_line h hl]
    exact statement_mem_linePieces.mpr (.inr ((statement_mem_consChar rfl).mpr hp))

/-! ### Lines that stay -/

/-- A line stays as it is: it is no import, or one of something that is not inlined. -/
def IsKept (l : Text) : Prop :=
  ∀ target n, statement? l = some (target, n) → isForeign target = true

theorem isKept_iff : IsKept l ↔ (statement? l).all (isForeign ·.1) = true := by
  cases hl : statement? l with
  | none => simp [IsKept, hl]
  | some found => simp [IsKept, hl, Prod.ext_iff]

instance (l : Text) : Decidable (IsKept l) := decidable_of_iff _ isKept_iff.symm

theorem localPath?_eq_none_iff {dir : Path} : localPath? dir target = none ↔
    isForeign target = true := by
  rw [localPath?]
  split <;> simp [*]

end Import

namespace Bundle

open Import

variable {source : Source Id} {limit : Nat} {opened seen seen' : List Path} {path dir : Path}
  {inline : List Path → Path → Id (Except Failure (Text × List Path))} {l rest t : Text}
  {ps : List Piece}

/-- The path that a line imports, if it is an import that is to be inlined. -/
def importLine? (dir : Path) (l : Text) : Option Path :=
  (statement? l).bind fun found => localPath? dir found.1

theorem importLine?_eq_none_iff : importLine? dir l = none ↔ IsKept l := by
  rw [importLine?, Option.bind_eq_none_iff]
  constructor
  · intro h target n hfound
    exact localPath?_eq_none_iff.mp (h (target, n) hfound)
  · intro h found hfound
    exact localPath?_eq_none_iff.mpr (h found.1 found.2 hfound)

/-! ### What the lines of a sheet import -/

theorem exists_import_iff : (∃ p ∈ ps, importOf? dir p = some path) ↔
    ∃ s target, .statement s target ∈ ps ∧ localPath? dir target = some path := by
  constructor
  · rintro ⟨p, hp, hpath⟩
    cases p with
    | verbatim => cases hpath
    | statement s target => exact ⟨s, target, hp, hpath⟩
  · rintro ⟨s, target, hp, hpath⟩
    exact ⟨_, hp, hpath⟩

theorem exists_import_consChar {c : Char} : (∃ p ∈ consChar c ps, importOf? dir p = some path) ↔
    ∃ p ∈ ps, importOf? dir p = some path := by
  simp only [exists_import_iff, statement_mem_consChar (p := .statement _ _) rfl]

theorem exists_import_linePieces : (∃ p ∈ linePieces l ps, importOf? dir p = some path) ↔
    importLine? dir l = some path ∨ ∃ p ∈ ps, importOf? dir p = some path := by
  rw [exists_import_iff, exists_import_iff, importLine?, Option.bind_eq_some_iff]
  constructor
  · rintro ⟨s, target, hs, hpath⟩
    rcases statement_mem_linePieces.mp hs with ⟨-, n, hn⟩ | hs
    · exact .inl ⟨_, hn, hpath⟩
    · exact .inr ⟨s, target, hs, hpath⟩
  · rintro (⟨⟨target, n⟩, hn, hpath⟩ | ⟨s, target, hs, hpath⟩)
    · exact ⟨l, target, statement_mem_linePieces.mpr (.inl ⟨rfl, n, hn⟩), hpath⟩
    · exact ⟨s, target, statement_mem_linePieces.mpr (.inr hs), hpath⟩

/-- **What a sheet imports** is what its lines do. -/
theorem exists_import_pieces (h : IsOneLine t) : (∃ p ∈ pieces t, importOf? dir p = some path) ↔
    ∃ l ∈ Text.splitOn '\n' t, importLine? dir l = some path := by
  induction t using Text.line_induction with
  | last l hl =>
    rw [pieces_last hl, exists_import_linePieces, Text.splitOn_of_not_mem hl]
    simp
  | line l rest hl ih =>
    rw [pieces_line h hl, exists_import_linePieces, exists_import_consChar, ih (h.tail hl),
      Text.splitOn_append_cons hl]
    simp

/-! ### What the lines of a sheet contribute -/

/-- A text before what something has come to. -/
def before (t : Text) (r : Except Failure (Text × List Path)) : Except Failure (Text × List Path) :=
  r.map fun here => (t ++ here.1, here.2)

theorem before_before (t u : Text) (r : Except Failure (Text × List Path)) :
    before t (before u r) = before (t ++ u) r := by
  cases r with
  | error f => rfl
  | ok here => simp [before, Except.map]

/-- What a line contributes: what it imports, or itself. -/
def lineOf (inline : List Path → Path → Id (Except Failure (Text × List Path))) (dir : Path)
    (seen : List Path) (l : Text) : Except Failure (Text × List Path) :=
  match importLine? dir l with
  | none => .ok (l, seen)
  | some path => inline seen path

theorem expand_verbatim (t : Text) (ps : List Piece) (seen : List Path) :
    expand inline dir (.verbatim t :: ps) seen =
      before t (expand (m := Id) inline dir ps seen) := by
  rw [expand_cons_of_own rfl]
  cases expand (m := Id) inline dir ps seen <;> rfl

theorem expand_consChar (c : Char) (ps : List Piece) (seen : List Path) :
    expand (m := Id) inline dir (consChar c ps) seen =
      before [c] (expand (m := Id) inline dir ps seen) := by
  rcases consChar_eq c ps with heq | ⟨t, more, rfl, heq⟩
  · rw [heq, expand_verbatim]
  · rw [heq, expand_verbatim, expand_verbatim, before_before]
    rfl

theorem expand_foldr_consChar (l : Text) (ps : List Piece) (seen : List Path) :
    expand (m := Id) inline dir (l.foldr consChar ps) seen =
      before l (expand (m := Id) inline dir ps seen) := by
  induction l with
  | nil =>
    cases h : expand (m := Id) inline dir ps seen <;> simp [before, h, Except.map]
  | cons c l ih =>
    rw [List.foldr_cons, expand_consChar, ih, before_before]
    rfl

theorem expand_linePieces (l : Text) (ps : List Piece) (seen : List Path) :
    expand (m := Id) inline dir (linePieces l ps) seen =
      (lineOf inline dir seen l).bind fun here =>
        before here.1 (expand (m := Id) inline dir ps here.2) := by
  rw [linePieces, lineOf, importLine?]
  cases statement? l with
  | none => exact expand_foldr_consChar l ps seen
  | some found =>
    obtain ⟨target, n⟩ := found
    show expand (m := Id) inline dir (.statement l target :: ps) seen =
      Except.bind (match localPath? dir target with
        | none => .ok (l, seen)
        | some path => inline seen path) _
    cases hpath : localPath? dir target with
    | none =>
      have hown : importOf? dir (.statement l target) = none := hpath
      rw [expand_cons_of_own hown]
      cases hrest : expand (m := Id) inline dir ps seen <;>
        simp [Except.bind, before, Except.map, hrest, Piece.text]
    | some path =>
      have himport : importOf? dir (.statement l target) = some path := hpath
      rw [expand_cons_of_import himport]
      show _ = Except.bind (inline seen path) _
      cases hhere : inline seen path with
      | error f => rfl
      | ok here =>
        cases hrest : expand (m := Id) inline dir ps here.2 <;>
          simp [Except.bind, before, Except.map, hrest]

/-- **The expansion of the last line.** -/
theorem expand_last (hl : '\n' ∉ l) (seen : List Path) :
    expand (m := Id) inline dir (pieces l) seen = lineOf inline dir seen l := by
  rw [pieces_last hl, expand_linePieces]
  cases lineOf inline dir seen l with
  | error f => rfl
  | ok here =>
    show before here.1 (.ok ([], here.2)) = _
    simp [before, Except.map]

/-- **The expansion of a line**, and that of the lines after it. -/
theorem expand_line (h : IsOneLine (l ++ '\n' :: rest)) (hl : '\n' ∉ l) (seen : List Path) :
    expand (m := Id) inline dir (pieces (l ++ '\n' :: rest)) seen =
      (lineOf inline dir seen l).bind fun here =>
        before (here.1 ++ ['\n']) (expand (m := Id) inline dir (pieces rest) here.2) := by
  rw [pieces_line h hl, expand_linePieces]
  simp only [expand_consChar, before_before]

/-! ### The lines of a bundle -/

theorem exists_of_before_eq_ok {u : Text} {r : Except Failure (Text × List Path)}
    (h : before u r = .ok (t, seen')) : ∃ v, r = .ok (v, seen') ∧ t = u ++ v := by
  cases r with
  | error f => cases h
  | ok here =>
    obtain ⟨rfl, rfl⟩ := Prod.mk.inj (Except.ok.inj h)
    exact ⟨here.1, rfl, rfl⟩

variable {P : Text → Prop}

/-- The lines that a line contributes: itself, or those of what it imports. -/
theorem forall_lines_of_lineOf
    (hinline : ∀ seen path t seen', inline seen path = .ok (t, seen') →
      ∀ l ∈ Text.splitOn '\n' t, P l)
    (hl : '\n' ∉ l) (hown : IsKept l → P l) (h : lineOf inline dir seen l = .ok (t, seen')) :
    ∀ l ∈ Text.splitOn '\n' t, P l := by
  rw [lineOf] at h
  cases hpath : importLine? dir l with
  | none =>
    rw [hpath] at h
    obtain ⟨rfl, rfl⟩ := Prod.mk.inj (Except.ok.inj h)
    rw [Text.splitOn_of_not_mem hl, List.forall_mem_singleton]
    exact hown (importLine?_eq_none_iff.mp hpath)
  | some path =>
    rw [hpath] at h
    exact hinline _ _ _ _ h

theorem forall_lines_of_expand
    (hinline : ∀ seen path t seen', inline seen path = .ok (t, seen') →
      ∀ l ∈ Text.splitOn '\n' t, P l)
    {content : Text} (hcontent : IsOneLine content)
    (hown : ∀ l ∈ Text.splitOn '\n' content, IsKept l → P l)
    (h : expand (m := Id) inline dir (pieces content) seen = .ok (t, seen')) :
    ∀ l ∈ Text.splitOn '\n' t, P l := by
  induction content using Text.line_induction generalizing seen t with
  | last l hl =>
    rw [Text.splitOn_of_not_mem hl, List.forall_mem_singleton] at hown
    rw [expand_last hl] at h
    exact forall_lines_of_lineOf hinline hl hown h
  | line l rest hl ih =>
    rw [Text.splitOn_append_cons hl, List.forall_mem_cons] at hown
    rw [expand_line hcontent hl] at h
    cases hhere : lineOf inline dir seen l with
    | error f =>
      rw [hhere] at h
      cases h
    | ok here =>
      rw [hhere] at h
      obtain ⟨v, hrest, rfl⟩ := exists_of_before_eq_ok h
      rw [List.append_assoc, List.singleton_append, Text.splitOn_append_append,
        List.forall_mem_append]
      exact ⟨forall_lines_of_lineOf hinline hl hown.1 hhere, ih (hcontent.tail hl) hown.2 hrest⟩

/-- **The lines of a bundle** are empty, or lines of its files that stay. -/
theorem forall_lines_of_flatten
    (hone : ∀ file content, source.read file = .ok content → IsOneLine content) (hnil : P [])
    (hown : ∀ file content, source.read file = .ok content →
      ∀ l ∈ Text.splitOn '\n' content, IsKept l → P l)
    (h : flatten source limit opened seen path = .ok (t, seen')) :
    ∀ l ∈ Text.splitOn '\n' t, P l := by
  induction limit generalizing opened seen path t seen' with
  | zero => cases h
  | succ limit ih =>
    have houtcome := flatten_outcome source limit opened seen path
    generalize flatten source (limit + 1) opened seen path = r at h houtcome
    cases houtcome with
    | lost => cases h
    | cycle => cases h
    | unreadable => cases h
    | again =>
      obtain ⟨rfl, rfl⟩ := Prod.mk.inj (Except.ok.inj h)
      rwa [Text.splitOn_of_not_mem List.not_mem_nil, List.forall_mem_singleton]
    | first hpath hopened hseen hread =>
      exact forall_lines_of_expand (fun _ _ _ _ => ih) (hone _ _ hread) (hown _ _ hread) h

theorem forall_lines_of_bundle {entry : Path}
    (hone : ∀ file content, source.read file = .ok content → IsOneLine content) (hnil : P [])
    (hown : ∀ file content, source.read file = .ok content →
      ∀ l ∈ Text.splitOn '\n' content, IsKept l → P l)
    (h : bundle source limit entry = .ok t) : ∀ l ∈ Text.splitOn '\n' t, P l := by
  rw [bundle] at h
  cases hflatten : flatten source limit [] [] entry with
  | error f =>
    simp only [hflatten] at h
    cases h
  | ok here =>
    simp only [hflatten] at h
    obtain rfl := Except.ok.inj h
    exact forall_lines_of_flatten hone hnil hown hflatten

end Bundle

end Retint
