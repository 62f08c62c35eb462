import Retint.Proofs.Bundle.ByLine
import Retint.Proofs.Bundle.Search
import Retint.Proofs.Files.LineEnds

/-!
# Imports and line ends

An import statement is looked for up to a line feed or the end of the text. Where lines end in a
carriage return and a line feed, the carriage return stands between the semicolon and the line
feed, and the statement is not recognized. Only the last line of a file, which has no line end, can
be an import there. So with these line ends a bundle stays as it is only where no file that is
reached has an import before its last line.

## Main definitions

* `Import.IsPlain` — a text that can be given the other line ends
* `Import.ImportsLast` — a file has imports at its end only
* `Bundle.Source.crlf` — a source of files with the other line ends

## Main results

* `Import.IsPlain.pieces_crlf` — no line but the last is an import
* `Bundle.bundle_crlf` — a bundle of files that have imports at their ends only
* `Bundle.hasLines_of_bundle_crlf` — all other lines are in the bundle, also those that are imports
* `Bundle.ofTree_crlf_iff` — the headline: when the line ends make no difference
* `Bundle.ofTree_crlf_lost` — an import that is not inlined
-/

namespace Retint

namespace Import

open Text

variable {l rest target : Text} {n : Nat} {p : Parts}

/-! ### Statements -/

/-- What a statement ends with. -/
theorem Parts.IsProper.of_getLast? (hp : p.IsProper) {c : Char} (h : p.text.getLast? = some c) :
    c = ';' ∨ isLineBlank c = true := by
  have htail : (';' :: p.tail).getLast? = some c := by
    rw [← h, Parts.text]
    simp [List.getLast?_append, List.getLast?_cons]
  exact (List.mem_cons.mp (List.mem_of_getLast? htail)).imp_right (hp.tail c)

/-- The parts of a statement without carriage returns. -/
def Parts.dropReturns (p : Parts) : Parts where
  indent := Text.dropReturns p.indent
  gap := Text.dropReturns p.gap
  options := Text.dropReturns p.options
  opening := p.opening
  target := Text.dropReturns p.target
  closing := p.closing
  between := Text.dropReturns p.between
  tail := Text.dropReturns p.tail

theorem dropReturns_cons {c : Char} (hc : c ≠ '\r') (t : Text) :
    Text.dropReturns (c :: t) = c :: Text.dropReturns t := by
  simp [Text.dropReturns, hc]

theorem ne_return_of_isQuote {q : Char} (h : isQuote q = true) : q ≠ '\r' := by
  rintro rfl
  cases h

theorem Parts.IsProper.text_dropReturns (hp : p.IsProper) :
    p.dropReturns.text = Text.dropReturns p.text := by
  have hkeyword : Text.dropReturns "@import".toList = "@import".toList := rfl
  simp only [Parts.text, Parts.dropReturns, dropReturns_append, hkeyword,
    dropReturns_cons (ne_return_of_isQuote hp.opening),
    dropReturns_cons (ne_return_of_isQuote hp.closing),
    dropReturns_cons (show ';' ≠ '\r' by decide)]

theorem IsOptions.dropReturns {t : Text} (h : IsOptions t) : IsOptions (Text.dropReturns t) := by
  obtain ⟨inside, gap, rfl, hinside, hgap⟩ := h
  refine ⟨Text.dropReturns inside, Text.dropReturns gap, ?_, fun hmem => ?_, fun c hc => ?_⟩
  · rw [dropReturns_cons (by decide), dropReturns_append, dropReturns_cons (by decide)]
  · exact hinside (dropReturns_subset _ hmem)
  · exact hgap c (dropReturns_subset _ hc)

/-- The parts are those of a statement also without carriage returns, unless nothing is left of the
target. -/
theorem Parts.IsProper.dropReturns (hp : p.IsProper) (hne : Text.dropReturns p.target ≠ []) :
    p.dropReturns.IsProper where
  indent c hc := hp.indent c (dropReturns_subset _ hc)
  gap c hc := hp.gap c (dropReturns_subset _ hc)
  options := hp.options.imp (fun h => by rw [Parts.dropReturns, h]; rfl) IsOptions.dropReturns
  opening := hp.opening
  ne_nil := hne
  target c hc := hp.target c (dropReturns_subset _ hc)
  closing := hp.closing
  between := ⟨fun h => hp.between.1 (dropReturns_subset _ h),
    fun h => hp.between.2 (dropReturns_subset _ h)⟩
  tail c hc := hp.tail c (dropReturns_subset _ hc)

/-- Where each carriage return comes before a line feed, a target is not made of these alone. -/
theorem Parts.IsProper.dropReturns_target (hp : p.IsProper) {t r : Text} (ht : '\r' ∉ t)
    (h : crlf t = p.text ++ r) : Text.dropReturns p.target ≠ [] := by
  intro hnil
  obtain ⟨u, c, hu⟩ := (List.eq_nil_or_concat p.target).resolve_left hp.ne_nil
  have hc : c = '\r' := by
    have hall := List.filter_eq_nil_iff.mp hnil c (by simp [hu])
    simpa using hall
  have hreturn : crlf t = (p.indent ++ ("@import".toList ++ (p.gap ++ (p.options ++
      p.opening :: u)))) ++ '\r' :: (p.closing :: (p.between ++ ';' :: (p.tail ++ r))) := by
    rw [h, Parts.text_append, hu, hc]
    simp
  obtain ⟨more, hmore⟩ := exists_of_crlf_eq_append_return ht hreturn
  have hclosing := hp.closing
  rw [(List.cons.inj hmore).1] at hclosing
  cases hclosing

/-- The lines of a sheet end in line feeds alone, and each statement stands on one line. -/
structure IsPlain (t : Text) : Prop where
  no_return : '\r' ∉ t
  one_line : IsOneLine t

theorem isPlain_iff {t : Text} : IsPlain t ↔ '\r' ∉ t ∧ IsOneLine t :=
  ⟨fun h => ⟨h.no_return, h.one_line⟩, fun h => ⟨h.1, h.2⟩⟩

instance (t : Text) : Decidable (IsPlain t) := decidable_of_iff _ isPlain_iff.symm

theorem IsPlain.tail (h : IsPlain (l ++ '\n' :: rest)) (hl : '\n' ∉ l) : IsPlain rest where
  no_return hmem := h.no_return (List.mem_append_right _ (List.mem_cons_of_mem _ hmem))
  one_line := h.one_line.tail hl

/-- Only the last line can be an import that is inlined. -/
def ImportsLast (t : Text) : Prop := ∀ l ∈ (splitOn '\n' t).dropLast, IsKept l

instance (t : Text) : Decidable (ImportsLast t) :=
  inferInstanceAs (Decidable (∀ l ∈ (splitOn '\n' t).dropLast, IsKept l))

theorem dropLast_splitOn (hl : '\n' ∉ l) (rest : Text) :
    (splitOn '\n' (l ++ '\n' :: rest)).dropLast = l :: (splitOn '\n' rest).dropLast := by
  rw [splitOn_append_cons hl, List.dropLast_cons_of_ne_nil (splitOn_ne_nil _ _)]

/-! ### The pieces -/

/-- **A line that ends in a carriage return and a line feed** does not start a statement. -/
theorem IsPlain.statement?_crlf (h : IsPlain (l ++ '\n' :: rest)) :
    statement? (crlf (l ++ '\n' :: rest)) = none := by
  cases hfind : statement? (crlf (l ++ '\n' :: rest)) with
  | none => rfl
  | some found =>
    obtain ⟨target, n⟩ := found
    obtain ⟨p, hp, -, -, r, hr, rfl | ⟨more, rfl⟩⟩ := statement?_eq_some_iff.mp hfind
    · -- Without the carriage returns this would be a statement of several lines.
      have hproper := hp.dropReturns (hp.dropReturns_target h.no_return hr)
      have htext : p.dropReturns.text = l ++ '\n' :: rest := by
        rw [hp.text_dropReturns, ← List.append_nil p.text, ← hr, dropReturns_crlf h.no_return]
      have hwhole : statement? (l ++ '\n' :: rest) =
          some (p.dropReturns.target, p.dropReturns.text.length) :=
        statement?_eq_some_iff.mpr ⟨_, hproper, rfl, rfl, [], by rw [htext]; simp, .inl rfl⟩
      obtain ⟨ps, hps⟩ := exists_pieces_of_statement? hwhole
      rw [htext, List.take_length] at hps
      have hmem : '\n' ∉ l ++ '\n' :: rest :=
        h.one_line (.statement _ p.dropReturns.target) (by rw [hps]; simp) rfl
      simp at hmem
    · obtain ⟨u, hu⟩ := exists_of_crlf_eq_append_feed hr
      rcases hp.of_getLast? (c := '\r') (by rw [hu]; simp) with hend | hend
      · cases hend
      · cases hend

/-- The pieces of a line that ends in a carriage return and a line feed. -/
theorem IsPlain.pieces_crlf (h : IsPlain (l ++ '\n' :: rest)) (hl : '\n' ∉ l) :
    pieces (crlf (l ++ '\n' :: rest)) =
      (l ++ ['\r']).foldr consChar (consChar '\n' (pieces (crlf rest))) := by
  have hnone := h.statement?_crlf
  have hreturn : '\n' ∉ l ++ ['\r'] := by simpa using hl
  rw [crlf_append_cons hl] at hnone ⊢
  exact pieces_append_of_none hreturn hnone

end Import

namespace Bundle

open Import Relation Text

/-- A source of files whose lines end in a carriage return and a line feed. -/
def Source.crlf (source : Source Id) : Source Id where
  canonical := source.canonical
  read := fun path => Except.map Text.crlf (source.read path)
  skip := source.skip

variable {source : Source Id} {limit : Nat} {opened seen seen' files : List Path}
  {path dir entry file : Path} {l rest t content : Text}
  {inline inline' : List Path → Path → Id (Except Failure (Text × List Path))}

/-! ### What is imported -/

/-- **What a sheet imports** when the line ends are others: what its last line does. -/
theorem exists_import_crlf (h : IsPlain t) :
    (∃ p ∈ pieces (Text.crlf t), importOf? dir p = some path) ↔
      ∃ l ∈ (splitOn '\n' t).getLast?, importLine? dir l = some path := by
  induction t using Text.line_induction with
  | last l hl =>
    rw [crlf_of_not_mem hl, exists_import_pieces h.one_line, splitOn_of_not_mem hl]
    simp
  | line l rest hl ih =>
    have hfoldr : ∀ (u : Text) (ps : List Piece),
        (∃ p ∈ u.foldr consChar ps, importOf? dir p = some path) ↔
          ∃ p ∈ ps, importOf? dir p = some path := by
      intro u ps
      induction u with
      | nil => rfl
      | cons c u ihu => rw [List.foldr_cons, exists_import_consChar, ihu]
    rw [h.pieces_crlf hl, hfoldr, exists_import_consChar, ih (h.tail hl), splitOn_append_cons hl,
      List.getLast?_cons]
    cases hlast : (splitOn '\n' rest).getLast? with
    | none => exact absurd (List.getLast?_eq_none_iff.mp hlast) (splitOn_ne_nil _ _)
    | some last => rfl

theorem read_crlf_eq_ok_iff : source.crlf.read file = .ok t ↔
    ∃ content, source.read file = .ok content ∧ Text.crlf content = t := by
  show Except.map Text.crlf (source.read file) = .ok t ↔ _
  cases source.read file with
  | error fault => exact ⟨nofun, nofun⟩
  | ok content =>
    constructor
    · intro h
      exact ⟨content, rfl, Except.ok.inj h⟩
    · rintro ⟨content', hcontent, rfl⟩
      rw [Except.ok.inj hcontent]
      rfl

theorem wants_crlf_iff
    (hplain : ∀ file content, source.read file = .ok content → IsPlain content) :
    Wants source.crlf file path ↔ ∃ content, source.read file = .ok content ∧
      ∃ l ∈ (splitOn '\n' content).getLast?, importLine? (dirOf file) l = some path := by
  constructor
  · rintro ⟨t, ht, himport⟩
    obtain ⟨content, hread, rfl⟩ := read_crlf_eq_ok_iff.mp ht
    exact ⟨content, hread, (exists_import_crlf (hplain file content hread)).mp himport⟩
  · rintro ⟨content, hread, himport⟩
    exact ⟨_, read_crlf_eq_ok_iff.mpr ⟨content, hread, rfl⟩,
      (exists_import_crlf (hplain file content hread)).mpr himport⟩

/-- What is imported when the line ends are others is imported anyway. -/
theorem wants_of_wants_crlf
    (hplain : ∀ file content, source.read file = .ok content → IsPlain content)
    (h : Wants source.crlf file path) : Wants source file path := by
  obtain ⟨content, hread, l, hl, himport⟩ := (wants_crlf_iff hplain).mp h
  refine ⟨content, hread, ?_⟩
  rw [exists_import_pieces (hplain file content hread).one_line]
  exact ⟨l, List.mem_of_getLast? hl, himport⟩

theorem imports_crlf_le
    (hplain : ∀ file content, source.read file = .ok content → IsPlain content) :
    Imports source.crlf ≤ Imports source :=
  fun _ _ ⟨path, hwants, hpath⟩ => ⟨path, wants_of_wants_crlf hplain hwants, hpath⟩

theorem reaches_of_reaches_crlf
    (hplain : ∀ file content, source.read file = .ok content → IsPlain content)
    (h : Reaches source.crlf entry file) : Reaches source entry file := by
  obtain ⟨first, hfirst, hchain⟩ := h
  exact ⟨first, hfirst, ReflTransGen.mono (imports_crlf_le hplain) _ _ hchain⟩

/-- What can be bundled can be bundled when the line ends are others: no more is imported then. -/
theorem IsBundleable.crlf
    (hplain : ∀ file content, source.read file = .ok content → IsPlain content)
    (h : IsBundleable source entry) : IsBundleable source.crlf entry where
  canonical := h.canonical
  readable file hfile := by
    obtain ⟨content, hread⟩ := h.readable file (reaches_of_reaches_crlf hplain hfile)
    exact ⟨_, read_crlf_eq_ok_iff.mpr ⟨content, hread, rfl⟩⟩
  present file path hfile hwants :=
    h.present file path (reaches_of_reaches_crlf hplain hfile) (wants_of_wants_crlf hplain hwants)
  acyclic file hfile hcycle := by
    exact h.acyclic file (reaches_of_reaches_crlf hplain hfile)
      (TransGen.mono (imports_crlf_le hplain) _ _ hcycle)

/-! ### Files with imports at their ends only -/

/-- What something has come to, with the other line ends. -/
def returned (r : Except Failure (Text × List Path)) : Except Failure (Text × List Path) :=
  r.map fun here => (Text.crlf here.1, here.2)

theorem returned_before (u : Text) (r : Except Failure (Text × List Path)) :
    returned (before u r) = before (Text.crlf u) (returned r) := by
  cases r with
  | error f => rfl
  | ok here => simp [returned, before, Except.map, crlf_append]

/-- A line that stays, and the lines after it. -/
theorem expand_line_of_isKept (h : IsOneLine (l ++ '\n' :: rest)) (hl : '\n' ∉ l)
    (hkept : IsKept l) (seen : List Path) :
    expand (m := Id) inline dir (pieces (l ++ '\n' :: rest)) seen =
      before (l ++ ['\n']) (expand (m := Id) inline dir (pieces rest) seen) := by
  rw [expand_line h hl, lineOf, importLine?_eq_none_iff.mpr hkept]
  rfl

/-- A line with the other line end stays always. -/
theorem expand_crlf_line (h : IsPlain (l ++ '\n' :: rest)) (hl : '\n' ∉ l) (seen : List Path) :
    expand (m := Id) inline dir (pieces (Text.crlf (l ++ '\n' :: rest))) seen =
      before (l ++ ['\r', '\n'])
        (expand (m := Id) inline dir (pieces (Text.crlf rest)) seen) := by
  rw [h.pieces_crlf hl, expand_foldr_consChar, expand_consChar, before_before, List.append_assoc]
  rfl

theorem expand_crlf (h : IsPlain content) (hlast : ImportsLast content)
    (hinline : ∀ l ∈ (splitOn '\n' content).getLast?, ∀ path, importLine? dir l = some path →
      ∀ seen, inline' seen path = returned (inline seen path)) (seen : List Path) :
    expand (m := Id) inline' dir (pieces (Text.crlf content)) seen =
      returned (expand (m := Id) inline dir (pieces content) seen) := by
  induction content using Text.line_induction with
  | last l hl =>
    rw [crlf_of_not_mem hl, expand_last hl, expand_last hl, lineOf, lineOf]
    cases hpath : importLine? dir l with
    | none =>
      show _ = Except.ok (Text.crlf l, seen)
      rw [crlf_of_not_mem hl]
    | some path => exact hinline l (by rw [splitOn_of_not_mem hl]; rfl) path hpath seen
  | line l rest hl ih =>
    rw [ImportsLast, dropLast_splitOn hl, List.forall_mem_cons] at hlast
    rw [expand_crlf_line h hl, expand_line_of_isKept h.one_line hl hlast.1, returned_before,
      ih (h.tail hl) hlast.2, crlf_append, crlf_of_not_mem hl]
    · rfl
    · intro last hmem
      refine hinline last ?_
      rw [splitOn_append_cons hl, List.getLast?_cons, Option.mem_def.mp hmem]
      rfl

/-- Opening a file that leads only to files with imports at their ends. -/
theorem flatten_crlf
    (hplain : ∀ file content, source.read file = .ok content → IsPlain content)
    (hpath : ∀ first, source.canonical path = .ok first → ∀ file,
      ReflTransGen (Imports source.crlf) first file → ∀ content, source.read file = .ok content →
        ImportsLast content) :
    flatten source.crlf limit opened seen path =
      returned (flatten source limit opened seen path) := by
  induction limit generalizing opened seen path with
  | zero => rfl
  | succ limit ih =>
    rw [flatten_succ, flatten_succ]
    have hsame : source.crlf.canonical path = source.canonical path := rfl
    rw [hsame]
    cases hcanonical : source.canonical path with
    | error fault => rfl
    | ok file =>
      dsimp only
      by_cases hopened : file ∈ opened
      · rw [if_pos hopened, if_pos hopened]
        rfl
      rw [if_neg hopened, if_neg hopened]
      by_cases hseen : file ∈ seen
      · rw [if_pos hseen, if_pos hseen]
        rfl
      rw [if_neg hseen, if_neg hseen]
      have hreturned : source.crlf.read file = Except.map Text.crlf (source.read file) := rfl
      rw [hreturned]
      cases hread : source.read file with
      | error fault => rfl
      | ok content =>
        refine expand_crlf (hplain file content hread)
          (hpath file hcanonical file .refl content hread) (fun l hl next himport seen => ?_) _
        refine ih fun first hfirst file' hchain => hpath file hcanonical file' (.head ?_ hchain)
        exact ⟨next, (wants_crlf_iff hplain).mpr ⟨content, hread, l, hl, himport⟩, hfirst⟩

/-- **A bundle of files with imports at their ends only** is the same but for the line ends. -/
theorem bundle_crlf
    (hplain : ∀ file content, source.read file = .ok content → IsPlain content)
    (hlast : ∀ file content, Reaches source.crlf entry file → source.read file = .ok content →
      ImportsLast content) :
    bundle source.crlf limit entry = (bundle (m := Id) source limit entry).map Text.crlf := by
  have hflatten : flatten source.crlf limit [] [] entry =
      returned (flatten source limit [] [] entry) :=
    flatten_crlf hplain fun first hfirst file hchain content hread =>
      hlast file content ⟨first, hfirst, hchain⟩ hread
  rw [bundle, bundle, hflatten]
  cases flatten source limit [] [] entry with
  | error f => rfl
  | ok here => rfl

/-! ### Files with imports before their ends -/

/-- The lines of a sheet but the last are lines of a text with the other line ends. -/
def HasLines (t content : Text) : Prop :=
  ∀ l ∈ (splitOn '\n' content).dropLast, l ∈ splitOn '\n' (dropReturns t)

/-- A text has the lines of all files that have been met since. -/
def HasMet (source : Source Id) (seen : List Path) (t : Text) (seen' : List Path) : Prop :=
  ∀ file ∈ seen', file ∉ seen → ∀ content, source.read file = .ok content → HasLines t content

theorem hasMet_self (seen : List Path) (t : Text) : HasMet source seen t seen :=
  fun _ hfile hnew => absurd hfile hnew

theorem dropReturns_line (hl : '\r' ∉ l) (t : Text) :
    dropReturns (l ++ ['\r', '\n'] ++ t) = l ++ '\n' :: dropReturns t := by
  rw [dropReturns_append, dropReturns_append, dropReturns_of_not_mem hl, List.append_assoc]
  rfl

theorem HasLines.cons (h : HasLines t content) (hl : '\r' ∉ l) (hn : '\n' ∉ l) :
    HasLines (l ++ ['\r', '\n'] ++ t) content := by
  intro line hline
  rw [dropReturns_line hl, splitOn_append_cons hn]
  exact List.mem_cons_of_mem l (h line hline)

/-- A sheet with the other line ends is expanded to a text that has all its lines but the last. -/
theorem hasLines_of_expand
    (hinline : ∀ seen path t seen', inline seen path = .ok (t, seen') →
      HasMet source seen t seen')
    (h : IsPlain content)
    (hexpand : expand (m := Id) inline dir (pieces (Text.crlf content)) seen = .ok (t, seen')) :
    HasLines t content ∧ HasMet source seen t seen' := by
  induction content using Text.line_induction generalizing t with
  | last l hl =>
    refine ⟨?_, ?_⟩
    · rw [HasLines, splitOn_of_not_mem hl]
      exact List.forall_mem_nil _
    · rw [crlf_of_not_mem hl, expand_last hl, lineOf] at hexpand
      cases hpath : importLine? dir l with
      | none =>
        rw [hpath] at hexpand
        rw [← (Prod.mk.inj (Except.ok.inj hexpand)).2]
        exact hasMet_self seen t
      | some path =>
        rw [hpath] at hexpand
        exact hinline seen path t seen' hexpand
  | line l rest hl ih =>
    have hreturn : '\r' ∉ l := fun hmem => h.no_return (List.mem_append_left _ hmem)
    rw [expand_crlf_line h hl] at hexpand
    obtain ⟨u, hrest, rfl⟩ := exists_of_before_eq_ok hexpand
    obtain ⟨hlines, hmet⟩ := ih (h.tail hl) hrest
    refine ⟨?_, fun file hfile hnew content hread => (hmet file hfile hnew content hread).cons
      hreturn hl⟩
    intro line hline
    rw [dropLast_splitOn hl] at hline
    rcases List.mem_cons.mp hline with rfl | hline
    · rw [dropReturns_line hreturn, splitOn_append_cons hl]
      exact List.mem_cons_self ..
    · exact hlines.cons hreturn hl line hline

/-- **Whatever is met** with the other line ends leaves all its lines but the last. -/
theorem hasMet_of_flatten
    (hplain : ∀ file content, source.read file = .ok content → IsPlain content)
    (h : flatten source.crlf limit opened seen path = .ok (t, seen')) :
    HasMet source seen t seen' := by
  induction limit generalizing opened seen path t seen' with
  | zero => cases h
  | succ limit ih =>
    have houtcome := flatten_outcome source.crlf limit opened seen path
    generalize flatten source.crlf (limit + 1) opened seen path = r at h houtcome
    cases houtcome with
    | lost => cases h
    | cycle => cases h
    | unreadable => cases h
    | again =>
      rw [← (Prod.mk.inj (Except.ok.inj h)).2]
      exact hasMet_self seen t
    | @first next _ hpath hopened hseen hreturned =>
      obtain ⟨content, hread, rfl⟩ := read_crlf_eq_ok_iff.mp hreturned
      obtain ⟨hlines, hmet⟩ := hasLines_of_expand (fun _ _ _ _ => ih) (hplain _ _ hread) h
      intro file hfile hnew content' hread'
      by_cases heq : file = next
      · rw [heq, hread] at hread'
        rwa [← Except.ok.inj hread']
      · exact hmet file hfile (List.not_mem_cons_of_ne_of_not_mem heq hnew) content' hread'

/-- All files that are reached leave their lines but the last in the bundle. -/
theorem hasLines_of_bundle_crlf
    (hplain : ∀ file content, source.read file = .ok content → IsPlain content)
    (h : bundle source.crlf limit entry = .ok t) (hfile : Reaches source.crlf entry file)
    (hread : source.read file = .ok content) : HasLines t content := by
  rw [bundle] at h
  cases hflatten : flatten source.crlf limit [] [] entry with
  | error f =>
    simp only [hflatten] at h
    cases h
  | ok here =>
    obtain ⟨u, met⟩ := here
    simp only [hflatten] at h
    obtain rfl : u = t := Except.ok.inj h
    refine hasMet_of_flatten hplain hflatten file ?_ List.not_mem_nil content hread
    obtain ⟨blocks, hblocks, -⟩ := exists_inlining hflatten
    cases hblocks with
    | again _ _ hseen => cases hseen
    | first hpath _ _ hread' inside => exact (inside.mem_iff_reaches hpath hread').mpr hfile

/-- The lines of a bundle have no carriage returns, and none of them could have been inlined. -/
theorem isKept_of_bundle
    (hplain : ∀ file content, source.read file = .ok content → IsPlain content)
    (h : bundle source limit entry = .ok t) : ∀ l ∈ splitOn '\n' t, '\r' ∉ l ∧ IsKept l := by
  refine forall_lines_of_bundle (fun file content hread => (hplain file content hread).one_line)
    ⟨List.not_mem_nil, fun target n h => by cases h⟩ (fun file content hread l hl hkept => ?_) h
  refine ⟨fun hmem => (hplain file content hread).no_return ?_, hkept⟩
  exact (mem_iff_exists_splitOn (by decide) content).mpr ⟨l, hl, hmem⟩

/-! ### When the line ends make no difference -/

theorem isCoveredBy_crlf (h : source.IsCoveredBy files) : source.crlf.IsCoveredBy files := by
  intro path file t hpath hread
  obtain ⟨content, hcontent, -⟩ := read_crlf_eq_ok_iff.mp hread
  exact h path file content hpath hcontent

theorem dropReturns_crlf_of_bundle
    (hplain : ∀ file content, source.read file = .ok content → IsPlain content)
    (h : bundle source limit entry = .ok t) : dropReturns (Text.crlf t) = t := by
  refine dropReturns_crlf fun hmem => ?_
  obtain ⟨l, hl, hmem⟩ := (mem_iff_exists_splitOn (c := '\n') (by decide) t).mp hmem
  exact (isKept_of_bundle hplain h l hl).1 hmem

/-- With the other line ends no bundle fails that is had without them. -/
theorem exists_bundle_crlf (hfiles : source.IsCoveredBy files) (hlimit : files.length < limit)
    (hplain : ∀ file content, source.read file = .ok content → IsPlain content)
    (h : bundle source limit entry = .ok t) :
    ∃ t', bundle (m := Id) source.crlf limit entry = .ok t' := by
  cases hcrlf : bundle (m := Id) source.crlf limit entry with
  | ok t' => exact ⟨t', rfl⟩
  | error f =>
    have hfails := fails_of_bundle (isCoveredBy_crlf hfiles) hlimit hcrlf
    exact absurd ((IsBundleable.of_bundle h).crlf hplain) hfails.not_isBundleable

/-- **When the line ends make no difference**: where every file that is reached with the other line
ends has imports at its end only, unless nothing can be bundled anyway. -/
theorem bundle_crlf_iff (hfiles : source.IsCoveredBy files) (hlimit : files.length < limit)
    (hplain : ∀ file content, source.read file = .ok content → IsPlain content) :
    (bundle (m := Id) source.crlf limit entry).toOption.map dropReturns =
        (bundle (m := Id) source limit entry).toOption ↔
      ∀ t, bundle source.crlf limit entry = .ok t → ∀ file content,
        Reaches source.crlf entry file → source.read file = .ok content → ImportsLast content := by
  constructor
  · -- A line that could have been inlined is in the one bundle and cannot be in the other.
    intro hsame t ht file content hreach hread l hl
    rw [ht] at hsame
    have hbundle : bundle source limit entry = .ok (dropReturns t) := by
      cases h : bundle (m := Id) source limit entry with
      | error f =>
        rw [h] at hsame
        cases hsame
      | ok u =>
        rw [h] at hsame
        rw [← Option.some.inj hsame]
    have hline := hasLines_of_bundle_crlf hplain ht hreach hread l hl
    exact (isKept_of_bundle hplain hbundle l hline).2
  · intro hlast
    cases hcrlf : bundle (m := Id) source.crlf limit entry with
    | ok t =>
      have hreturned : bundle source.crlf limit entry =
          (bundle (m := Id) source limit entry).map Text.crlf := bundle_crlf hplain (hlast t hcrlf)
      rw [hcrlf] at hreturned
      cases h : bundle (m := Id) source limit entry with
      | error f =>
        rw [h] at hreturned
        cases hreturned
      | ok u =>
        rw [h] at hreturned
        obtain rfl : t = Text.crlf u := Except.ok.inj hreturned
        exact congrArg some (dropReturns_crlf_of_bundle hplain h)
    | error f =>
      cases h : bundle (m := Id) source limit entry with
      | error f' => rfl
      | ok u =>
        obtain ⟨t', ht'⟩ := exists_bundle_crlf hfiles hlimit hplain h
        cases hcrlf.symm.trans ht'

/-! ### File trees -/

variable {fs : FileSystem}

theorem treeSource_crlf (fs : FileSystem) : treeSource fs.crlf = (treeSource fs).crlf := by
  have hcanonical : fs.crlf.canonical = fs.canonical := funext FileSystem.canonical_crlf
  have hread : fs.crlf.readText = fun p => (fs.readText p).map Text.crlf :=
    funext FileSystem.readText_crlf
  rw [treeSource, treeSource, hcanonical, hread]
  rfl

theorem treeLimit_crlf (fs : FileSystem) : treeLimit fs.crlf = treeLimit fs :=
  congrArg (· + 1) (Files.Entry.fileCount_crlf fs.root)

/-- **Imports and line ends** in a tree whose texts have no carriage returns and no statements of
several lines. With carriage returns before the line feeds a file imports only what its last line
does, and a bundle is had still. It is the same as before, but for the line ends, exactly if every
file that is reached has imports at its end only; or there is no bundle in either case. -/
theorem ofTree_crlf_iff (hdir : fs.IsPlace fs.workingDir.reverse)
    (hplain : ∀ t ∈ fs.root.texts, IsPlain t) (entry : Path) :
    (∀ file path, Wants (treeSource fs.crlf) file path ↔
        ∃ content, fs.readText file = .ok content ∧
          ∃ l ∈ (splitOn '\n' content).getLast?, importLine? (dirOf file) l = some path) ∧
      (∀ t, ofTree fs entry = .ok t → ∃ t', ofTree fs.crlf entry = .ok t') ∧
      ((ofTree fs.crlf entry).toOption.map dropReturns = (ofTree fs entry).toOption ↔
        ∀ t, ofTree fs.crlf entry = .ok t → ∀ file content,
          Reaches (treeSource fs.crlf) entry file → fs.readText file = .ok content →
            ImportsLast content) := by
  have hall : ∀ file content, (treeSource fs).read file = .ok content → IsPlain content :=
    fun file content hread => hplain content (FileSystem.mem_texts hread)
  obtain ⟨files, hlength, hfiles⟩ := isBoundedBy_treeSource hdir
  have hlimit : files.length < treeLimit fs := Nat.lt_succ_of_le hlength
  rw [ofTree, ofTree, treeSource_crlf, treeLimit_crlf]
  exact ⟨fun file path => wants_crlf_iff hall,
    fun t ht => exists_bundle_crlf hfiles hlimit hall ht, bundle_crlf_iff hfiles hlimit hall⟩

/-- Sheets with imports at their ends only, and with an import of a plain stylesheet. -/
def trailing : FileSystem :=
  ⟨.dir [("a.less".toList,
      .file (.text "@import 'x.css';\n@a: 1;\n@import 'b';".toList) false),
    ("b.less".toList, .file (.text "@b: 2;\n@import \"c\"; ".toList) false),
    ("c.less".toList, .file (.text "@c: 3;\n".toList) false)], []⟩

theorem ofTree_crlf_iff_trailing :
    trailing.IsPlace trailing.workingDir.reverse ∧ (∀ t ∈ trailing.root.texts, IsPlain t) ∧
      ofTree trailing (.ofString "a.less") =
        .ok "@import 'x.css';\n@a: 1;\n@b: 2;\n@c: 3;\n".toList ∧
      (ofTree trailing.crlf (.ofString "a.less")).toOption.map dropReturns =
        (ofTree trailing (.ofString "a.less")).toOption := by
  have hplain : ∀ t ∈ trailing.root.texts, IsPlain t := by decide +kernel
  have hlast : ∀ t ∈ trailing.root.texts, ImportsLast t := by decide +kernel
  have hdir : trailing.IsPlace trailing.workingDir.reverse := .root
  obtain ⟨-, -, hiff⟩ := ofTree_crlf_iff hdir hplain (.ofString "a.less")
  exact ⟨hdir, hplain, by decide +kernel,
    hiff.mpr fun _ _ _ _ _ hread => hlast _ (FileSystem.mem_texts hread)⟩

/-- A sheet with an import on a line that ends. -/
def leading : FileSystem :=
  ⟨.dir [("a.less".toList, .file (.text "@import \"b\";\n".toList) false),
    ("b.less".toList, .file (.text "@x: 1;\n".toList) false)], []⟩

/-- **An import that is not inlined** when the line ends are others. -/
theorem ofTree_crlf_lost :
    (∀ t ∈ leading.root.texts, IsPlain t) ∧
      ofTree leading (.ofString "a.less") = .ok "@x: 1;\n\n".toList ∧
      ofTree leading.crlf (.ofString "a.less") = .ok "@import \"b\";\r\n".toList ∧
      (ofTree leading.crlf (.ofString "a.less")).toOption.map dropReturns ≠
        (ofTree leading (.ofString "a.less")).toOption := by
  decide +kernel

end Bundle

end Retint
