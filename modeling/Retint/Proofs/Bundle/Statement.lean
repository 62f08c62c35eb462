import Mathlib.Data.List.Chain
import Retint.Import
import Retint.Proofs.Text.Lines
import Retint.Proofs.Text.Replace

/-!
# Import statements and what stands around them

An import statement has a form that does not depend on how it is searched for: the keyword after
spaces and tabs, white space and perhaps options, a target in quotes, and a semicolon that ends the
line. A statement takes whole lines, so the text around it begins and ends at lines: what comes
before it ends in a line feed, and what comes after it starts with one.

## Main definitions

* `Import.Parts` — the parts of an import statement
* `Import.IsSplit` — what the pieces of a sheet are

## Main results

* `Import.statement?_eq_some_iff` — what is read as an import statement
* `Import.isSplit_pieces` — statements are all found, and take whole lines of their sheet
-/

namespace Retint.Import

open Text

/-! ### The form of a statement -/

/-- The parts of an import statement: `indent @import gap options "target" between ; tail`. -/
structure Parts where
  indent : Text
  gap : Text
  options : Text
  opening : Char
  target : Text
  closing : Char
  between : Text
  tail : Text

/-- The statement that parts make. -/
def Parts.text (p : Parts) : Text :=
  p.indent ++ ("@import".toList ++ (p.gap ++ (p.options ++
    p.opening :: (p.target ++ p.closing :: (p.between ++ ';' :: p.tail)))))

/-- Options in parentheses with white space after them. -/
def IsOptions (t : Text) : Prop :=
  ∃ inside gap, t = '(' :: (inside ++ ')' :: gap) ∧ ')' ∉ inside ∧ IsBlank gap

/-- What the parts of an import statement are. White space and options may go over several lines,
and so may the target; what is between the target and the semicolon does not. -/
structure Parts.IsProper (p : Parts) : Prop where
  indent : ∀ c ∈ p.indent, isLineBlank c = true
  gap : IsBlank p.gap
  options : p.options = [] ∨ IsOptions p.options
  opening : isQuote p.opening = true
  ne_nil : p.target ≠ []
  target : ∀ c ∈ p.target, isQuote c = false
  closing : isQuote p.closing = true
  between : ';' ∉ p.between ∧ '\n' ∉ p.between
  tail : ∀ c ∈ p.tail, isLineBlank c = true

/-- A text is empty or starts with a line feed. -/
def StartsLine (t : Text) : Prop := t = [] ∨ ∃ more, t = '\n' :: more

variable {t r after target : Text} {n : Nat}

theorem keyword?_eq_some_iff : keyword? t = some r ↔
    ∃ indent, (∀ c ∈ indent, isLineBlank c = true) ∧ t = indent ++ ("@import".toList ++ r) := by
  rw [keyword?, dropLead?_eq_some_iff]
  constructor
  · intro h
    refine ⟨t.takeWhile isLineBlank, fun c hc => List.all_eq_true.mp List.all_takeWhile c hc, ?_⟩
    rw [← h, List.takeWhile_append_dropWhile]
  · rintro ⟨indent, hindent, rfl⟩
    rw [List.dropWhile_append_of_pos hindent]
    rfl

theorem target?_eq_some_iff : target? t = some (target, r) ↔
    ∃ q q', isQuote q = true ∧ isQuote q' = true ∧ target ≠ [] ∧
      (∀ c ∈ target, isQuote c = false) ∧ t = q :: (target ++ q' :: r) := by
  constructor
  · intro h
    unfold target? at h
    split at h
    · rename_i q rest
      split at h
      · rename_i hq
        have hsplit : rest.takeWhile (! isQuote ·) ++ rest.dropWhile (! isQuote ·) = rest :=
          List.takeWhile_append_dropWhile
        split at h
        · cases h
        · rename_i quote tail hdrop hne
          obtain ⟨rfl, rfl⟩ := Prod.mk.inj (Option.some.inj h)
          have hquote : isQuote quote = true := by
            have hhead := List.head?_dropWhile_not (! isQuote ·) rest
            rw [hdrop] at hhead
            simpa using hhead
          refine ⟨q, quote, hq, hquote, hne, fun c hc => ?_, ?_⟩
          · simpa using List.all_eq_true.mp List.all_takeWhile c hc
          · rw [← hdrop, hsplit]
        · cases h
      · cases h
    · cases h
  · rintro ⟨q, q', hq, hq', hne, htarget, rfl⟩
    have hall : ∀ c ∈ target, (! isQuote c) = true := by
      intro c hc
      rw [htarget c hc]
      rfl
    have hstop : (! isQuote q') = false := by rw [hq', Bool.not_true]
    obtain ⟨c, u, rfl⟩ := List.exists_cons_of_ne_nil hne
    simp only [target?, hq, if_true, takeWhile_append_cons (p := (! isQuote ·)) hall hstop,
      dropWhile_append_cons (p := (! isQuote ·)) hall hstop]

theorem lineEnd?_eq_some_iff : lineEnd? t = some after ↔
    StartsLine after ∧ ∃ tail, (∀ c ∈ tail, isLineBlank c = true) ∧ t = ';' :: (tail ++ after) := by
  constructor
  · intro h
    unfold lineEnd? at h
    split at h
    · rename_i rest
      have hblank : ∀ c ∈ rest.takeWhile isLineBlank, isLineBlank c = true :=
        fun c hc => List.all_eq_true.mp List.all_takeWhile c hc
      have hsplit : rest.takeWhile isLineBlank ++ rest.dropWhile isLineBlank = rest :=
        List.takeWhile_append_dropWhile
      split at h
      · rename_i hdrop
        obtain rfl := Option.some.inj h
        refine ⟨.inl rfl, _, hblank, ?_⟩
        rw [← hdrop, hsplit]
      · rename_i more hdrop
        obtain rfl := Option.some.inj h
        refine ⟨.inr ⟨more, rfl⟩, _, hblank, ?_⟩
        rw [← hdrop, hsplit]
      · cases h
    · cases h
  · rintro ⟨hafter, tail, htail, rfl⟩
    rcases hafter with rfl | ⟨more, rfl⟩
    · have hdrop : (tail ++ []).dropWhile isLineBlank = [] := List.dropWhile_append_of_pos htail
      simp only [lineEnd?, hdrop]
    · have hdrop := dropWhile_append_cons htail (d := '\n') (by decide) more
      simp only [lineEnd?, hdrop]

/-- Options are dropped if there are any. -/
theorem exists_options (t : Text) :
    ∃ options, t = options ++ dropOptions t ∧ (options = [] ∨ IsOptions options) := by
  unfold dropOptions
  split
  · rename_i rest
    split
    · rename_i inside tail hcut
      have hinside : rest = inside ++ ')' :: tail ∧ ')' ∉ inside := eq_of_cut? hcut
      refine ⟨'(' :: (inside ++ ')' :: tail.takeWhile isBlank), ?_, .inr ⟨_, _, rfl, hinside.2, ?_⟩⟩
      · have hsplit : tail.takeWhile isBlank ++ trimStart tail = tail :=
          List.takeWhile_append_dropWhile
        rw [hinside.1]
        simp [hsplit]
      · exact fun c hc => List.all_eq_true.mp List.all_takeWhile c hc
    · exact ⟨[], rfl, .inl rfl⟩
  · exact ⟨[], rfl, .inl rfl⟩

theorem dropOptions_quote {q : Char} (hq : isQuote q = true) (t : Text) :
    dropOptions (q :: t) = q :: t := by
  unfold dropOptions
  split
  · rename_i heq
    obtain ⟨rfl, -⟩ := List.cons.inj heq
    exact absurd hq (by decide)
  · rfl

theorem dropOptions_append {options : Text} (h : IsOptions options) {q : Char}
    (hq : isBlank q = false) (t : Text) : dropOptions (options ++ q :: t) = q :: t := by
  obtain ⟨inside, gap, rfl, hinside, hgap⟩ := h
  have heq : ('(' :: (inside ++ ')' :: gap)) ++ q :: t =
      '(' :: (inside ++ ')' :: (gap ++ q :: t)) := by simp
  rw [heq]
  simp only [dropOptions, cut?_append_cons hinside]
  rw [trimStart_append hgap, trimStart_cons hq]

theorem not_isBlank_of_isQuote {q : Char} (h : isQuote q = true) : isBlank q = false := by
  simp only [isQuote, Bool.or_eq_true, beq_iff_eq] at h
  rcases h with rfl | rfl <;> decide

theorem Parts.text_append (p : Parts) (rest : Text) : p.text ++ rest =
    p.indent ++ ("@import".toList ++ (p.gap ++ (p.options ++
      p.opening :: (p.target ++ p.closing :: (p.between ++ ';' :: (p.tail ++ rest)))))) := by
  simp [Parts.text]

theorem Parts.IsProper.dropOptions_eq {p : Parts} (hp : p.IsProper) (rest : Text) :
    dropOptions (trimStart (p.gap ++ (p.options ++ p.opening :: rest))) = p.opening :: rest := by
  have hopening := not_isBlank_of_isQuote hp.opening
  rw [trimStart_append hp.gap]
  rcases hp.options with hnil | hoptions
  · rw [hnil, List.nil_append, trimStart_cons hopening, dropOptions_quote hp.opening]
  · obtain ⟨inside, gap, heq, -⟩ := id hoptions
    have htrim : trimStart (p.options ++ p.opening :: rest) = p.options ++ p.opening :: rest := by
      rw [heq]
      exact trimStart_cons (by decide) _
    rw [htrim, dropOptions_append hoptions hopening]

theorem Parts.IsProper.dropWhile_between {p : Parts} (hp : p.IsProper) (rest : Text) :
    (p.between ++ ';' :: rest).dropWhile (fun c => c != ';' && c != '\n') = ';' :: rest := by
  refine dropWhile_append_cons (p := fun c => c != ';' && c != '\n') ?_ (by decide) _
  intro c hc
  simp [ne_of_mem_of_not_mem hc hp.between.1, ne_of_mem_of_not_mem hc hp.between.2]

/-- What is read as an import statement: parts of their form, up to the end of a line. -/
theorem statement?_eq_some_iff : statement? t = some (target, n) ↔
    ∃ p : Parts, p.IsProper ∧ p.target = target ∧ p.text.length = n ∧
      ∃ rest, t = p.text ++ rest ∧ StartsLine rest := by
  simp only [statement?, Option.bind_eq_bind, Option.bind_eq_some_iff, Prod.exists,
    Option.some.injEq, Prod.mk.injEq]
  constructor
  · rintro ⟨u, hu, target', v, hv, after, hafter, rfl, rfl⟩
    obtain ⟨indent, hindent, rfl⟩ := keyword?_eq_some_iff.1 hu
    obtain ⟨options, hsplit, hoptions⟩ := exists_options (trimStart u)
    obtain ⟨q, q', hq, hq', hne, htarget, hrest⟩ := target?_eq_some_iff.1 hv
    obtain ⟨hstarts, tail, htail, hend⟩ := lineEnd?_eq_some_iff.1 hafter
    have hgap : u.takeWhile isBlank ++ trimStart u = u := List.takeWhile_append_dropWhile
    have hbetween := List.takeWhile_append_dropWhile (p := fun c => c != ';' && c != '\n') (l := v)
    have hall : ∀ c ∈ v.takeWhile fun c => c != ';' && c != '\n', c ≠ ';' ∧ c ≠ '\n' := by
      intro c hc
      simpa using List.all_eq_true.mp List.all_takeWhile c hc
    have hwhole : u = u.takeWhile isBlank ++ (options ++ q :: (target' ++ q' ::
        (v.takeWhile (fun c => c != ';' && c != '\n') ++ ';' :: (tail ++ after)))) := by
      rw [← hend, hbetween, ← hrest, ← hsplit, hgap]
    refine ⟨⟨indent, u.takeWhile isBlank, options, q, target', q', _, tail⟩, ⟨hindent,
      fun c hc => List.all_eq_true.mp List.all_takeWhile c hc, hoptions, hq, hne, htarget, hq',
      ⟨fun h => (hall _ h).1 rfl, fun h => (hall _ h).2 rfl⟩, htail⟩, rfl, ?_, after, ?_, hstarts⟩
    · have hlength := congrArg List.length hwhole
      simp only [List.length_append, List.length_cons] at hlength
      simp only [Parts.text, List.length_append, List.length_cons]
      omega
    · rw [Parts.text_append]
      exact congrArg (fun r => indent ++ ("@import".toList ++ r)) hwhole
  · rintro ⟨p, hp, rfl, rfl, rest, rfl, hrest⟩
    refine ⟨_, keyword?_eq_some_iff.2 ⟨p.indent, hp.indent, p.text_append rest⟩, p.target,
      p.between ++ ';' :: (p.tail ++ rest), ?_, rest, ?_, rfl, ?_⟩
    · rw [hp.dropOptions_eq]
      exact target?_eq_some_iff.2 ⟨_, _, hp.opening, hp.closing, hp.ne_nil, hp.target, rfl⟩
    · rw [hp.dropWhile_between]
      exact lineEnd?_eq_some_iff.2 ⟨hrest, p.tail, hp.tail, rfl⟩
    · simp

theorem Parts.text_ne_nil (p : Parts) : p.text ≠ [] := by simp [Parts.text]

/-- A statement ends within a line. -/
theorem Parts.IsProper.getLast?_text {p : Parts} (hp : p.IsProper) :
    p.text.getLast? ≠ some '\n' := by
  intro h
  have htail : (';' :: p.tail).getLast? = some '\n' := by
    rw [← h, Parts.text]
    simp [List.getLast?_append, List.getLast?_cons]
  rcases List.mem_cons.1 (List.mem_of_getLast? htail) with heq | hmem
  · exact absurd heq (by decide)
  · exact absurd (hp.tail _ hmem) (by decide)

/-! ### Statements in a sheet -/

def Piece.isStatement : Piece → Bool
  | .verbatim _ => false
  | .statement _ _ => true

/-- Where two pieces of a sheet meet, a line ends: a statement takes whole lines. -/
def Meets (p q : Piece) : Prop :=
  (q.isStatement = true → p.text.getLast? = some '\n') ∧
    (p.isStatement = true → ∃ t, q.text = '\n' :: t)

/-- Whether a line starts after a text, given whether one starts before it. -/
def opens (atStart : Bool) (before : Text) : Bool := before.getLast?.elim atStart (· == '\n')

@[simp] theorem opens_nil (atStart : Bool) : opens atStart [] = atStart := rfl

@[simp] theorem opens_cons (atStart : Bool) (c : Char) (t : Text) :
    opens atStart (c :: t) = opens (c == '\n') t := by
  rw [opens, opens, List.getLast?_cons]
  cases t.getLast? <;> rfl

theorem opens_append (atStart : Bool) (s t : Text) :
    opens atStart (s ++ t) = opens (opens atStart s) t := by
  induction s generalizing atStart with
  | nil => rfl
  | cons c s ih => rw [List.cons_append, opens_cons, opens_cons, ih]

theorem opens_text {p : Parts} (hp : p.IsProper) (atStart : Bool) :
    opens atStart p.text = false := by
  rw [opens, List.getLast?_eq_some_getLast p.text_ne_nil]
  have hlast := hp.getLast?_text
  rw [List.getLast?_eq_some_getLast p.text_ne_nil] at hlast
  simpa using hlast

/-- The pieces of a sheet: statements that take whole lines, and text between them in which no
statement starts at the start of a line, whatever part `y` of the text one starts to read at. -/
structure IsSplit (atStart : Bool) (ps : List Piece) : Prop where
  isChain : ps.IsChain Meets
  ne_nil : ∀ p ∈ ps, p.text ≠ []
  head : ∀ p ∈ ps.head?, p.isStatement = true → atStart = true
  statement : ∀ s target, .statement s target ∈ ps →
    ∃ p : Parts, p.IsProper ∧ p.text = s ∧ p.target = target
  verbatim : ∀ before x y after, ps = before ++ .verbatim (x ++ y) :: after → y ≠ [] →
    opens atStart (before.flatMap Piece.text ++ x) = true →
    statement? (y ++ after.flatMap Piece.text) = none

variable {ps : List Piece} {atStart : Bool} {c : Char}

theorem isSplit_nil : IsSplit atStart [] where
  isChain := .nil
  ne_nil p hp := absurd hp List.not_mem_nil
  head p hp := absurd hp (Option.not_mem_none p)
  statement s target h := absurd h List.not_mem_nil
  verbatim before x y after h := by simp at h

/-- A statement comes before pieces that go on at the end of its line. -/
theorem IsSplit.cons_statement (h : IsSplit false ps) {p : Parts} (hp : p.IsProper)
    (hrest : StartsLine (ps.flatMap Piece.text)) :
    IsSplit true (.statement p.text p.target :: ps) where
  isChain := by
    refine List.isChain_cons.2 ⟨fun q hq => ⟨fun hs => ?_, fun _ => ?_⟩, h.isChain⟩
    · exact absurd (h.head q hq hs) (by decide)
    · obtain ⟨more, rfl⟩ := List.head?_eq_some_iff.1 hq
      obtain ⟨d, u, hu⟩ := List.exists_cons_of_ne_nil (h.ne_nil q (List.mem_cons_self ..))
      rcases hrest with hnil | ⟨t, ht⟩
      · simp [hu] at hnil
      · rw [List.flatMap_cons, hu, List.cons_append] at ht
        exact ⟨u, by rw [hu, (List.cons.inj ht).1]⟩
  ne_nil := List.forall_mem_cons.2 ⟨p.text_ne_nil, h.ne_nil⟩
  head _ _ _ := rfl
  statement s target hs := by
    rcases List.mem_cons.1 hs with heq | hs
    · obtain ⟨rfl, rfl⟩ := Piece.statement.inj heq
      exact ⟨p, hp, rfl, rfl⟩
    · exact h.statement s target hs
  verbatim before x y after heq hy hopens := by
    cases before with
    | nil => cases heq
    | cons b before =>
      obtain ⟨rfl, hps⟩ := List.cons.inj heq
      refine h.verbatim before x y after hps hy ?_
      rw [List.flatMap_cons, List.append_assoc, opens_append] at hopens
      rwa [show Piece.text (.statement p.text p.target) = p.text from rfl, opens_text hp] at hopens

/-- A character in front of the pieces joins the text that comes first, if text does. -/
theorem consChar_eq (c : Char) (ps : List Piece) :
    consChar c ps = .verbatim [c] :: ps ∨
      ∃ t more, ps = .verbatim t :: more ∧ consChar c ps = .verbatim (c :: t) :: more := by
  cases ps with
  | nil => exact .inl rfl
  | cons p ps =>
    cases p with
    | verbatim t => exact .inr ⟨t, ps, rfl, rfl⟩
    | statement => exact .inl rfl

/-- A character comes before the pieces as a text of its own. -/
theorem IsSplit.cons_char (h : IsSplit (c == '\n') ps)
    (hnone : atStart = true → statement? (c :: ps.flatMap Piece.text) = none) :
    IsSplit atStart (.verbatim [c] :: ps) where
  isChain := by
    refine List.isChain_cons.2 ⟨fun q hq => ⟨fun hs => ?_, fun hs => by cases hs⟩, h.isChain⟩
    exact congrArg some (beq_iff_eq.1 (h.head q hq hs))
  ne_nil := List.forall_mem_cons.2 ⟨List.cons_ne_nil c [], h.ne_nil⟩
  head q hq hs := by
    obtain rfl := Option.some.inj hq
    cases hs
  statement s target hs := by
    rcases List.mem_cons.1 hs with heq | hs
    · cases heq
    · exact h.statement s target hs
  verbatim before x y after heq hy hopens := by
    cases before with
    | nil =>
      obtain ⟨hxy, rfl⟩ := List.cons.inj heq
      rcases List.append_eq_singleton_iff.1 (Piece.verbatim.inj hxy).symm with ⟨rfl, rfl⟩ | ⟨-, rfl⟩
      · exact hnone hopens
      · exact absurd rfl hy
    | cons b before =>
      obtain ⟨rfl, hps⟩ := List.cons.inj heq
      exact h.verbatim before x y after hps hy (by simpa [Piece.text] using hopens)

/-- A character comes before the pieces in the text that they start with. -/
theorem IsSplit.cons_append {t : Text} (h : IsSplit (c == '\n') (.verbatim t :: ps))
    (hnone : atStart = true → statement? (c :: (t ++ ps.flatMap Piece.text)) = none) :
    IsSplit atStart (.verbatim (c :: t) :: ps) where
  isChain := by
    obtain ⟨hmeets, hchain⟩ := List.isChain_cons.1 h.isChain
    refine List.isChain_cons.2 ⟨fun q hq => ⟨fun hs => ?_, fun hs => by cases hs⟩, hchain⟩
    have hlast := (hmeets q hq).1 hs
    obtain ⟨d, u, rfl⟩ := List.exists_cons_of_ne_nil (h.ne_nil _ (List.mem_cons_self ..))
    exact hlast
  ne_nil := List.forall_mem_cons.2 ⟨List.cons_ne_nil c t, (List.forall_mem_cons.1 h.ne_nil).2⟩
  head q hq hs := by
    obtain rfl := Option.some.inj hq
    cases hs
  statement s target hs := by
    rcases List.mem_cons.1 hs with heq | hs
    · cases heq
    · exact h.statement s target (List.mem_cons_of_mem _ hs)
  verbatim before x y after heq hy hopens := by
    cases before with
    | nil =>
      obtain ⟨hxy, rfl⟩ := List.cons.inj heq
      cases x with
      | nil =>
        obtain rfl := Piece.verbatim.inj hxy
        exact hnone hopens
      | cons d x =>
        obtain ⟨rfl, rfl⟩ := List.cons.inj (Piece.verbatim.inj hxy)
        exact h.verbatim [] x y _ rfl hy (by simpa using hopens)
    | cons b before =>
      obtain ⟨rfl, hps⟩ := List.cons.inj heq
      exact h.verbatim (.verbatim t :: before) x y after (by rw [hps]; rfl) hy
        (by simpa [Piece.text] using hopens)

theorem pos_of_statement? {t target : Text} {n : Nat} (h : statement? t = some (target, n)) :
    0 < n := by
  obtain ⟨p, -, -, rfl, -⟩ := statement?_eq_some_iff.1 h
  exact List.length_pos_of_ne_nil p.text_ne_nil

theorem flatMap_pieces (t : Text) : (pieces t).flatMap Piece.text = t :=
  flatMap_piecesFrom statement? true 0 t fun _ _ _ => pos_of_statement?

theorem isSplit_piecesFrom (atStart : Bool) (skip : Nat) (t : Text) :
    IsSplit (opens atStart (t.take skip)) (piecesFrom statement? atStart skip t) := by
  -- The pieces start after the characters that are skipped, and so it is there that a line starts
  -- or does not. With that the step over a statement is the induction hypothesis.
  induction t generalizing atStart skip with
  | nil =>
    cases skip
    · exact isSplit_nil
    · exact isSplit_nil
  | cons c t ih =>
    cases skip with
    | succ skip =>
      rw [List.take_succ_cons, opens_cons]
      exact ih (c == '\n') skip
    | zero =>
      have htext := flatMap_piecesFrom statement? (c == '\n') 0 t fun _ _ _ => pos_of_statement?
      rw [List.drop_zero] at htext
      rw [piecesFrom]
      split
      · rename_i target n hfind
        obtain ⟨rfl, hfind⟩ : atStart = true ∧ statement? (c :: t) = some (target, n) := by
          simpa using hfind
        obtain ⟨p, hp, rfl, rfl, rest, hsplit, hrest⟩ := statement?_eq_some_iff.1 hfind
        obtain ⟨d, s, hs⟩ := List.exists_cons_of_ne_nil p.text_ne_nil
        obtain ⟨rfl, rfl⟩ : c = d ∧ t = s ++ rest := by
          rw [hs] at hsplit
          exact List.cons.inj hsplit
        have hafter := ih (c == '\n') s.length
        have hrests := flatMap_piecesFrom statement? (c == '\n') s.length (s ++ rest)
          fun _ _ _ => pos_of_statement?
        rw [List.take_left, ← opens_cons true, ← hs, opens_text hp] at hafter
        rw [List.drop_left] at hrests
        rw [hsplit, List.take_left, List.take_zero, opens_nil, hs, List.length_cons,
          Nat.add_sub_cancel, ← hs]
        refine hafter.cons_statement hp ?_
        rwa [hrests]
      · rename_i hfind
        have hnone : atStart = true → statement?
            (c :: (piecesFrom statement? (c == '\n') 0 t).flatMap Piece.text) = none := by
          rintro rfl
          rwa [htext]
        rcases consChar_eq c (piecesFrom statement? (c == '\n') 0 t) with heq | ⟨u, more, hps, heq⟩
        · rw [heq]
          exact (ih (c == '\n') 0).cons_char hnone
        · rw [heq]
          rw [hps] at hnone
          refine IsSplit.cons_append ?_ hnone
          rw [← hps]
          exact ih (c == '\n') 0

/-- A sheet is split at all import statements that start a line, and nowhere else. -/
theorem isSplit_pieces (t : Text) : IsSplit true (pieces t) := isSplit_piecesFrom true 0 t

end Retint.Import
