import Retint.Proofs.ColorMap.Reading
import Retint.Proofs.Theme.VariableLine

/-!
# Variable texts

A text of variable lines stays one when declarations and the marks of hacks are cut out of it. So
the theme that is assembled from a variable text and a stylesheet has four parts: fresh declarations
of the variables on offer, variable lines that declare none of them, the stylesheet, and empty
lines.

## Main definitions

* `Theme.IsVariable` — the names that a theme can offer
* `Theme.IsVariableText` — lines that declare none of some names
* `Theme.declarations` — fresh declarations of variables

## Main results

* `Theme.isVariable_of_get?` — the names in the color map of a variable text
* `Theme.exists_theme_eq` — the parts of a theme
-/

namespace Retint.Theme

open Text Color

variable {t name : Text} {names : List Text} {n : Text} {d : Option Text}

/-! ### Names -/

/-- The characters of the names that a theme can offer. -/
def isVariableChar (c : Char) : Bool := c.isAlphanum || c == '-'

/-- A name that a theme can offer: letters, digits and hyphens after `@`, with at least one
hyphen. -/
def IsVariable (name : Text) : Prop :=
  ∃ n, name = '@' :: n ∧ '-' ∈ n ∧ ∀ c ∈ n, isVariableChar c = true

theorem isNameChar_of_isVariableChar {c : Char} (h : isVariableChar c = true) :
    Flat.isNameChar c = true := by
  have hc : c.isAlphanum = true ∨ c = '-' := by simpa [isVariableChar] using h
  rcases hc with hc | rfl
  · simp [Flat.isNameChar, Unicode.isWord, hc]
  · decide

theorem isBlank_of_isVariableChar {c : Char} (h : isVariableChar c = true) :
    isBlank c = false := by
  simp only [isVariableChar, Char.isAlphanum] at h
  delta Char.isAlpha Char.isUpper Char.isLower at h
  simp only [Char.isDigit, Bool.or_eq_true, Bool.and_eq_true, decide_eq_true_eq, beq_iff_eq,
    UInt32.le_iff_toNat_le, ge_iff_le] at h
  refine Bool.eq_false_iff.mpr fun hb => ?_
  simp only [isBlank, Bool.or_eq_true, Bool.and_eq_true, decide_eq_true_eq, beq_iff_eq,
    UInt32.le_iff_toNat_le, ← UInt32.toNat_inj] at hb
  rcases h with h | rfl
  · simp at h hb
    omega
  · simp at hb

theorem IsVariable.isName (h : IsVariable name) : Declaration.IsName name := by
  obtain ⟨n, rfl, -, hchars⟩ := h
  refine ⟨n, rfl, fun c hc => ?_⟩
  have hchar := hchars c hc
  simp only [isVariableChar] at hchar
  simp only [Declaration.isNameChar, hchar, Bool.true_or]

theorem isVariable_longName (k : Nat) : IsVariable (longName k) := by
  have hend : ∀ c ∈ "-color".toList, isVariableChar c = true := by decide
  refine ⟨_, rfl, List.mem_append_right _ (by decide), fun c hc => ?_⟩
  refine (List.mem_append.mp hc).elim (fun hc => ?_) (hend c)
  rw [List.eq_of_mem_replicate hc]
  decide

/-! ### Names in a color map -/

/-- The name that is read off a line is made of the name characters after `@`. -/
theorem exists_of_ofLine? {line : Text} {e : Declaration} (h : Declaration.ofLine? line = some e) :
    ∃ rest, line = '@' :: rest ∧ e.name = '@' :: rest.takeWhile Declaration.isNameChar ∧
      ('-' ∈ rest.takeWhile Declaration.isNameChar ∨
        '\'' ∈ rest.takeWhile Declaration.isNameChar) := by
  unfold Declaration.ofLine? at h
  split at h
  · rename_i rest
    simp only at h
    split at h
    · rename_i hmark
      split at h
      · split at h
        · obtain ⟨_, -, rfl⟩ := Option.map_eq_some_iff.mp h
          exact ⟨rest, rfl, rfl, by simpa using hmark⟩
        · cases h
      · cases h
    · cases h
  · cases h

/-- A line of a variable text that is read as a declaration names a variable that can be offered. -/
theorem IsVariableLine.isVariable {line : Text} {e : Declaration} (h : IsVariableLine line d)
    (he : Declaration.ofLine? line = some e) : IsVariable e.name := by
  obtain ⟨rest, hline, hname, hmark⟩ := exists_of_ofLine? he
  have hat : isBlank '@' = false := by decide
  have not_blank : ∀ {a : Text} {b : Text}, IsBlank a → a ++ b = '@' :: rest → a = [] := by
    intro a b ha hab
    cases a with
    | nil => rfl
    | cons c a =>
      rw [(List.cons.inj hab).1] at ha
      exact absurd (ha '@' (List.mem_cons_self ..)) (by simp [hat])
  cases h with
  | blank h =>
    rw [hline] at h
    exact absurd (h '@' (List.mem_cons_self ..)) (by simp [hat])
  | @comment indent r hindent ho hc =>
    rw [List.append_assoc] at hline
    obtain rfl := not_blank hindent hline
    exact absurd (List.cons.inj hline).1 (by decide)
  | @declaration indent m gap value tail hindent htail h =>
    have hchars : ∀ c ∈ " :".toList, Declaration.isNameChar c = false := by decide
    obtain ⟨c, y, hgap, hmem⟩ := exists_gap_eq gap (' ' :: value ++ ';' :: tail)
    have hchar := hchars c hmem
    rw [declarationLine_eq_append, hgap] at hline
    obtain rfl := not_blank hindent hline
    have hrest : rest.takeWhile Declaration.isNameChar = m.takeWhile Declaration.isNameChar := by
      rw [← (List.cons.inj hline).2, takeWhile_append_stop hchar]
    rw [hrest] at hname hmark
    have hmem : ∀ c ∈ m.takeWhile Declaration.isNameChar,
        Flat.isNameChar c = true ∧ Declaration.isNameChar c = true := fun c hc =>
      ⟨h.nameChar c ((List.takeWhile_sublist _).subset hc),
        List.all_eq_true.mp List.all_takeWhile c hc⟩
    refine ⟨_, hname, hmark.resolve_right fun hq => ?_, fun c hc => ?_⟩
    · exact absurd (hmem _ hq).1 (by decide)
    · obtain ⟨hflat, hchar⟩ := hmem c hc
      simp only [Declaration.isNameChar, Bool.or_eq_true, beq_iff_eq] at hchar
      rcases hchar with hchar | rfl
      · simpa [isVariableChar] using hchar
      · exact absurd hflat (by decide)

theorem mem_colors_foldl {isColor : Text → Bool} {P : Text → Prop} {ls : List Text}
    {s : ColorMap.Scan} (hs : ∀ e ∈ s.colors.entries, P e.1)
    (hls : ∀ l ∈ ls, ∀ decl, Declaration.ofLine? l = some decl → P decl.name) :
    ∀ e ∈ (ls.foldl (ColorMap.Scan.line isColor) s).colors.entries, P e.1 := by
  induction ls generalizing s with
  | nil => exact hs
  | cons l ls ih =>
    obtain ⟨hl, hls⟩ := List.forall_mem_cons.mp hls
    refine ih (fun e he => ?_) hls
    rcases ColorMap.colors_line isColor s l with hsame | ⟨decl, color, hdecl, hinsert⟩
    · exact hs e (hsame ▸ he)
    · rw [hinsert] at he
      rcases Dict.mem_put he with rfl | he
      · exact hl decl hdecl
      · exact hs e he

/-- **The names in the color map of a variable text** can be offered by a theme. -/
theorem isVariable_of_get? {isColor : Text → Bool} {content color : Text}
    (hlines : ∀ l ∈ splitOn '\n' content, ∃ d, IsVariableLine l d)
    (h : (ColorMap.ofText isColor content).get? name = some color) : IsVariable name := by
  refine mem_colors_foldl (P := IsVariable) (s := {}) (fun e he => absurd he List.not_mem_nil) ?_
    _ (Dict.mem_of_lookup h)
  intro line hline decl hdecl
  obtain ⟨part, hpart, hchomp⟩ := mem_lines hline
  obtain ⟨d, hd⟩ := hlines part hpart
  rcases hchomp with rfl | rfl
  · exact hd.isVariable hdecl
  · exact hd.chomp.isVariable hdecl

/-! ### Texts of lines -/

/-- A line of a variable text that declares none of the names. -/
def IsLineWithout (names : List Text) (l : Text) : Prop :=
  '\n' ∉ l ∧ ∃ d, IsVariableLine l d ∧ ∀ m ∈ names, d ≠ some m

/-- Ended lines of a variable text, none of which declares one of the names. -/
def IsVariableText (names : List Text) (t : Text) : Prop :=
  ∃ ls : List Text, t = ls.flatMap (· ++ ['\n']) ∧ ∀ l ∈ ls, IsLineWithout names l

theorem isVariableText_lines (names : List Text) (k : Nat) :
    IsVariableText names (List.replicate k '\n') := by
  refine ⟨List.replicate k [], ?_, fun l hl => ?_⟩
  · induction k with
    | zero => rfl
    | succ k ih =>
      rw [List.replicate_succ, ih, List.replicate_succ, List.flatMap_cons]
      rfl
  · obtain rfl := List.eq_of_mem_replicate hl
    exact ⟨List.not_mem_nil, none, .blank .nil, fun _ _ => nofun⟩

theorem isVariableText_of_splitOn (h : ∀ l ∈ splitOn '\n' t, ∃ d, IsVariableLine l d) :
    IsVariableText [] (t ++ ['\n']) := by
  refine ⟨splitOn '\n' t, (flatMap_splitOn '\n' t).symm, fun l hl => ?_⟩
  obtain ⟨d, hd⟩ := h l hl
  exact ⟨not_mem_of_mem_splitOn hl, d, hd, nofun⟩

/-- Where each line turns into one with a property, all lines do. -/
theorem exists_turns {find : Text → Option (Text × Nat)} {P : Text → Prop} {ls : List Text}
    (h : ∀ l ∈ ls, ∃ l', Turns find (l ++ ['\n']) (l' ++ ['\n']) ∧ P l') :
    ∃ ls' : List Text, Turns find (ls.flatMap (· ++ ['\n'])) (ls'.flatMap (· ++ ['\n'])) ∧
      ∀ l' ∈ ls', P l' := by
  induction ls with
  | nil => exact ⟨[], .nil, nofun⟩
  | cons l ls ih =>
    obtain ⟨⟨l', hturn, hl'⟩, hls⟩ := List.forall_mem_cons.mp h
    obtain ⟨ls', hturns, hls'⟩ := ih hls
    exact ⟨l' :: ls', hturn.append hturns, List.forall_mem_cons.mpr ⟨hl', hls'⟩⟩

theorem IsVariableText.strip (h : IsVariableText names t)
    (hn : ∀ c ∈ n, Flat.isNameChar c = true) (hstrip : Assembly.canStrip ('@' :: n) = true) :
    ∃ t', Turns (stripFind ('@' :: n)) t t' ∧ IsVariableText (('@' :: n) :: names) t' := by
  obtain ⟨ls, rfl, hls⟩ := h
  have hline : '\n' ∉ n := not_mem_of_forall hn (by decide)
  have hstep : ∀ l ∈ ls, ∃ l', Turns (stripFind ('@' :: n)) (l ++ ['\n']) (l' ++ ['\n']) ∧
      IsLineWithout (('@' :: n) :: names) l' := by
    intro l hl
    obtain ⟨hnl, d, hd, hnames⟩ := hls l hl
    obtain ⟨d', hd', hsome⟩ := hd.strip hnl hn hstrip
    refine ⟨_, turns_strip hline l, fun hm => hnl ((sublist_strip _ l).subset hm), d', hd', ?_⟩
    intro m hm hdm
    obtain ⟨hold, hne⟩ := hsome m hdm
    rcases List.mem_cons.mp hm with rfl | hm
    · exact hne rfl
    · exact hnames m hm hold
  obtain ⟨ls', hturn, hls'⟩ := exists_turns hstep
  exact ⟨_, hturn, ls', rfl, hls'⟩

theorem IsVariableText.hack (h : IsVariableText names t) :
    ∃ t', Turns hackFind t t' ∧ IsVariableText names t' := by
  obtain ⟨ls, rfl, hls⟩ := h
  have hstep : ∀ l ∈ ls, ∃ l', Turns hackFind (l ++ ['\n']) (l' ++ ['\n']) ∧
      IsLineWithout names l' := by
    intro l hl
    obtain ⟨hnl, d, hd, hnames⟩ := hls l hl
    exact ⟨_, turns_hack (by decide) l, fun hm => hnl ((sublist_hack l).subset hm), d,
      hd.hack, hnames⟩
  obtain ⟨ls', hturn, hls'⟩ := exists_turns hstep
  exact ⟨_, hturn, ls', rfl, hls'⟩

/-- **What a variable text is read as:** nothing that is part of a rule, and no declaration of the
names. -/
theorem IsVariableText.reads (h : IsVariableText names t) :
    ∃ ls, Flat.Reads t ls ∧ (∀ line ∈ ls, IsBlank line.body) ∧
      ∀ e ∈ ls.filterMap Flat.Line.declared?, e.1 ∉ names := by
  obtain ⟨parts, rfl, hparts⟩ := h
  induction parts with
  | nil => exact ⟨[], .nil, nofun, nofun⟩
  | cons l parts ih =>
    obtain ⟨⟨hl, d, hd, hnames⟩, hparts⟩ := List.forall_mem_cons.mp hparts
    obtain ⟨line, hline, hblank, hdeclared⟩ := hd.reads hl
    obtain ⟨ls, hls, hblanks, hothers⟩ := ih hparts
    refine ⟨line :: ls, hline.append hls, List.forall_mem_cons.mpr ⟨hblank, hblanks⟩, ?_⟩
    intro e he hm
    obtain ⟨line', hmem, he'⟩ := List.mem_filterMap.mp he
    rcases List.mem_cons.mp hmem with rfl | hmem
    · rw [he'] at hdeclared
      exact hnames e.1 hm hdeclared.symm
    · exact hothers e (List.mem_filterMap.mpr ⟨line', hmem, he'⟩) hm

theorem IsVariableText.count (h : IsVariableText names t) :
    t.count '\x7b' = t.count '\x7d' := by
  obtain ⟨ls, rfl, hls⟩ := h
  induction ls with
  | nil => rfl
  | cons l ls ih =>
    obtain ⟨⟨-, d, hd, -⟩, hls⟩ := List.forall_mem_cons.mp hls
    have hline := hd.count
    simp only [List.flatMap_cons, List.count_append, hline, ih hls]
    rfl

/-! ### Fresh declarations -/

/-- A fresh declaration of each variable with its color. -/
def declarations (entries : List (Text × Text)) : Text :=
  entries.flatMap fun e => e.1 ++ ": ".toList ++ e.2 ++ ";\n".toList

/-- An entry of a theme: a variable on offer with a color. -/
structure IsEntry (e : Text × Text) : Prop where
  name : IsVariable e.1
  literal : IsLiteral e.2

variable {entries : List (Text × Text)} {e : Text × Text}

theorem IsEntry.exists_eq (h : IsEntry e) :
    ∃ n, e.1 = '@' :: n ∧ IsDeclared n e.2 ∧
      e.1 ++ ": ".toList ++ e.2 ++ ";\n".toList = declarationLine [] n 0 e.2 [] ++ ['\n'] := by
  obtain ⟨n, hn, hyphen, hchars⟩ := h.name
  have hbraces : bracesMatch 0 (e.2 ++ []) = true :=
    bracesMatch_append (h.literal.not_mem (by decide)) (h.literal.not_mem (by decide)) 0 []
  rw [List.append_nil] at hbraces
  refine ⟨n, hn, ⟨List.ne_nil_of_mem hyphen, fun c hc => isNameChar_of_isVariableChar (hchars c hc),
    fun c hc => h.literal.not_mem ?_, hbraces⟩, ?_⟩
  · revert c
    decide
  · rw [hn]
    simp only [declarationLine, List.replicate_zero, List.append_nil, List.append_assoc]
    rfl

theorem not_mem_declarationLine (h : IsDeclared n e.2) (he : IsLiteral e.2) :
    '\n' ∉ declarationLine [] n 0 e.2 [] := by
  have hn := not_mem_of_forall h.nameChar (c := '\n') (by decide)
  have hcolor := he.not_mem (c := '\n') (by decide)
  simp only [declarationLine, List.mem_append, List.mem_cons, List.replicate_zero, not_or]
  exact ⟨⟨⟨⟨⟨List.not_mem_nil, by decide, hn⟩, List.not_mem_nil⟩, by decide⟩, hcolor⟩, by decide,
    List.not_mem_nil⟩

/-- Declarations of other variables stay if the variable is not declared in their values. -/
theorem turns_strip_others (hn : ∀ c ∈ "\n: ".toList, c ∉ n)
    (h : ∀ e ∈ entries, ∃ m, e.1 = '@' :: m ∧ n ≠ m ∧ (∀ c ∈ "@: ".toList, c ∉ m) ∧
      ∀ k, ¬ '@' :: n ++ List.replicate k ' ' ++ [':'] <:+: e.2) :
    Turns (stripFind ('@' :: n)) (declarations entries) (declarations entries) := by
  refine Turns.flatMap fun e he => ?_
  obtain ⟨m, hm, hne, hsigns, hvalue⟩ := h e he
  have hsub : ∀ c ∈ ": ".toList, c ∈ "\n: ".toList := by decide
  have hclean : IsClean ('@' :: n) (declarationLine [] m 0 e.2 []) := isClean_declarationLine hne
    (fun c hc => hn c (hsub c hc)) hsigns List.not_mem_nil List.not_mem_nil hvalue
  have hturn := turns_strip (hn '\n' (by decide)) (declarationLine [] m 0 e.2 [])
  rw [hclean.strip_eq] at hturn
  rw [hm]
  simpa [declarationLine] using hturn

/-- A declaration of one variable is no declaration of another. -/
theorem turns_strip_declarations (h : ∀ e ∈ entries, IsEntry e)
    (hn : ∀ c ∈ n, Flat.isNameChar c = true) (hne : '@' :: n ∉ entries.map Prod.fst) :
    Turns (stripFind ('@' :: n)) (declarations entries) (declarations entries) := by
  have hsigns : ∀ c ∈ "\n: ".toList, Flat.isNameChar c = false := by decide
  refine turns_strip_others (fun c hc => not_mem_of_forall hn (hsigns c hc)) fun e he => ?_
  obtain ⟨m, hm, hdeclared, -⟩ := (h e he).exists_eq
  have hsigns' : ∀ c ∈ "@: ".toList, Flat.isNameChar c = false := by decide
  refine ⟨m, hm, ?_, fun c hc => not_mem_of_forall hdeclared.nameChar (hsigns' c hc),
    fun k hwithin => hdeclared.not_mem ':' (by decide) (hwithin.subset (by simp))⟩
  rintro rfl
  exact hne (List.mem_map.mpr ⟨e, he, hm⟩)

theorem turns_hack_declarations (h : ∀ e ∈ entries, IsEntry e) :
    Turns hackFind (declarations entries) (declarations entries) := by
  refine Turns.flatMap fun e he => startsWith_hackFind.turns ?_
  obtain ⟨m, hm, hdeclared, -⟩ := (h e he).exists_eq
  have hname := not_mem_of_forall hdeclared.nameChar (c := '\\') (by decide)
  simp only [hm, List.mem_append, List.mem_cons, not_or]
  exact ⟨⟨⟨⟨by decide, hname⟩, by decide⟩, (h e he).literal.not_mem (by decide)⟩, by decide⟩

/-- What fresh declarations are read as. -/
theorem reads_declarations (h : ∀ e ∈ entries, IsEntry e) :
    Flat.Reads (declarations entries) (entries.map fun e => .declaration e.1 e.2) := by
  rw [List.map_eq_flatMap]
  refine Flat.Reads.flatMap fun e he => ?_
  obtain ⟨m, hm, hdeclared, hline⟩ := (h e he).exists_eq
  have hl := not_mem_declarationLine hdeclared (h e he).literal
  obtain ⟨v, hreads, hv⟩ := reads_declarationLine .nil .nil hdeclared hl
  have hcolor := hv ((h e he).literal.not_mem (by decide)) (h e he).literal.isTight
    (h e he).literal.ne_nil
  rw [hcolor] at hreads
  rw [hline, hm]
  exact hreads

theorem count_declarations (h : ∀ e ∈ entries, IsEntry e) :
    (declarations entries).count '\x7b' = (declarations entries).count '\x7d' := by
  induction entries with
  | nil => rfl
  | cons e entries ih =>
    obtain ⟨he, hentries⟩ := List.forall_mem_cons.mp h
    obtain ⟨m, -, hdeclared, hline⟩ := he.exists_eq
    have hvariable : IsVariableLine (declarationLine [] m 0 e.2 []) (some ('@' :: m)) :=
      .declaration .nil .nil hdeclared
    have hcount := hvariable.count
    simp only [declarations, List.flatMap_cons, hline, List.count_append, hcount] at ih ⊢
    rw [ih hentries]
    rfl

/-! ### Themes -/

theorem turns_strip_lines (n : Text) (k : Nat) :
    Turns (stripFind ('@' :: n)) (List.replicate k '\n') (List.replicate k '\n') :=
  (startsWith_stripFind n).turns (not_mem_replicate (by decide) k)

/-- Where no name can be looked for, the fresh declarations are all that is new. -/
theorem foldr_lead_of_long (h : ∀ e ∈ entries, Assembly.canStrip e.1 = false) (t : Text) :
    entries.foldr Assembly.lead t =
      declarations entries ++ (t ++ List.replicate entries.length '\n') := by
  induction entries with
  | nil => simp [declarations]
  | cons e entries ih =>
    obtain ⟨he, hentries⟩ := List.forall_mem_cons.mp h
    rw [List.foldr_cons, ih hentries, Assembly.lead, strip_eq_self he, List.length_cons,
      List.replicate_succ', declarations, declarations, List.flatMap_cons]
    simp only [List.append_assoc]

/-- What the variables on offer make of a variable text and a stylesheet that mentions none of their
declarations. -/
theorem exists_foldr_lead {css : Text} (h : ∀ e ∈ entries, IsEntry e)
    (hnames : (entries.map Prod.fst).Nodup)
    (hstrippable : ∀ e ∈ entries, Assembly.canStrip e.1 = true)
    (hcss : ∀ n, '@' :: n ∈ entries.map Prod.fst → Turns (stripFind ('@' :: n)) css css)
    (ht : IsVariableText [] t) :
    ∃ t', IsVariableText (entries.map Prod.fst) t' ∧ entries.foldr Assembly.lead (t ++ css) =
      declarations entries ++ t' ++ css ++ List.replicate entries.length '\n' := by
  induction entries with
  | nil => exact ⟨t, ht, by simp [declarations]⟩
  | cons e entries ih =>
    obtain ⟨he, hentries⟩ := List.forall_mem_cons.mp h
    obtain ⟨hfirst, hnames⟩ := List.nodup_cons.mp hnames
    obtain ⟨hfits, hstrippable⟩ := List.forall_mem_cons.mp hstrippable
    obtain ⟨t', ht', heq⟩ :=
      ih hentries hnames hstrippable fun n hn => hcss n (List.mem_cons_of_mem _ hn)
    obtain ⟨n, hn, hdeclared, -⟩ := he.exists_eq
    rw [hn] at hfirst hfits
    obtain ⟨t'', hturn, ht''⟩ := ht'.strip hdeclared.nameChar hfits
    have hstrip := ((((turns_strip_declarations hentries hdeclared.nameChar hfirst).append
      hturn).append (hcss n (hn ▸ List.mem_cons_self ..))).append
        (turns_strip_lines n entries.length)).replaceWith_eq
    refine ⟨t'', ?_, ?_⟩
    · rw [List.map_cons, hn]
      exact ht''
    · rw [List.foldr_cons, heq, Assembly.lead, hn]
      have hstrip' : Assembly.strip ('@' :: n) (declarations entries ++ t' ++ css ++
          List.replicate entries.length '\n') = declarations entries ++ t'' ++ css ++
          List.replicate entries.length '\n' := (strip_eq_replaceWith ..).trans hstrip
      rw [hstrip', List.length_cons, List.replicate_succ', declarations, declarations,
        List.flatMap_cons, hn]
      simp only [List.append_assoc]

/-- **The parts of a theme:** fresh declarations, a variable text that declares none of them, the
stylesheet, and empty lines. -/
theorem exists_theme_eq {css variableText : Text} (h : ∀ e ∈ entries, IsEntry e)
    (hnames : (entries.map Prod.fst).Nodup)
    (hstrippable : ∀ e ∈ entries, Assembly.canStrip e.1 = true)
    (hcss : ∀ n, '@' :: n ∈ entries.map Prod.fst → Turns (stripFind ('@' :: n)) css css)
    (hhack : '\\' ∉ css) (hlines : ∀ l ∈ splitOn '\n' variableText, ∃ d, IsVariableLine l d) :
    ∃ t, IsVariableText (entries.map Prod.fst) t ∧ Assembly.theme css variableText entries =
      declarations entries ++ t ++ (css ++ List.replicate entries.length '\n') := by
  obtain ⟨t', ht', heq⟩ :=
    exists_foldr_lead h hnames hstrippable hcss (isVariableText_of_splitOn hlines)
  obtain ⟨t, hturn, ht⟩ := ht'.hack
  have hrest : '\\' ∉ css ++ List.replicate entries.length '\n' := by
    simp only [List.mem_append, not_or]
    exact ⟨hhack, not_mem_replicate (by decide) _⟩
  refine ⟨t, ht, ?_⟩
  rw [Assembly.theme, List.append_cons, heq, List.append_assoc]
  exact (((turns_hack_declarations h).append hturn).append
    (startsWith_hackFind.turns hrest)).replaceWith_eq

end Retint.Theme
