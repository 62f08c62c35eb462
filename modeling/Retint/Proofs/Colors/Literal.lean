import Retint.Color
import Retint.ColorTable
import Retint.Declaration
import Retint.Proofs.Pattern.Sought
import Retint.Proofs.Text.Lines
import Retint.Proofs.Text.Replace

/-!
# Color literals and where they occur

A color table looks for its colors as whole values: the literal, spaces, and the semicolon that ends
the value. What makes the search unambiguous is that a literal has its first character nowhere else
in it and does not end in a space. So two occurrences that share a character are one and the same,
and none reaches into the text that a table puts in the place of another.

## Main definitions

* `Color.IsLiteral` — colors as a compiler writes them
* `Declaration.IsName` — names of variables
* `ColorTable.occurrence` — a literal as a whole value

## Main results

* `ColorTable.canFind_iff` — how long a color can be
* `Color.IsLiteral.eq_of_suffix_occurrence` — occurrences do not overlap
* `ColorTable.occurrence?_suffix_inserted` — there is no occurrence that starts in a replacement
* `ColorTable.not_prefix_inserted` — there is none that reaches into a replacement
-/

namespace Retint

/-! ### Literals -/

namespace Color

/-- The characters between the parentheses of a literal. -/
def isComponentChar (c : Char) : Bool := Unicode.isDigit c || ".,%/ ".toList.contains c

/-- A color as a compiler writes it: hexadecimal digits after `#`, or components in `rgba(…)`. -/
inductive IsLiteral : Text → Prop
  | hex {digits : Text} (h : ∀ c ∈ digits, isHexDigit c = true) : IsLiteral ('#' :: digits)
  | rgba {components : Text} (h : ∀ c ∈ components, isComponentChar c = true) :
      IsLiteral (['r', 'g', 'b', 'a', '('] ++ components ++ [')'])

variable {color other : Text}

/-- Characters that no literal has: those that end a value or stand for a reference. -/
def foreign : Text := ";@`\n:\x7b\x7d\\-'\"".toList

theorem IsLiteral.not_mem (h : IsLiteral color) {c : Char} (hc : c ∈ foreign) : c ∉ color := by
  have hhex : ∀ c ∈ foreign, isHexDigit c = false ∧ c ≠ '#' := by decide
  have hrgba : ∀ c ∈ foreign, isComponentChar c = false ∧ c ∉ "rgba()".toList := by decide
  cases h with
  | hex h =>
    obtain ⟨hd, hne⟩ := hhex c hc
    intro hm
    rcases List.mem_cons.1 hm with rfl | hm
    · exact hne rfl
    · simp [h c hm] at hd
  | rgba h =>
    obtain ⟨hd, hne⟩ := hrgba c hc
    intro hm
    simp only [List.mem_append] at hm
    rcases hm with (hm | hm) | hm
    · simp_all
    · simp [h c hm] at hd
    · simp_all

/-- The first character of a literal is nowhere else in it. -/
theorem IsLiteral.exists_cons (h : IsLiteral color) :
    ∃ c t, color = c :: t ∧ c ∈ "#r".toList ∧ ∀ d ∈ "#r".toList, d ∉ t := by
  have hhex : ∀ d ∈ "#r".toList, isHexDigit d = false := by decide
  have hrgba : ∀ d ∈ "#r".toList, isComponentChar d = false ∧ d ∉ "gba()".toList := by decide
  cases h with
  | hex h =>
    refine ⟨'#', _, rfl, by decide, fun d hd hm => ?_⟩
    exact absurd (h d hm) (by simp [hhex d hd])
  | @rgba components h =>
    refine ⟨'r', ['g', 'b', 'a', '('] ++ components ++ [')'], rfl, by decide, fun d hd hm => ?_⟩
    obtain ⟨hc, hne⟩ := hrgba d hd
    simp only [List.mem_append] at hm
    rcases hm with (hm | hm) | hm
    · simp_all
    · simp [h d hm] at hc
    · simp_all

theorem IsLiteral.ne_nil (h : IsLiteral color) : color ≠ [] := by
  obtain ⟨c, t, rfl, -⟩ := h.exists_cons
  simp

theorem IsLiteral.getLast?_ne_space (h : IsLiteral color) : color.getLast? ≠ some ' ' := by
  cases h with
  | hex h =>
    intro hl
    have hm : ' ' ∈ '#' :: _ := List.mem_of_getLast? hl
    rcases List.mem_cons.1 hm with hm | hm
    · simp at hm
    · exact absurd (h ' ' hm) (by decide)
  | rgba h =>
    rw [List.getLast?_concat]
    decide

theorem isBlank_of_isHexDigit {c : Char} (h : isHexDigit c = true) : Text.isBlank c = false := by
  simp only [isHexDigit, Bool.or_eq_true, Bool.and_eq_true, decide_eq_true_eq, Char.le_def,
    UInt32.le_iff_toNat_le] at h
  refine Bool.eq_false_iff.mpr fun hb => ?_
  simp only [Text.isBlank, Bool.or_eq_true, Bool.and_eq_true, decide_eq_true_eq, beq_iff_eq,
    UInt32.le_iff_toNat_le, ← UInt32.toNat_inj] at hb
  simp at h hb
  omega

/-- There is no white space at the ends of a literal. -/
theorem IsLiteral.isTight (h : IsLiteral color) : Text.IsTight color := by
  cases h with
  | @hex digits h =>
    refine ⟨fun c hc => ?_, fun c hc => ?_⟩
    · obtain rfl := Option.some.inj hc
      decide
    · rcases List.mem_cons.1 (List.mem_of_getLast? hc) with rfl | hm
      · decide
      · exact isBlank_of_isHexDigit (h c hm)
  | @rgba components h =>
    refine ⟨fun c hc => ?_, fun c hc => ?_⟩
    · obtain rfl := Option.some.inj hc
      decide
    · rw [List.getLast?_concat] at hc
      obtain rfl := Option.some.inj hc
      decide

theorem IsLiteral.eq_of_suffix (h : IsLiteral color) (h' : IsLiteral other)
    (hs : other <:+ color) : other = color := by
  obtain ⟨c, t, rfl, -, ht⟩ := h.exists_cons
  obtain ⟨d, u, rfl, hd, -⟩ := h'.exists_cons
  rcases List.suffix_cons_iff.1 hs with hs | hs
  · exact hs
  · exact absurd (hs.subset (List.mem_cons_self ..)) (ht d hd)

/-- The same with spaces after both. -/
theorem IsLiteral.eq_of_suffix_spaces (h : IsLiteral color) (h' : IsLiteral other) {j k : Nat}
    (hs : other ++ List.replicate j ' ' <:+ color ++ List.replicate k ' ') :
    other = color ∧ j = k := by
  obtain ⟨p, hp⟩ := hs
  have hlast : (p ++ other).getLast? ≠ some ' ' := by
    rw [List.getLast?_append_of_ne_nil _ h'.ne_nil]
    exact h'.getLast?_ne_space
  rw [← List.append_assoc] at hp
  obtain ⟨hpo, hjk⟩ := Text.append_replicate_inj hlast h.getLast?_ne_space hp
  exact ⟨h.eq_of_suffix h' ⟨p, hpo⟩, hjk⟩

end Color

open Color

/-! ### Names -/

/-- A name of a variable: letters, digits, hyphens and quotes after `@`. -/
def Declaration.IsName (name : Text) : Prop :=
  ∃ t, name = '@' :: t ∧ ∀ c ∈ t, Declaration.isNameChar c = true

theorem Declaration.IsName.not_mem {name : Text} {c : Char} (h : Declaration.IsName name)
    (hc : Declaration.isNameChar c = false) (hat : c ≠ '@') : c ∉ name := by
  obtain ⟨t, rfl, ht⟩ := h
  exact fun hm => Text.not_mem_of_forall ht hc ((List.mem_cons.mp hm).resolve_left hat)

open Declaration

namespace Shade

/-! ### Palette calls -/

/-- A palette call up to the name of its variable. -/
def callLead : Text := "color(~`colorPalette(\"@\x7b".toList

/-- A palette call between the name and the index. -/
def callMiddle : Text := "\x7d\", ".toList

/-- A palette call after the index. -/
def callTail : Text := ")`)".toList

theorem paletteCall_eq (bare : Text) (index : Char) :
    paletteCall bare index = callLead ++ bare ++ callMiddle ++ index :: callTail := by
  unfold paletteCall
  simp only [List.append_assoc]
  rfl

/-- The characters of a palette call other than those of the call itself come from the name that
the call stands for, or from the primary variable. -/
theorem exists_of_expression? {name e : Text} (h : expression? name = some e) :
    ∃ bare index, e = paletteCall bare index ∧ Unicode.isDigit index = true ∧
      ∀ c ∈ bare, c ∈ name ∨ c ∈ primaryVariable := by
  simp only [expression?, Option.map_eq_some_iff, Prod.exists] at h
  obtain ⟨base, index, hs, rfl⟩ := h
  refine ⟨_, index, rfl, ?_, fun c hc => ?_⟩
  · unfold split? at hs
    split at hs
    · split at hs <;> simp_all
    · cases hs
  · have hc' := (List.dropWhile_sublist _).subset hc
    split at hc'
    · exact .inr hc'
    · unfold split? at hs
      split at hs
      · rename_i heq
        split at hs
        · obtain ⟨rfl, rfl⟩ := Prod.mk.inj (Option.some.inj hs)
          refine .inl (List.mem_reverse.1 ?_)
          rw [heq]
          simp_all
        · cases hs
      · cases hs

end Shade

/-! ### Occurrences -/

namespace ColorTable

variable {color other name s r t : Text} {k n : Nat}

/-- A color as a whole value, with so many spaces before the semicolon. -/
def occurrence (color : Text) (k : Nat) : Text := color ++ List.replicate k ' ' ++ [';']

theorem occurrence_append (color : Text) (k : Nat) (r : Text) :
    occurrence color k ++ r = color ++ List.replicate k ' ' ++ ';' :: r := by
  simp [occurrence]

theorem occurrence_ne_nil (color : Text) (k : Nat) : occurrence color k ≠ [] := by
  simp [occurrence]

/-- An occurrence is there exactly if the text starts with one. -/
theorem occurrence?_eq_some_iff :
    occurrence? color t = some n ↔
      ∃ k r, t = occurrence color k ++ r ∧ n = (occurrence color k).length := by
  constructor
  · intro h
    unfold occurrence? at h
    split at h
    · cases h
    · rename_i rest hrest
      obtain ⟨k, hk, hlen⟩ := Text.exists_dropChar ' ' rest
      split at h
      · rename_i r hr
        refine ⟨k, r, ?_, ?_⟩
        · rw [Text.dropLead?_eq_some_iff.1 hrest, hk, hr]
          simp [occurrence]
        · rw [← Option.some.inj h, hlen]
          simp [occurrence]
          omega
      · cases h
  · rintro ⟨k, r, rfl, rfl⟩
    have hd := Text.dropChar_replicate_append (c := ' ') k (t := ';' :: r) (by simp)
    simp [occurrence?, occurrence, Text.dropLead?_append_self, hd]
    omega

/-- The pattern of a color covers the occurrences of it. -/
theorem matches_pattern_iff {a b : Pattern.Place} :
    Pattern.Matches (pattern color).pattern a b ↔ ∃ k, a.Goes (occurrence color k) b := by
  have hplain : ∀ p ∈ [Pattern.Piece.spaces, .char ';'], p.pattern.IsPlain = true := by
    simp only [List.forall_mem_cons]
    exact ⟨rfl, rfl, nofun⟩
  rw [pattern, Pattern.Piece.matches_textThen_iff (by decide) hplain]
  simp only [List.map_cons, List.map_nil, List.prod_cons, List.prod_nil, mul_one, Language.mem_mul,
    Pattern.Piece.mem_language_spaces, Pattern.Piece.mem_language_char]
  constructor
  · rintro ⟨-, ⟨-, ⟨k, rfl⟩, -, rfl, rfl⟩, hab⟩
    exact ⟨k, by rwa [occurrence, List.append_assoc]⟩
  · rintro ⟨k, hab⟩
    exact ⟨_, ⟨_, ⟨k, rfl⟩, _, rfl, rfl⟩, by rwa [occurrence, List.append_assoc] at hab⟩

/-- **Which colors can be looked for:** those of up to so many bytes. -/
theorem canFind_iff : canFind color = true ↔ Text.size color ≤ 327670 := by
  have hdepth : ∀ p ∈ [Pattern.Piece.spaces, .char ';'], p.depth < Pattern.Piece.depthLimit := by
    decide
  have hsizes : (([Pattern.Piece.spaces, .char ';'] : List Pattern.Piece).map
      Pattern.Piece.size).sum = 104 := by decide
  rw [canFind, pattern, Pattern.Piece.isUsable_textThen_iff (by decide) hdepth, hsizes]
  simp only [Pattern.Piece.baseSize, Pattern.Piece.sizeLimit, stateSize]
  omega

/-- An occurrence at the start of a text ends with the first semicolon. -/
theorem occurrence?_append_cons_iff (hc : IsLiteral color) (hs : ';' ∉ s) :
    occurrence? color (s ++ ';' :: r) = some n ↔
      ∃ k, s = color ++ List.replicate k ' ' ∧ n = s.length + 1 := by
  rw [occurrence?_eq_some_iff]
  constructor
  · rintro ⟨k, r', ht, hn⟩
    have hsplit : s ++ ';' :: r = (color ++ List.replicate k ' ') ++ ';' :: r' := by
      simpa [occurrence] using ht
    have hcolor : ';' ∉ color ++ List.replicate k ' ' := by
      simp [hc.not_mem (c := ';') (by decide)]
    obtain ⟨rfl, rfl⟩ := Text.append_cons_inj hs hcolor hsplit
    exact ⟨k, rfl, by simpa [occurrence, Nat.add_assoc] using hn⟩
  · rintro ⟨k, rfl, rfl⟩
    exact ⟨k, r, by simp [occurrence], by simp [occurrence, Nat.add_assoc]⟩

/-- What comes after the first semicolon does not matter. -/
theorem occurrence?_congr (hc : IsLiteral color) (hs : ';' ∉ s) (r r' : Text) :
    occurrence? color (s ++ ';' :: r) = occurrence? color (s ++ ';' :: r') := by
  ext n
  rw [occurrence?_append_cons_iff hc hs, occurrence?_append_cons_iff hc hs]

/-- **Occurrences do not overlap.** One that starts in another is that other one. -/
theorem eq_of_suffix_occurrence (hc : IsLiteral color) (ho : IsLiteral other) (hs : s ≠ [])
    (hsuf : s <:+ occurrence color k) (h : occurrence? other (s ++ r) = some n) :
    other = color ∧ s = occurrence color k ∧ n = s.length := by
  obtain ⟨u, rfl, hu⟩ := Text.exists_of_suffix_concat hs hsuf
  have hsemi : ';' ∉ u := fun hm => by
    simpa [hc.not_mem (c := ';') (by decide)] using hu.subset hm
  rw [List.append_assoc] at h
  obtain ⟨l, rfl, rfl⟩ := (occurrence?_append_cons_iff ho hsemi).1 h
  obtain ⟨rfl, rfl⟩ := hc.eq_of_suffix_spaces ho hu
  exact ⟨rfl, rfl, by simp [Nat.add_assoc]⟩

/-! ### Replacements -/

/-- What is put in the place of an occurrence of a color of this name. -/
def inserted (name : Text) : Text := replacement name ++ [';']

/-- A replacement is the name itself or a palette call of a name. -/
theorem replacement_cases (hn : IsName name) :
    (∃ t, replacement name = '@' :: t ∧ ∀ c ∈ t, isNameChar c = true) ∨
      ∃ bare index, replacement name = Shade.paletteCall bare index ∧
        Unicode.isDigit index = true ∧ ∀ c ∈ bare, c = '@' ∨ isNameChar c = true := by
  obtain ⟨t, rfl, ht⟩ := hn
  have hat : ∀ c ∈ '@' :: t, c = '@' ∨ isNameChar c = true := fun c hc =>
    (List.mem_cons.1 hc).imp_right (ht c)
  cases he : Shade.expression? ('@' :: t) with
  | none => exact .inl ⟨t, by simp [replacement, he], ht⟩
  | some e =>
    obtain ⟨bare, index, rfl, hi, hb⟩ := Shade.exists_of_expression? he
    refine .inr ⟨bare, index, by simp [replacement, he], hi, fun c hc => ?_⟩
    have hprimary : ∀ c ∈ Shade.primaryVariable, c = '@' ∨ isNameChar c = true := by decide
    exact (hb c hc).elim (hat c) (hprimary c)

/-- The signs that end a name, a value or a hack are in no replacement. -/
theorem not_mem_replacement (hn : IsName name) {c : Char} (hc : c ∈ ":;\\".toList) :
    c ∉ replacement name := by
  have hsigns : ∀ c ∈ ":;\\".toList, isNameChar c = false ∧ c ≠ '@' ∧
      Unicode.isDigit c = false ∧ c ∉ Shade.callLead ++ Shade.callMiddle ++ Shade.callTail := by
    decide
  obtain ⟨hchar, hat, hdigit, hcall⟩ := hsigns c hc
  rcases replacement_cases hn with ⟨t, h, ht⟩ | ⟨bare, index, h, hi, hb⟩
  · rw [h]
    intro hm
    rcases List.mem_cons.1 hm with hm | hm
    · exact hat hm
    · simp [ht c hm] at hchar
  · have hbare : c ∉ bare := fun hm => by simpa [hat, hchar] using hb c hm
    have hindex : c ≠ index := by
      rintro rfl
      simp [hi] at hdigit
    rw [h, Shade.paletteCall_eq]
    simp only [List.mem_append, List.mem_cons, not_or] at hcall ⊢
    exact ⟨⟨⟨hcall.1.1, hbare⟩, hcall.1.2⟩, hindex, hcall.2⟩

/-- No replacement ends in a literal and spaces. -/
theorem not_suffix_replacement (hn : IsName name) (hc : IsLiteral color) :
    ¬ color ++ List.replicate k ' ' <:+ replacement name := by
  rcases replacement_cases hn with ⟨t, h, ht⟩ | ⟨bare, index, h, -, -⟩
  · -- Neither the sign of a hexadecimal color nor a parenthesis can stand in a name.
    rw [h]
    intro hs
    have hmem : ∀ d ∈ color, d = '@' ∨ isNameChar d = true := fun d hd => by
      rcases List.mem_cons.1 (hs.subset (List.mem_append_left _ hd)) with rfl | hm
      · exact .inl rfl
      · exact .inr (ht d hm)
    cases hc with
    | hex => exact absurd (hmem '#' (by simp)) (by decide)
    | rgba => exact absurd (hmem '(' (by simp)) (by decide)
  · -- A palette call ends in a backtick and a parenthesis.
    intro hs
    have htail : Shade.callTail = [')'] ++ ['`'] ++ [')'] := by decide
    rw [h, Shade.paletteCall_eq, htail, ← List.cons_append, ← List.append_assoc] at hs
    obtain ⟨c, u, rfl, hcu, -⟩ := hc.exists_cons
    rcases List.suffix_concat_iff.1 hs with hnil | ⟨v, hv, hvs⟩
    · simp at hnil
    · rw [← List.cons_append, ← List.append_assoc] at hvs
      rcases List.suffix_concat_iff.1 hvs with rfl | ⟨w, rfl, -⟩
      · obtain ⟨rfl, -⟩ := List.cons.inj hv
        exact absurd hcu (by decide)
      · have hm : '`' ∈ c :: u ++ List.replicate k ' ' := by simp [hv]
        rcases List.mem_append.1 hm with hm | hm
        · exact hc.not_mem (by decide) hm
        · simp at hm

/-- **No occurrence starts in a replacement,** whatever comes after it. -/
theorem occurrence?_suffix_inserted (hn : IsName name) (hc : IsLiteral color) (hs : s ≠ [])
    (hsuf : s <:+ inserted name) : occurrence? color (s ++ r) = none := by
  obtain ⟨u, rfl, hu⟩ := Text.exists_of_suffix_concat hs hsuf
  have hsemi : ';' ∉ u := fun hm => not_mem_replacement hn (by decide) (hu.subset hm)
  rw [Option.eq_none_iff_forall_ne_some]
  intro n h
  rw [List.append_assoc] at h
  obtain ⟨k, rfl, -⟩ := (occurrence?_append_cons_iff hc hsemi).1 h
  exact not_suffix_replacement hn hc hu

/-- A replacement has a sign that no stylesheet has, before its first semicolon. -/
theorem exists_inserted_eq (hn : IsName name) :
    ∃ p c q, inserted name = p ++ c :: q ∧ ';' ∉ p ∧ (c = '@' ∨ c = '`') := by
  rcases replacement_cases hn with ⟨t, h, -⟩ | ⟨bare, index, h, -, -⟩
  · exact ⟨[], '@', t ++ [';'], by simp [inserted, h], by simp, .inl rfl⟩
  · obtain ⟨q, hq⟩ : ∃ q, Shade.callLead = "color(~".toList ++ '`' :: q :=
      ⟨Shade.callLead.drop 8, by decide⟩
    refine ⟨"color(~".toList, '`', q ++ (bare ++ Shade.callMiddle ++ index :: Shade.callTail) ++
      [';'], ?_, by decide, .inr rfl⟩
    rw [inserted, h, Shade.paletteCall_eq, hq]
    simp only [List.append_assoc, List.cons_append]

/-- **No occurrence reaches into a replacement.** What ends in a semicolon and has none of the signs
of references is not the start of a text that a replacement leads. -/
theorem not_prefix_inserted (hn : IsName name) (hat : '@' ∉ s) (htick : '`' ∉ s) :
    ¬ s ++ [';'] <+: inserted name ++ r := by
  obtain ⟨p, c, q, hpq, hp, hc⟩ := exists_inserted_eq hn
  have hcs : c ∉ s := by rcases hc with rfl | rfl <;> assumption
  have hsemi : c ≠ ';' := by rcases hc with rfl | rfl <;> decide
  rintro ⟨x, hx⟩
  rw [hpq, List.append_assoc, List.append_assoc, List.append_eq_append_iff] at hx
  rcases hx with ⟨u, rfl, hu⟩ | ⟨u, rfl, hu⟩
  · cases u with
    | nil => exact hsemi (List.cons.inj hu).1.symm
    | cons d u =>
      obtain ⟨rfl, -⟩ := List.cons.inj hu
      exact hp (by simp)
  · cases u with
    | nil => exact hsemi (List.cons.inj hu).1
    | cons d u =>
      obtain ⟨rfl, -⟩ := List.cons.inj hu
      exact hcs (by simp)

end ColorTable

end Retint
