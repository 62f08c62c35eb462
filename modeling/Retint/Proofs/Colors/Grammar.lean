import Retint.Color
import Retint.Proofs.Pattern.Language

/-!
# The grammar of functional notation

The pattern for colors such as `rgba(0, 0, 0, 0.5)` is found just in the texts of a language, which
is put together from the texts of its parts, one after the other. What such a language holds can be
told a character at a time.

## Main definitions

* `Color.Grammar.char`, `Color.Grammar.run`, `Color.Grammar.anyOf` — the languages of the parts
* `Color.Grammar.component`, `Color.Grammar.functional` — components, and colors made of them
* `Color.completion` — what may follow the first letters of a word

## Main results

* `Color.isFound_functional_iff` — where the pattern for functional notation is found
* `Color.cons_mem_run_mul`, `Color.cons_mem_completion_mul` — texts by their first character
-/

namespace Retint.Color

namespace Grammar

/-! ### Parts -/

/-- One character that passes the test. -/
def char (test : Char → Bool) : Language Char := {u | ∃ c, test c = true ∧ u = [c]}

/-- Any number of characters that pass the test. -/
def run (test : Char → Bool) : Language Char := {u | ∀ c ∈ u, test c = true}

/-- One of the words, up to case. -/
def anyOf (words : List Text) : Language Char := {u | u.map Unicode.fold ∈ words}

/-- A text that may be left out. -/
def maybe (L : Language Char) : Language Char := 1 + L

/-! ### Functional notation -/

def names : List Text := ["rgb".toList, "hsl".toList, "hsv".toList]

def units : List Text := ["deg".toList, "rad".toList, "grad".toList, "turn".toList]

/-- The characters that end a component. -/
def isSeparator (c : Char) : Bool := c == ',' || Text.isBlank c

/-- The characters that may stand before the last number. -/
def isGap (c : Char) : Bool := c == '/' || Text.isBlank c

/-- The characters of the last number. -/
def isNumeral (c : Char) : Bool := c == '.' || Unicode.isDigit c

/-- Decimal digits, perhaps a percent sign, perhaps a unit of angles, and the commas or white space
behind them. -/
def component : Language Char :=
  char Unicode.isDigit * run Unicode.isDigit * maybe (char (· == '%')) * maybe (anyOf units) *
    (char isSeparator * run isSeparator)

/-- A name, perhaps with an `a`; in parentheses two or three components, white space or slashes,
and a last number, perhaps with a percent sign. -/
def functional : Language Char :=
  anyOf names * maybe (char (Unicode.fold · == 'a')) * char (· == '(') *
    (component * component * maybe component) * run isGap * (char isNumeral * run isNumeral) *
    maybe (char (· == '%')) * char (· == ')')

end Grammar

/-! ### The languages of the patterns -/

open Pattern Grammar

theorem language_one {test : Char → Bool} : (one test).language = char test := rfl

theorem language_many_one {test : Char → Bool} : (many (one test)).language = run test := by
  ext u
  exact mem_language_many_one

theorem mem_language_name {w u : Text} : u ∈ (name w).language ↔ u.map Unicode.fold = w := by
  rw [name, language_seqs]
  induction w generalizing u with
  | nil => simp [Language.mem_one]
  | cons c w ih =>
    rw [List.map_cons, List.map_cons, List.prod_cons, Language.mem_mul]
    constructor
    · rintro ⟨-, ⟨d, hd, rfl⟩, v, hv, rfl⟩
      rw [List.singleton_append, List.map_cons, ih.mp hv, eq_of_beq hd]
    · intro hu
      obtain ⟨d, v, rfl, hd, hv⟩ := List.map_eq_cons_iff.mp hu
      exact ⟨[d], ⟨d, beq_iff_eq.mpr hd, rfl⟩, v, ih.mpr hv, rfl⟩

theorem language_oneOf {names : List String} :
    (oneOf names).language = anyOf (names.map String.toList) := by
  ext u
  rw [oneOf, language_alts]
  induction names with
  | nil =>
    constructor
    · intro h
      exact (Language.notMem_zero u h).elim
    · intro h
      exact absurd h List.not_mem_nil
  | cons n names ih =>
    rw [List.map_cons, List.map_cons, List.sum_cons, Language.mem_add, ih, mem_language_name]
    show _ ∨ _ ↔ u.map Unicode.fold ∈ n.toList :: names.map String.toList
    rw [List.mem_cons]
    rfl

theorem language_component : Color.component.language = Grammar.component := by
  rw [Color.component, language_seqs, digits]
  simp only [List.map_cons, List.map_nil, List.prod_cons, List.prod_nil, mul_one, Pattern.char,
    language_opt, language_some₁_one, language_many_one, language_one, language_oneOf]
  simp only [Grammar.component, maybe, mul_assoc]
  rfl

theorem language_components : (rep Color.component 2 (some 3)).language =
    Grammar.component * Grammar.component * maybe Grammar.component := by
  ext u
  rw [mem_language_rep, language_component, maybe, mul_add, mul_one, Language.mem_add]
  constructor
  · rintro ⟨n, hl, hn, hu⟩
    obtain rfl | rfl : n = 2 ∨ n = 3 := by
      have := hn 3 rfl
      omega
    · exact .inl (by rwa [pow_two] at hu)
    · exact .inr (by rwa [pow_succ, pow_two] at hu)
  · rintro (hu | hu)
    · exact ⟨2, le_rfl, by simp, by rwa [pow_two]⟩
    · exact ⟨3, by omega, by simp, by rwa [pow_succ, pow_two]⟩

/-- The pattern for functional notation is found in the colors of the grammar. -/
theorem isFound_functional_iff {t : Text} :
    Color.functional.isFound t = true ↔ t ∈ Grammar.functional := by
  have hparts := @isFound_whole_iff t [oneOf ["rgb", "hsl", "hsv"], .opt (letter 'a'), .char '(',
    .rep Color.component 2 (some 3), .many (.one isGap), .some₁ (.one isNumeral), .opt (.char '%'),
    .char ')'] (by decide)
  refine hparts.trans ?_
  simp only [List.map_cons, List.map_nil, List.prod_cons, List.prod_nil, mul_one, Pattern.char,
    letter, language_opt, language_some₁_one, language_many_one, language_one, language_oneOf,
    language_components]
  simp only [Grammar.functional, maybe, mul_assoc]
  rfl

/-! ### Languages read character by character -/

section Reading

variable {test : Char → Bool} {words : List Text} {seen : Text} {L K : Language Char} {c : Char}
  {w : Text}

theorem nil_mem_mul : [] ∈ L * K ↔ [] ∈ L ∧ [] ∈ K := by
  rw [Language.mem_mul]
  constructor
  · rintro ⟨u, hu, v, hv, h⟩
    obtain ⟨rfl, rfl⟩ := List.append_eq_nil_iff.mp h
    exact ⟨hu, hv⟩
  · rintro ⟨hL, hK⟩
    exact ⟨[], hL, [], hK, rfl⟩

theorem nil_not_mem_char : [] ∉ char test := by
  rintro ⟨c, -, h⟩
  cases h

theorem cons_mem_char : c :: w ∈ char test ↔ test c = true ∧ w = [] := by
  constructor
  · rintro ⟨d, hd, h⟩
    obtain ⟨rfl, rfl⟩ := List.cons.inj h
    exact ⟨hd, rfl⟩
  · rintro ⟨hc, rfl⟩
    exact ⟨c, hc, rfl⟩

theorem cons_mem_char_mul : c :: w ∈ char test * K ↔ test c = true ∧ w ∈ K := by
  rw [Language.mem_mul]
  constructor
  · rintro ⟨-, ⟨d, hd, rfl⟩, v, hv, h⟩
    obtain ⟨rfl, rfl⟩ := List.cons.inj h
    exact ⟨hd, hv⟩
  · rintro ⟨hc, hw⟩
    exact ⟨[c], ⟨c, hc, rfl⟩, w, hw, rfl⟩

theorem mem_maybe_mul : w ∈ maybe L * K ↔ w ∈ K ∨ w ∈ L * K := by
  rw [maybe, add_mul, one_mul, Language.mem_add]

theorem nil_mem_run : [] ∈ run test := fun _ hc => absurd hc List.not_mem_nil

theorem mem_run_mul_of_mem (h : w ∈ K) : w ∈ run test * K :=
  Language.mem_mul.mpr ⟨[], nil_mem_run, w, h, rfl⟩

theorem cons_mem_run_mul :
    c :: w ∈ run test * K ↔ c :: w ∈ K ∨ test c = true ∧ w ∈ run test * K := by
  constructor
  · rintro ⟨u, hu, v, hv, h⟩
    cases u with
    | nil => exact .inl (by rwa [← h])
    | cons d u =>
      obtain ⟨rfl, rfl⟩ := List.cons.inj h
      have hall := List.forall_mem_cons.mp hu
      exact .inr ⟨hall.1, Language.append_mem_mul hall.2 hv⟩
  · rintro (h | ⟨hc, u, hu, v, hv, rfl⟩)
    · exact mem_run_mul_of_mem h
    · exact Language.mem_mul.mpr ⟨c :: u, List.forall_mem_cons.mpr ⟨hc, hu⟩, v, hv, rfl⟩

/-! #### Words up to case -/

/-- What may follow the letters already seen of a word; these are given with their case folded. -/
def completion (words : List Text) (seen : Text) : Language Char :=
  {u | seen ++ u.map Unicode.fold ∈ words}

/-- Some word begins with these letters. -/
def begins (words : List Text) (seen : Text) : Bool := words.any (seen.isPrefixOf ·)

/-- No word begins with another one. -/
def IsPrefixFree (words : List Text) : Prop := ∀ u ∈ words, ∀ v ∈ words, u <+: v → u = v

theorem completion_nil : completion words [] = anyOf words := rfl

theorem begins_of_mem_completion (h : w ∈ completion words seen) : begins words seen = true := by
  rw [begins, List.any_eq_true]
  exact ⟨_, h, List.isPrefixOf_iff_prefix.mpr (List.prefix_append ..)⟩

/-- Behind a whole word nothing more of it can follow. -/
theorem completion_of_mem (hfree : IsPrefixFree words) (h : seen ∈ words) :
    completion words seen = 1 := by
  ext u
  rw [Language.mem_one]
  constructor
  · intro hu
    have hseen := hfree _ h _ hu (List.prefix_append ..)
    simpa using hseen
  · rintro rfl
    show seen ++ [] ∈ words
    rwa [List.append_nil]

theorem nil_not_mem_completion (h : seen ∉ words) : [] ∉ completion words seen := by
  intro hnil
  rw [← List.append_nil seen] at h
  exact h hnil

theorem cons_mem_completion_mul (h : seen ∉ words) : c :: w ∈ completion words seen * K ↔
    begins words (seen ++ [Unicode.fold c]) = true ∧
      w ∈ completion words (seen ++ [Unicode.fold c]) * K := by
  have hcons : ∀ u, c :: u ∈ completion words seen ↔
      u ∈ completion words (seen ++ [Unicode.fold c]) := by
    intro u
    show _ ++ _ ∈ words ↔ _ ++ _ ∈ words
    rw [List.map_cons, List.append_assoc, List.singleton_append]
  constructor
  · rintro ⟨u, hu, v, hv, huv⟩
    cases u with
    | nil => exact absurd hu (nil_not_mem_completion h)
    | cons d u =>
      obtain ⟨rfl, rfl⟩ := List.cons.inj huv
      have hu := (hcons u).mp hu
      exact ⟨begins_of_mem_completion hu, Language.append_mem_mul hu hv⟩
  · rintro ⟨-, u, hu, v, hv, rfl⟩
    exact Language.mem_mul.mpr ⟨c :: u, (hcons u).mpr hu, v, hv, rfl⟩

end Reading

end Retint.Color
