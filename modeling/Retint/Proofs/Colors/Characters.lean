import Retint.Proofs.Colors.Grammar

/-!
# Characters of functional notation

Digits, separators and the first letters of units are told apart by the character alone, whatever
its script: no white space is a digit, and only letters of ASCII fold to the first letter of a unit.

## Main results

* `Color.of_isDigit`, `Color.of_isSeparator`, `Color.of_begins_units` — what such a character is not
-/

namespace Retint.Color

open Grammar

/-! ### Digits and white space -/

theorem toNat_of_isBlank {c : Char} (h : Text.isBlank c = true) :
    c.toNat ≤ 0x20 ∨ c.toNat = 0x85 ∨ c.toNat = 0xA0 ∨ c.toNat = 0x1680 ∨
      (0x2000 ≤ c.toNat ∧ c.toNat ≤ 0x205F) ∨ c.toNat = 0x3000 := by
  simp only [Text.isBlank, Bool.or_eq_true, Bool.and_eq_true, decide_eq_true_eq, beq_iff_eq,
    UInt32.le_iff_toNat_le, ← UInt32.toNat_inj, UInt32.reduceToNat] at h
  unfold Char.toNat
  omega

/-- A range of codes that no white space belongs to. -/
def isFreeOfBlanks (r : Nat × Nat) : Bool :=
  r.2 < 0x80 && 0x20 < r.1 || 0xA0 < r.1 && r.2 < 0x1680 || 0x1680 < r.1 && r.2 < 0x2000 ||
    0x205F < r.1 && r.2 < 0x3000 || 0x3000 < r.1

theorem digits_eq_ofText : Unicode.digits = .ofText Unicode.Category.nd.table := by
  rfl

set_option maxRecDepth 20000 in
theorem digits_isFreeOfBlanks : Unicode.digits.ranges.all isFreeOfBlanks = true := by
  have htable : Unicode.Category.nd.table.toList = _ := String.toList_ofList
  rw [digits_eq_ofText, CharSet.ofText, htable]
  decide +kernel

theorem cases_of_isDigit {c : Char} (h : Unicode.isDigit c = true) :
    (0x30 ≤ c.toNat ∧ c.toNat ≤ 0x39) ∨ (0x80 ≤ c.toNat ∧ Unicode.digits.has c = true) := by
  simp only [Unicode.isDigit, Bool.or_eq_true, Bool.and_eq_true, decide_eq_true_eq, Char.le_def,
    UInt32.le_iff_toNat_le] at h
  exact h

theorem isBlank_of_isDigit {c : Char} (h : Unicode.isDigit c = true) : Text.isBlank c = false := by
  rw [Bool.eq_false_iff]
  intro hblank
  have hnat := toNat_of_isBlank hblank
  rcases cases_of_isDigit h with hdigit | ⟨hascii, hhas⟩
  · omega
  · obtain ⟨r, hr, hin⟩ := List.any_eq_true.mp hhas
    have hfree := List.all_eq_true.mp digits_isFreeOfBlanks r hr
    simp only [CharSet.inRange, isFreeOfBlanks, Bool.or_eq_true, Bool.and_eq_true,
      decide_eq_true_eq] at hin hfree
    omega

/-! ### Units -/

/-- The first letters of the units. -/
def initials : Text := ['d', 'r', 'g', 't']

theorem toNat_of_mem_initials : ∀ d ∈ initials, 0x61 ≤ d.toNat ∧ d.toNat ≤ 0x7A := by
  decide

set_option maxRecDepth 4000 in
/-- No character beyond ASCII folds to one of these letters. -/
theorem foldRuns_initials : Unicode.foldRuns.all (fun run => initials.all fun d =>
    (d.toNat : Int) - run.delta < run.low || (run.high : Int) < d.toNat - run.delta) = true := by
  decide

/-- A number that is no character's code stands for the character zero. -/
theorem toNat_ofNat_cases (n : Nat) : (Char.ofNat n).toNat = n ∨ (Char.ofNat n).toNat = 0 := by
  by_cases h : n.isValidChar
  · left
    rw [show Char.ofNat n = Char.ofNatAux n h from dif_pos h]
    rfl
  · right
    rw [show Char.ofNat n = '\x00' from dif_neg h]
    rfl

theorem toNat_of_fold {c : Char} (h : Unicode.fold c ∈ initials) :
    (0x41 ≤ c.toNat ∧ c.toNat ≤ 0x5A) ∨ (0x61 ≤ c.toNat ∧ c.toNat ≤ 0x7A) := by
  rw [Unicode.fold] at h
  split at h
  next =>
    split at h
    next hcapital => exact .inl hcapital
    next => exact .inr (toNat_of_mem_initials c h)
  next hascii =>
    split at h
    next n hn =>
      obtain ⟨run, hrun, htarget⟩ := List.exists_of_findSome?_eq_some hn
      rw [Unicode.FoldRun.target?, Option.ite_none_right_eq_some] at htarget
      obtain ⟨⟨hlow, hhigh, -⟩, hsum⟩ := htarget
      obtain rfl := Option.some.inj hsum
      have hletter := toNat_of_mem_initials _ h
      have hfree := List.all_eq_true.mp (List.all_eq_true.mp foldRuns_initials run hrun) _ h
      simp only [Bool.or_eq_true, decide_eq_true_eq] at hfree
      rcases toNat_ofNat_cases (c.toNat + run.delta).toNat with hnat | hnat
      · omega
      · omega
    next =>
      have hletter := toNat_of_mem_initials c h
      omega

/-! ### Characters told apart -/

variable {c : Char}

/-- A digit is no character that ends its number. -/
theorem of_isDigit (h : Unicode.isDigit c = true) :
    isSeparator c = false ∧ isGap c = false ∧ isNumeral c = true ∧ c ≠ '%' ∧ c ≠ ')' := by
  refine ⟨?_, ?_, by rw [isNumeral, h, Bool.or_true], ?_, ?_⟩
  · rw [isSeparator, isBlank_of_isDigit h, Bool.or_false, beq_eq_false_iff_ne]
    rintro rfl
    exact absurd h (by decide)
  · rw [isGap, isBlank_of_isDigit h, Bool.or_false, beq_eq_false_iff_ne]
    rintro rfl
    exact absurd h (by decide)
  · rintro rfl
    exact absurd h (by decide)
  · rintro rfl
    exact absurd h (by decide)

theorem of_isSeparator (h : isSeparator c = true) :
    Unicode.isDigit c = false ∧ isNumeral c = false ∧ c ≠ '%' ∧ c ≠ ')' := by
  have hdigit : Unicode.isDigit c = false := by
    rw [Bool.eq_false_iff]
    intro hdigit
    rw [(of_isDigit hdigit).1] at h
    cases h
  refine ⟨hdigit, ?_, ?_, ?_⟩
  · rw [isNumeral, hdigit, Bool.or_false, beq_eq_false_iff_ne]
    rintro rfl
    exact absurd h (by decide)
  · rintro rfl
    exact absurd h (by decide)
  · rintro rfl
    exact absurd h (by decide)

theorem begins_units_iff : begins units [c] = true ↔ c ∈ initials := by
  show ((c == 'd' && true) || ((c == 'r' && true) || ((c == 'g' && true) ||
    ((c == 't' && true) || false)))) = true ↔ _
  simp [initials]

/-- The first letter of a unit is no character that stands in its place otherwise. -/
theorem of_begins_units (h : begins units [Unicode.fold c] = true) :
    Unicode.isDigit c = false ∧ isSeparator c = false ∧ isNumeral c = false ∧ c ≠ '%' ∧
      c ≠ ')' := by
  have hletter := toNat_of_fold (begins_units_iff.mp h)
  have hne : ∀ d : Char, d.toNat < 0x41 → c ≠ d := by
    rintro d hd rfl
    omega
  have hdigit : Unicode.isDigit c = false := by
    rw [Bool.eq_false_iff]
    intro hdigit
    have hnat := cases_of_isDigit hdigit
    omega
  have hblank : Text.isBlank c = false := by
    rw [Bool.eq_false_iff]
    intro hblank
    have hnat := toNat_of_isBlank hblank
    omega
  refine ⟨hdigit, ?_, ?_, hne _ (by decide), hne _ (by decide)⟩
  · rw [isSeparator, hblank, Bool.or_false, beq_eq_false_iff_ne]
    exact hne _ (by decide)
  · rw [isNumeral, hdigit, Bool.or_false, beq_eq_false_iff_ne]
    exact hne _ (by decide)

theorem begins_units_of_isDigit (h : Unicode.isDigit c = true) :
    begins units [Unicode.fold c] = false := by
  rw [Bool.eq_false_iff]
  intro hunit
  rw [(of_begins_units hunit).1] at h
  cases h

theorem begins_units_of_isSeparator (h : isSeparator c = true) :
    begins units [Unicode.fold c] = false := by
  rw [Bool.eq_false_iff]
  intro hunit
  rw [(of_begins_units hunit).2.1] at h
  cases h

end Retint.Color
