import Retint.Text

/-!
# Sets of characters

A set of characters is given by ranges of code points. The ranges may overlap and stand in any
order; where order counts they are sorted first. Tables of such sets are written as text, one word
for each range.

## Main definitions

* `CharSet.has` — whether a character is in a set
* `CharSet.union`, `CharSet.complement`, `CharSet.inter`, `CharSet.diff` — the operations of sets
* `CharSet.ofText` — the set that a table describes

## Main results

* `CharSet.hasCode_union`, `CharSet.hasCode_complement`, `CharSet.hasCode_inter`,
  `CharSet.hasCode_diff` — what the operations do
-/

namespace Retint

/-- A set of characters, as ranges of code points whose ends belong to them. -/
structure CharSet where
  ranges : List (Nat × Nat)
deriving Repr

namespace CharSet

/-- The greatest code point. -/
def lastCode : Nat := 0x10FFFF

def inRange (n : Nat) (r : Nat × Nat) : Bool := r.1 ≤ n && n ≤ r.2

def hasCode (s : CharSet) (n : Nat) : Bool := s.ranges.any (inRange n)

def has (s : CharSet) (c : Char) : Bool := s.hasCode c.toNat

def empty : CharSet := ⟨[]⟩

def all : CharSet := ⟨[(0, lastCode)]⟩

/-- The characters from `low` to `high`. -/
def span (low high : Char) : CharSet := ⟨[(low.toNat, high.toNat)]⟩

def single (c : Char) : CharSet := span c c

/-! ### Operations -/

def union (s t : CharSet) : CharSet := ⟨s.ranges ++ t.ranges⟩

def unions (sets : List CharSet) : CharSet := ⟨sets.flatMap ranges⟩

/-- The codes from `n` on that no range covers, if the ranges are in order of their starts. -/
def gaps (n : Nat) : List (Nat × Nat) → List (Nat × Nat)
  | [] => if n ≤ lastCode then [(n, lastCode)] else []
  | (low, high) :: rest =>
    if n < low then (n, low - 1) :: gaps (max n (high + 1)) rest else gaps (max n (high + 1)) rest

def sorted (s : CharSet) : List (Nat × Nat) := s.ranges.mergeSort fun a b => a.1 ≤ b.1

/-- All codes that are not in the set. The ranges of a complement are in order, and no two of them
touch. -/
def complement (s : CharSet) : CharSet := ⟨gaps 0 s.sorted⟩

/-- The same set with its ranges in order and no two of them touching. -/
def normal (s : CharSet) : CharSet := s.complement.complement

/-- What is in `s` but not in `t`. -/
def diff (s t : CharSet) : CharSet := (s.complement.union t).complement

def inter (s t : CharSet) : CharSet := s.diff t.complement

/-- What is in exactly one of the two. -/
def symmDiff (s t : CharSet) : CharSet := (s.diff t).union (t.diff s)

/-! ### Laws -/

theorem hasCode_union (s t : CharSet) (n : Nat) :
    (s.union t).hasCode n = (s.hasCode n || t.hasCode n) := by
  simp [union, hasCode]

theorem any_gaps {n m : Nat} {l : List (Nat × Nat)} (h : l.Pairwise fun a b => a.1 ≤ b.1)
    (hm : m ≤ lastCode) :
    (gaps n l).any (inRange m) = (decide (n ≤ m) && !l.any (inRange m)) := by
  induction l generalizing n with
  | nil =>
    by_cases hn : n ≤ lastCode
    · simp [gaps, inRange, hn, hm]
    · simp [gaps, hn]
      omega
  | cons r l ih =>
    obtain ⟨low, high⟩ := r
    obtain ⟨hl, h⟩ := List.pairwise_cons.mp h
    have later : m < low → l.any (inRange m) = false := fun hlt => by
      rw [List.any_eq_false]
      intro x hx
      have := hl x hx
      simp [inRange]
      omega
    by_cases hn : n < low <;> by_cases hlt : m < low
    · rw [gaps, if_pos hn, List.any_cons, ih h, List.any_cons, later hlt, Bool.eq_iff_iff]
      simp [inRange]
      omega
    · rw [gaps, if_pos hn, List.any_cons, ih h, List.any_cons, Bool.eq_iff_iff]
      cases l.any (inRange m) with
      | false =>
        simp [inRange]
        omega
      | true =>
        simp [inRange]
        omega
    · rw [gaps, if_neg hn, ih h, List.any_cons, later hlt, Bool.eq_iff_iff]
      simp [inRange]
      omega
    · rw [gaps, if_neg hn, ih h, List.any_cons, Bool.eq_iff_iff]
      cases l.any (inRange m) with
      | false =>
        simp [inRange]
        omega
      | true =>
        simp [inRange]

theorem hasCode_complement (s : CharSet) {n : Nat} (h : n ≤ lastCode) :
    s.complement.hasCode n = !s.hasCode n := by
  have hs : s.sorted.Pairwise fun a b => a.1 ≤ b.1 := by
    have : s.sorted.Pairwise fun a b => decide (a.1 ≤ b.1) = true :=
      List.pairwise_mergeSort (by simp; omega) (by simp; omega) s.ranges
    simpa using this
  rw [complement, hasCode, any_gaps hs h]
  have : s.sorted.any (inRange n) = s.ranges.any (inRange n) := by
    rw [Bool.eq_iff_iff]
    simp [sorted, List.mem_mergeSort]
  simp [this, hasCode]

theorem hasCode_diff (s t : CharSet) {n : Nat} (h : n ≤ lastCode) :
    (s.diff t).hasCode n = (s.hasCode n && !t.hasCode n) := by
  simp [diff, hasCode_complement _ h, hasCode_union]

theorem hasCode_inter (s t : CharSet) {n : Nat} (h : n ≤ lastCode) :
    (s.inter t).hasCode n = (s.hasCode n && t.hasCode n) := by
  simp [inter, hasCode_diff _ _ h, hasCode_complement _ h]

/-! ### Tables -/

/-- The number that hexadecimal digits make; other characters count as zero. -/
def ofHex (digits : Text) : Nat :=
  digits.foldl (fun n c => 16 * n + (Text.hexDigit? c).getD 0) 0

/-- Every second code from `low` to `high`. -/
def everySecond (low high : Nat) : List (Nat × Nat) :=
  (List.range ((high - low) / 2 + 1)).map fun i => (low + 2 * i, low + 2 * i)

/-- The ranges that one word of a table describes: a code `A`, a range `A-B`, or every second code
of a range, `A-B/2`. -/
def ofWord (word : Text) : List (Nat × Nat) :=
  match Text.cut? '-' word with
  | none => [(ofHex word, ofHex word)]
  | some (low, high) =>
    match Text.cut? '/' high with
    | none => [(ofHex low, ofHex high)]
    | some (high, _) => everySecond (ofHex low) (ofHex high)

/-- The set that a table describes: words with spaces or line feeds between them. -/
def ofText (table : String) : CharSet :=
  ⟨(Text.words table.toList).flatMap ofWord⟩

end CharSet

end Retint
