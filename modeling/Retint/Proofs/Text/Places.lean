import Mathlib.Data.List.Basic
import Retint.Text.Source
import Retint.Text.Utf8

/-!
# Places by bytes

A place in a text is told by the number of bytes before it. So a text that is put together from
parts has a place between any two of them, and what the bytes say about the text can be said about
its parts.

## Main definitions

* `Text.uncovered` — a text without the characters at covered places
* `Text.uncoveredBytes` — bytes without the covered ones

## Main results

* `Source.cut?_of_eq`, `Source.slice?_of_eq` — the sides of a place, and what is between two places
* `Text.uncovered_append` — the parts of a text can be gone through one by one
* `Text.utf8_uncovered` — the characters that are left have the bytes that are left
-/

namespace Retint

namespace Text

variable {a b a' b' t : Text} {n : Nat} {c : Char}

/-! ### Sizes -/

@[simp] theorem size_nil : size [] = 0 := rfl

@[simp] theorem size_cons (c : Char) (t : Text) : size (c :: t) = c.utf8Size + size t := rfl

@[simp] theorem size_append (a b : Text) : size (a ++ b) = size a + size b := by
  induction a with
  | nil => simp
  | cons c a ih => simp [ih, Nat.add_assoc]

@[simp] theorem size_replicate (k : Nat) (c : Char) :
    size (List.replicate k c) = k * c.utf8Size := by
  induction k with
  | zero => simp
  | succ k ih => rw [List.replicate_succ, size_cons, ih, Nat.succ_mul, Nat.add_comm]

theorem size_cons_pos (c : Char) (t : Text) : 0 < size (c :: t) :=
  Nat.add_pos_left c.utf8Size_pos _

theorem eq_nil_of_size_eq_zero (h : size t = 0) : t = [] := by
  cases t with
  | nil => rfl
  | cons c t => exact absurd h (Nat.ne_of_gt (size_cons_pos c t))

/-- Of two places in a text the one with fewer bytes before it comes first. -/
theorem exists_of_size_le (h : a ++ b = a' ++ b') (hle : size a ≤ size a') :
    ∃ m, a' = a ++ m ∧ b = m ++ b' := by
  rcases List.append_eq_append_iff.mp h with ⟨m, rfl, rfl⟩ | ⟨m, rfl, rfl⟩
  · exact ⟨m, rfl, rfl⟩
  · rw [size_append] at hle
    obtain rfl := eq_nil_of_size_eq_zero (t := m) (by omega)
    exact ⟨[], by simp, rfl⟩

/-- No place is inside of a character. -/
theorem size_le_or_le (h : a' ++ b' = a ++ c :: b) :
    size a' ≤ size a ∨ size a + c.utf8Size ≤ size a' := by
  rcases List.append_eq_append_iff.mp h with ⟨m, rfl, -⟩ | ⟨m, rfl, hm⟩
  · exact .inl (by simp)
  · cases m with
    | nil => exact .inl (by simp)
    | cons d m =>
      obtain ⟨rfl, -⟩ := List.cons.inj hm
      exact .inr (by simp)

theorem drop?_append (a b : Text) : drop? (size a) (a ++ b) = some b := by
  induction a with
  | nil => cases b <;> rfl
  | cons c a ih =>
    obtain ⟨k, hk⟩ := Nat.exists_eq_add_of_lt (size_cons_pos c a)
    rw [Nat.zero_add] at hk
    rw [size_cons] at hk
    rw [size_cons, hk, List.cons_append, drop?, if_pos (by omega), ← hk,
      Nat.add_sub_cancel_left, ih]

theorem take?_append (a b : Text) : take? (size a) (a ++ b) = some a := by
  induction a with
  | nil => cases b <;> rfl
  | cons c a ih =>
    obtain ⟨k, hk⟩ := Nat.exists_eq_add_of_lt (size_cons_pos c a)
    rw [Nat.zero_add] at hk
    rw [size_cons] at hk
    rw [size_cons, hk, List.cons_append, take?, if_pos (by omega), ← hk,
      Nat.add_sub_cancel_left, ih]
    rfl

/-! ### Bytes -/

theorem length_utf8Char (c : Char) : (utf8Char c).length = c.utf8Size := by
  unfold utf8Char Char.utf8Size
  simp only [UInt32.le_iff_toNat_le, UInt32.toNat_ofNatLT, Char.toNat]
  grind

theorem utf8_cons (c : Char) (t : Text) : utf8 (c :: t) = utf8Char c ++ utf8 t := rfl

@[simp] theorem utf8_append (a b : Text) : utf8 (a ++ b) = utf8 a ++ utf8 b :=
  List.flatMap_append

@[simp] theorem length_utf8 (t : Text) : (utf8 t).length = size t := by
  induction t with
  | nil => rfl
  | cons c t ih => rw [utf8_cons, List.length_append, length_utf8Char, ih, size_cons]

/-- A byte of a part of a text, where the part's characters have one byte each. -/
theorem exists_getElem?_utf8 (hb : ∀ c ∈ b, utf8Char c = [c.toNat.toUInt8]) (hle : size a ≤ n)
    (hlt : n < size (a ++ b)) (t : Text) :
    ∃ c ∈ b, (utf8 (a ++ b ++ t))[n]? = some c.toNat.toUInt8 := by
  have hbytes : utf8 b = b.map fun c => c.toNat.toUInt8 := by
    rw [utf8, List.map_eq_flatMap]
    exact List.flatMap_congr hb
  have hlen : b.length = size b := by rw [← length_utf8, hbytes, List.length_map]
  rw [size_append] at hlt
  have hpos : n - size a < b.length := by omega
  refine ⟨b[n - size a], List.getElem_mem _, ?_⟩
  rw [utf8_append, utf8_append, List.append_assoc, List.getElem?_append_right (by simpa using hle),
    List.getElem?_append_left (by simpa [hlen] using hpos), length_utf8, hbytes, List.getElem?_map,
    List.getElem?_eq_getElem hpos]
  rfl

/-! ### What is not covered -/

/-- What is left of a text without the characters that start at a covered byte, if `n` bytes come
before the text. -/
def uncovered (covered : Nat → Bool) : Nat → Text → Text
  | _, [] => []
  | n, c :: rest =>
    if covered n then uncovered covered (n + c.utf8Size) rest
    else c :: uncovered covered (n + c.utf8Size) rest

/-- What is left of the bytes without the covered ones. -/
def uncoveredBytes (covered : Nat → Bool) (n : Nat) (bytes : List UInt8) : List UInt8 :=
  ((bytes.zipIdx n).filter fun byte => !covered byte.2).map Prod.fst

variable {covered covered' : Nat → Bool}

theorem uncovered_append (covered : Nat → Bool) (n : Nat) (a b : Text) :
    uncovered covered n (a ++ b) = uncovered covered n a ++ uncovered covered (n + size a) b := by
  induction a generalizing n with
  | nil => rfl
  | cons c a ih =>
    simp only [List.cons_append, uncovered, ih, size_cons, Nat.add_assoc]
    split <;> rfl

theorem uncovered_congr (h : ∀ i, n ≤ i → i < n + size t → covered i = covered' i) :
    uncovered covered n t = uncovered covered' n t := by
  induction t generalizing n with
  | nil => rfl
  | cons c t ih =>
    have hc : 0 < c.utf8Size := c.utf8Size_pos
    rw [size_cons] at h
    rw [uncovered, uncovered, h n (Nat.le_refl n) (by omega),
      ih fun i hle hlt => h i (by omega) (by omega)]

theorem uncovered_eq_self (h : ∀ i, n ≤ i → i < n + size t → covered i = false) :
    uncovered covered n t = t := by
  have hsame : uncovered covered n t = uncovered (fun _ => false) n t := uncovered_congr h
  rw [hsame]
  clear h hsame
  induction t generalizing n with
  | nil => rfl
  | cons c t ih => exact congrArg (c :: ·) ih

theorem uncovered_eq_nil (h : ∀ i, n ≤ i → i < n + size t → covered i = true) :
    uncovered covered n t = [] := by
  have hsame : uncovered covered n t = uncovered (fun _ => true) n t := uncovered_congr h
  rw [hsame]
  clear h hsame
  induction t generalizing n with
  | nil => rfl
  | cons c t ih => exact ih

theorem uncoveredBytes_append (covered : Nat → Bool) (n : Nat) (l r : List UInt8) :
    uncoveredBytes covered n (l ++ r) =
      uncoveredBytes covered n l ++ uncoveredBytes covered (n + l.length) r := by
  simp [uncoveredBytes, List.zipIdx_append]

/-- Bytes that are all covered, or all not. -/
theorem uncoveredBytes_of_const {l : List UInt8} {b : Bool}
    (h : ∀ i, n ≤ i → i < n + l.length → covered i = b) :
    uncoveredBytes covered n l = if b then [] else l := by
  have hmem : ∀ byte ∈ l.zipIdx n, covered byte.2 = b := fun byte hbyte => by
    obtain ⟨hle, hlt, -⟩ := List.mem_zipIdx hbyte
    exact h byte.2 hle hlt
  cases b with
  | true =>
    rw [uncoveredBytes, List.filter_eq_nil_iff.mpr fun byte hbyte => by simp [hmem byte hbyte]]
    rfl
  | false =>
    rw [uncoveredBytes, List.filter_eq_self.mpr fun byte hbyte => by simp [hmem byte hbyte],
      List.zipIdx_map_fst]
    rfl

/-- **The characters that are left have the bytes that are left,** if no character is covered in
part. -/
theorem utf8_uncovered (h : ∀ a c b, t = a ++ c :: b → ∀ i, n + size a ≤ i →
    i < n + size a + c.utf8Size → covered i = covered (n + size a)) :
    utf8 (uncovered covered n t) = uncoveredBytes covered n (utf8 t) := by
  induction t generalizing n with
  | nil => rfl
  | cons c t ih =>
    have hfirst := uncoveredBytes_of_const (l := utf8Char c) (n := n) fun i hle hlt =>
      h [] c t rfl i hle (by rwa [length_utf8Char] at hlt)
    have hrest := ih (n := n + c.utf8Size) fun a d b ht i hle hlt => by
      have hsize : n + size (c :: a) = n + c.utf8Size + size a := by
        rw [size_cons, Nat.add_assoc]
      have hpart := h (c :: a) d b (by rw [ht, List.cons_append]) i
      rw [hsize] at hpart
      exact hpart hle hlt
    rw [utf8_cons, uncoveredBytes_append, length_utf8Char, ← hrest, hfirst, uncovered, size_nil,
      Nat.add_zero]
    cases covered n with
    | true => rfl
    | false => exact utf8_cons c _

end Text

/-! ### Places of a source -/

namespace Source

open Text

variable {source : Source} {a b c : Text}

theorem cut?_of_eq (h : source.text = a ++ b) : source.cut? (size a) = some ⟨a.reverse, b⟩ := by
  rw [cut?_eq, h, take?_append, drop?_append]
  rfl

theorem slice?_of_eq (h : source.text = a ++ (b ++ c)) :
    source.slice? (size a) (size (a ++ b)) = some b := by
  have hsub : size (a ++ b) - size a = size b := by rw [size_append, Nat.add_sub_cancel_left]
  rw [slice?, if_pos (by simp), cut?_of_eq h, Option.bind_some, hsub, take?_append]

end Source

end Retint
