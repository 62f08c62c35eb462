import Retint.Text

/-!
# Rows taken greedily

A pattern can be a sequence of rows of characters, each row being of one kind of characters. There
may be many ways to divide a text into such rows. The one that is found takes as many characters as
it can for the first row, and gives back as few of them as the rows after it need; and so on with
the next row. What has been taken for a row is then known.

## Main definitions

* `Pattern.Row` — a row of characters
* `Pattern.take?` — the rows that a text begins with, taken greedily

## Main results

* `Pattern.take?_cons_iff` — what is taken for the first row
* `Pattern.take?_cons_of_longest` — a row that need not give anything back
-/

namespace Retint.Pattern

/-- A row of characters that pass a test, with the least and the greatest number of them. -/
structure Row where
  test : Char → Bool
  least : Nat
  most : Option Nat

/-- One character. -/
def Row.one (test : Char → Bool) : Row := ⟨test, 1, some 1⟩

/-- Any number of characters. -/
def Row.many (test : Char → Bool) : Row := ⟨test, 0, none⟩

/-- At least one character. -/
def Row.some₁ (test : Char → Bool) : Row := ⟨test, 1, none⟩

@[simp] theorem Row.test_one (test : Char → Bool) : (one test).test = test := rfl

@[simp] theorem Row.test_many (test : Char → Bool) : (many test).test = test := rfl

@[simp] theorem Row.test_some₁ (test : Char → Bool) : (some₁ test).test = test := rfl

/-- The greatest number of characters that a text has for the row. -/
def Row.reach (r : Row) (t : Text) : Nat :=
  let run := (t.takeWhile r.test).length
  r.most.elim run (min run)

/-- The first answer, from a number down to zero. -/
def firstDown {α : Type} (f : Nat → Option α) : Nat → Option α
  | 0 => f 0
  | n + 1 => (f (n + 1)).or (firstDown f n)

/-- Takes the rows off a text, one after the other. Each takes as many characters as it can, as long
as the rows after it can be taken off what is left. -/
def take? : List Row → Text → Option (List Text)
  | [], _ => some []
  | r :: rs, t =>
    firstDown (fun n =>
      if r.least ≤ n then (take? rs (t.drop n)).map (t.take n :: ·) else none) (r.reach t)

/-! ### What is taken -/

variable {α : Type} {f : Nat → Option α} {n : Nat} {x : α} {r : Row} {rs : List Row}
  {t a b : Text} {parts more : List Text}

theorem firstDown_eq_some_iff :
    firstDown f n = some x ↔ ∃ k ≤ n, f k = some x ∧ ∀ m ≤ n, k < m → f m = none := by
  induction n with
  | zero =>
    rw [firstDown]
    constructor
    · intro h
      exact ⟨0, Nat.le_refl _, h, fun m hm hlt => by omega⟩
    · rintro ⟨k, hk, h, -⟩
      rwa [Nat.le_zero.mp hk] at h
  | succ n ih =>
    rw [firstDown, Option.or_eq_some_iff, ih]
    constructor
    · rintro (h | ⟨hnone, k, hk, h, hlater⟩)
      · exact ⟨n + 1, Nat.le_refl _, h, fun m hm hlt => by omega⟩
      · refine ⟨k, by omega, h, fun m hm hlt => ?_⟩
        rcases Nat.le_succ_iff.mp hm with hm | rfl
        · exact hlater m hm hlt
        · exact hnone
    · rintro ⟨k, hk, h, hlater⟩
      rcases Nat.le_succ_iff.mp hk with hk | rfl
      · refine .inr ⟨hlater _ (Nat.le_refl _) (by omega), k, hk, h, fun m hm => hlater m (by omega)⟩
      · exact .inl h

/-- The characters are a row of this kind. -/
structure Row.Fits (r : Row) (a : Text) : Prop where
  test : ∀ c ∈ a, r.test c = true
  least : r.least ≤ a.length
  most : ∀ m ∈ r.most, a.length ≤ m

theorem forall_mem_iff_length_le {test : Char → Bool} (a b : Text) :
    (∀ c ∈ a, test c = true) ↔ a.length ≤ ((a ++ b).takeWhile test).length := by
  induction a with
  | nil => simp
  | cons c a ih =>
    rw [List.forall_mem_cons, List.cons_append, List.takeWhile_cons, ih]
    cases test c <;> simp

/-- The numbers of characters that fit. -/
theorem Row.fits_iff (r : Row) (a b : Text) :
    r.Fits a ↔ r.least ≤ a.length ∧ a.length ≤ r.reach (a ++ b) := by
  have hreach : a.length ≤ r.reach (a ++ b) ↔
      (∀ c ∈ a, r.test c = true) ∧ ∀ m ∈ r.most, a.length ≤ m := by
    rw [forall_mem_iff_length_le a b, reach]
    cases r.most with
    | none => simp
    | some m =>
      rw [Option.elim_some, Nat.le_min]
      simp
  rw [hreach]
  constructor
  · intro h
    exact ⟨h.least, h.test, h.most⟩
  · rintro ⟨hleast, htest, hmost⟩
    exact ⟨htest, hleast, hmost⟩

theorem Row.reach_le (r : Row) (t : Text) : r.reach t ≤ t.length := by
  have hrun : (t.takeWhile r.test).length ≤ t.length := (List.takeWhile_sublist _).length_le
  rw [reach]
  cases r.most with
  | none => exact hrun
  | some m => exact Nat.le_trans (Nat.min_le_left _ _) hrun

/-- **What is taken for the first row:** characters that fit, with which the rows after it can be
taken off the rest, and no more of them will do. -/
theorem take?_cons_iff : take? (r :: rs) t = some parts ↔
    ∃ a b more, t = a ++ b ∧ parts = a :: more ∧ r.Fits a ∧ take? rs b = some more ∧
      ∀ a' b', t = a' ++ b' → r.Fits a' → a.length < a'.length → take? rs b' = none := by
  rw [take?, firstDown_eq_some_iff]
  constructor
  · rintro ⟨n, hn, htaken, hlater⟩
    have hlen : (t.take n).length = n :=
      List.length_take_of_le (Nat.le_trans hn (r.reach_le t))
    split at htaken
    · rename_i hleast
      obtain ⟨more, hmore, rfl⟩ := Option.map_eq_some_iff.mp htaken
      have hfits : r.Fits (t.take n) := by
        rw [r.fits_iff _ (t.drop n), List.take_append_drop, hlen]
        exact ⟨hleast, hn⟩
      refine ⟨t.take n, t.drop n, more, (List.take_append_drop n t).symm, rfl, hfits, hmore, ?_⟩
      rintro a' b' rfl hfits' hlt
      have hreach := ((r.fits_iff a' b').mp hfits').2
      have hnone := hlater a'.length hreach (hlen ▸ hlt)
      rw [if_pos (by omega), List.drop_left] at hnone
      exact Option.map_eq_none_iff.mp hnone
    · cases htaken
  · rintro ⟨a, b, more, rfl, rfl, hfits, hmore, hlater⟩
    obtain ⟨hleast, hreach⟩ := (r.fits_iff a b).mp hfits
    refine ⟨a.length, hreach, ?_, fun m hm hlt => ?_⟩
    · rw [if_pos hleast, List.drop_left, List.take_left, hmore]
      rfl
    · have hlen : ((a ++ b).take m).length = m :=
        List.length_take_of_le (Nat.le_trans hm (r.reach_le _))
      have hfits' : r.Fits ((a ++ b).take m) := by
        rw [r.fits_iff _ ((a ++ b).drop m), List.take_append_drop, hlen]
        exact ⟨by omega, hm⟩
      rw [if_pos (by omega), hlater _ _ (List.take_append_drop m _).symm hfits' (by omega)]
      rfl

theorem Row.fits_many_ne {c : Char} (ha : c ∉ a) : (Row.many (· != c)).Fits a := by
  refine ⟨fun d hd => ?_, Nat.zero_le _, by simp [many]⟩
  have hne : d ≠ c := fun heq => ha (heq ▸ hd)
  simpa using hne

theorem Row.fits_some₁ {test : Char → Bool} (htest : ∀ c ∈ a, test c = true) (ha : a ≠ []) :
    (Row.some₁ test).Fits a :=
  ⟨htest, List.length_pos_iff.mpr ha, by simp [some₁]⟩

theorem take?_nil : take? [] t = some parts ↔ parts = [] := by
  rw [take?, Option.some_inj, eq_comm]

/-- A row need not give anything back if the rows after it can be taken off what it leaves. -/
theorem take?_cons_of_longest (hfits : r.Fits a)
    (hstop : (∀ c ∈ b.head?, r.test c = false) ∨ r.most = some a.length)
    (hmore : take? rs b = some more) : take? (r :: rs) (a ++ b) = some (a :: more) := by
  refine take?_cons_iff.mpr ⟨a, b, more, rfl, rfl, hfits, hmore, fun a' b' heq hfits' hlt => ?_⟩
  rcases hstop with hstop | hmost
  · obtain ⟨u, rfl, rfl⟩ | ⟨u, rfl, rfl⟩ := List.append_eq_append_iff.mp heq
    · cases u with
      | nil => simp at hlt
      | cons c u =>
        have htest := hfits'.test c (by simp)
        rw [hstop c rfl] at htest
        cases htest
    · rw [List.length_append] at hlt
      omega
  · have hle := hfits'.most _ hmost
    omega

theorem take?_one_iff {test : Char → Bool} : take? (.one test :: rs) t = some parts ↔
    ∃ c rest more, t = c :: rest ∧ parts = [c] :: more ∧ test c = true ∧
      take? rs rest = some more := by
  constructor
  · intro h
    obtain ⟨a, b, more, rfl, rfl, hfits, hmore, -⟩ := take?_cons_iff.mp h
    obtain ⟨c, rfl⟩ := List.length_eq_one_iff.mp
      (Nat.le_antisymm (hfits.most 1 rfl) hfits.least)
    exact ⟨c, b, more, rfl, rfl, hfits.test c (List.mem_singleton_self c), hmore⟩
  · rintro ⟨c, rest, more, rfl, rfl, hc, hmore⟩
    have hfits : (Row.one test).Fits [c] :=
      ⟨by simpa using hc, Nat.le_refl 1, by simp [Row.one]⟩
    exact take?_cons_of_longest hfits (.inr rfl) hmore

end Retint.Pattern
