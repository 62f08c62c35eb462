import Retint.Text

/-!
# Matching braces

A text whose braces match closes each brace that it opens, so what a brace opens cannot reach past
the end of the text.

## Main definitions

* `Text.bracesMatch` — whether the braces of a text match

## Main results

* `Text.mem_of_bracesMatch_open` — what is open is closed
* `Text.count_of_bracesMatch` — there are as many braces of one kind as of the other
-/

namespace Retint.Text

/-- Whether the braces match in what comes after so many open ones. -/
def bracesMatch : Nat → Text → Bool
  | depth, [] => depth == 0
  | depth, c :: t =>
    if c = '\x7b' then bracesMatch (depth + 1) t
    else if c = '\x7d' then depth != 0 && bracesMatch (depth - 1) t
    else bracesMatch depth t

variable {a s t : Text} {n : Nat}

theorem bracesMatch_open (n : Nat) (t : Text) :
    bracesMatch n ('\x7b' :: t) = bracesMatch (n + 1) t := by
  rw [bracesMatch, if_pos rfl]

theorem bracesMatch_append (ho : '\x7b' ∉ a) (hc : '\x7d' ∉ a) (n : Nat) (t : Text) :
    bracesMatch n (a ++ t) = bracesMatch n t := by
  induction a with
  | nil => rfl
  | cons c a ih =>
    simp only [List.mem_cons, not_or] at ho hc
    rw [List.cons_append, bracesMatch, if_neg (Ne.symm ho.1), if_neg (Ne.symm hc.1), ih ho.2 hc.2]

/-- After any part the braces match, given those that are open there. -/
theorem exists_bracesMatch_of_suffix (h : bracesMatch n t = true) (hs : s <:+ t) :
    ∃ m, bracesMatch m s = true := by
  induction t generalizing n with
  | nil =>
    obtain rfl := List.eq_nil_of_suffix_nil hs
    exact ⟨n, h⟩
  | cons c t ih =>
    rcases List.suffix_cons_iff.mp hs with rfl | hs
    · exact ⟨n, h⟩
    · rw [bracesMatch] at h
      split at h
      · exact ih h hs
      · split at h
        · exact ih (Bool.and_eq_true_iff.mp h).2 hs
        · exact ih h hs

theorem count_of_bracesMatch (h : bracesMatch n t = true) :
    n + t.count '\x7b' = t.count '\x7d' := by
  induction t generalizing n with
  | nil => simpa [bracesMatch] using h
  | cons c t ih =>
    rw [bracesMatch] at h
    split at h
    · rename_i hc
      have hcount := ih h
      simp only [hc, List.count_cons_self, List.count_cons_of_ne (by decide : '\x7b' ≠ '\x7d')]
      omega
    · rename_i hc
      split at h
      · rename_i hc'
        obtain ⟨hn, h⟩ := Bool.and_eq_true_iff.mp h
        have hpos : n ≠ 0 := by simpa using hn
        have hcount := ih h
        simp only [hc', List.count_cons_self, List.count_cons_of_ne (by decide : '\x7d' ≠ '\x7b')]
        omega
      · rename_i hc'
        rw [List.count_cons_of_ne hc, List.count_cons_of_ne hc', ih h]

/-- What is open is closed. -/
theorem mem_of_bracesMatch_open (h : bracesMatch (n + 1) t = true) : '\x7d' ∈ t := by
  have hcount := count_of_bracesMatch h
  refine List.count_pos_iff.mp ?_
  omega

end Retint.Text
