import Retint.Pattern.Basic

/-!
# What patterns cover

Where a pattern leads is read off its parts. Whatever it is, it leads over a piece of the text, so
it never goes back; a find that stays where it is covers nothing and can be left out or repeated.

## Main definitions

* `Pattern.Place.Goes` — a piece of text between two places

## Main results

* `Pattern.matches_seq`, `Pattern.matches_rep`, `Pattern.rounds_succ` — finds by the parts of a
  pattern
* `Pattern.Matches.goes` — a find covers a piece of the text
* `Pattern.Rounds.steady` — more rounds than there are characters can be any larger number of rounds
-/

namespace Retint.Pattern

variable {p q : Pattern} {a b c : Place}

/-! ### Finds by the parts of a pattern -/

theorem matches_empty : Matches .empty a b ↔ a = b := by
  constructor
  · rintro ⟨⟩
    rfl
  · rintro rfl
    exact .empty a

theorem matches_one {test : Char → Bool} :
    Matches (.one test) a b ↔
      ∃ c rest, a.rest = c :: rest ∧ test c = true ∧ b = ⟨some c, rest⟩ := by
  constructor
  · rintro (_ | ⟨h⟩)
    exact ⟨_, _, rfl, h, rfl⟩
  · obtain ⟨before, t⟩ := a
    rintro ⟨c, rest, rfl, h, rfl⟩
    exact .one h

theorem matches_around {test : Option Char → Option Char → Bool} :
    Matches (.around test) a b ↔ a = b ∧ test a.before a.rest.head? = true := by
  constructor
  · rintro (_ | _ | ⟨h⟩)
    exact ⟨rfl, h⟩
  · rintro ⟨rfl, h⟩
    exact .around h

theorem matches_seq : Matches (.seq p q) a c ↔ ∃ b, Matches p a b ∧ Matches q b c := by
  constructor
  · rintro (_ | _ | _ | ⟨h, k⟩)
    exact ⟨_, h, k⟩
  · rintro ⟨b, h, k⟩
    exact .seq h k

theorem matches_alt : Matches (.alt p q) a b ↔ Matches p a b ∨ Matches q a b := by
  constructor
  · rintro (_ | _ | _ | _ | h | h)
    · exact .inl h
    · exact .inr h
  · rintro (h | h)
    · exact .left h
    · exact .right h

theorem matches_rep {least : Nat} {most : Option Nat} :
    Matches (.rep p least most) a b ↔
      ∃ n, least ≤ n ∧ (∀ m ∈ most, n ≤ m) ∧ Rounds p n a b := by
  constructor
  · rintro (_ | _ | _ | _ | _ | _ | ⟨n, hl, hm, h⟩)
    exact ⟨n, hl, hm, h⟩
  · rintro ⟨n, hl, hm, h⟩
    exact .rep n hl hm h

theorem rounds_zero : Rounds p 0 a b ↔ a = b := by
  constructor
  · rintro ⟨⟩
    rfl
  · rintro rfl
    exact .zero p a

theorem rounds_succ {n : Nat} : Rounds p (n + 1) a c ↔ ∃ b, Matches p a b ∧ Rounds p n b c := by
  constructor
  · rintro (_ | ⟨h, k⟩)
    exact ⟨_, h, k⟩
  · rintro ⟨b, h, k⟩
    exact .succ h k

/-! ### Pieces of the text -/

/-- Between the two places stands the text `u`. -/
def Place.Goes (a : Place) (u : Text) (b : Place) : Prop :=
  a.rest = u ++ b.rest ∧ b.before = u.getLast?.or a.before

theorem Place.Goes.refl (a : Place) : a.Goes [] a := by
  simp [Goes]

theorem Place.Goes.trans {u v : Text} (h : a.Goes u b) (k : b.Goes v c) : a.Goes (u ++ v) c := by
  refine ⟨by rw [h.1, k.1, List.append_assoc], ?_⟩
  rw [k.2, h.2, List.getLast?_append, Option.or_assoc]

theorem Place.goes_nil : a.Goes [] b ↔ a = b := by
  constructor
  · intro h
    obtain ⟨before, rest⟩ := a
    obtain ⟨before', rest'⟩ := b
    simp only [Goes, List.nil_append, List.getLast?_nil, Option.none_or] at h
    rw [h.1, h.2]
  · rintro rfl
    exact .refl a

theorem Place.goes_append {u v : Text} {c : Place} :
    a.Goes (u ++ v) c ↔ ∃ b, a.Goes u b ∧ b.Goes v c := by
  constructor
  · rintro ⟨hrest, hbefore⟩
    refine ⟨⟨u.getLast?.or a.before, v ++ c.rest⟩, ⟨?_, rfl⟩, rfl, ?_⟩
    · rw [hrest, List.append_assoc]
    · rw [hbefore, List.getLast?_append, Option.or_assoc]
  · rintro ⟨b, h, k⟩
    exact h.trans k

theorem Rounds.goes (hp : ∀ {a b}, Matches p a b → ∃ u, a.Goes u b) :
    ∀ {n : Nat} {a b : Place}, Rounds p n a b → ∃ u, a.Goes u b
  | 0, _, _, h => by
    obtain rfl := rounds_zero.mp h
    exact ⟨[], .refl _⟩
  | _ + 1, _, _, h => by
    obtain ⟨e, h, k⟩ := rounds_succ.mp h
    obtain ⟨u, hu⟩ := hp h
    obtain ⟨v, hv⟩ := Rounds.goes hp k
    exact ⟨u ++ v, hu.trans hv⟩

theorem Matches.goes (h : Matches p a b) : ∃ u, a.Goes u b := by
  induction p generalizing a b with
  | empty =>
    obtain rfl := matches_empty.mp h
    exact ⟨[], .refl _⟩
  | one test =>
    obtain ⟨c, rest, ha, -, rfl⟩ := matches_one.mp h
    exact ⟨[c], ha, rfl⟩
  | around test =>
    obtain ⟨rfl, -⟩ := matches_around.mp h
    exact ⟨[], .refl _⟩
  | seq p q ihp ihq =>
    obtain ⟨e, h, k⟩ := matches_seq.mp h
    obtain ⟨u, hu⟩ := ihp h
    obtain ⟨v, hv⟩ := ihq k
    exact ⟨u ++ v, hu.trans hv⟩
  | alt p q ihp ihq =>
    rcases matches_alt.mp h with h | h
    · exact ihp h
    · exact ihq h
  | rep p least most ih =>
    obtain ⟨n, -, -, h⟩ := matches_rep.mp h
    exact h.goes ih

/-- A find stays where it is, or there is less to come behind it. -/
theorem Matches.eq_or_lt (h : Matches p a b) : a = b ∨ b.rest.length < a.rest.length := by
  obtain ⟨u, hu⟩ := h.goes
  cases u with
  | nil => exact .inl (Place.goes_nil.mp hu)
  | cons c u =>
    right
    rw [hu.1, List.length_append, List.length_cons]
    omega

/-! ### Many rounds -/

/-- A round that stays where it is can be done again. -/
theorem Rounds.pad {n m : Nat} (h : Matches p a a) (k : Rounds p n a b) (hnm : n ≤ m) :
    Rounds p m a b := by
  induction hnm with
  | refl => exact k
  | step _ ih => exact .succ h ih

/-- Among more rounds than there are characters to come, one stays where it is. So there can be any
number of rounds that the characters to come allow for. -/
theorem Rounds.steady {n : Nat} (h : Rounds p n a b) (hn : a.rest.length < n) {m : Nat}
    (hm : a.rest.length ≤ m) : Rounds p m a b := by
  induction n generalizing a m with
  | zero => omega
  | succ n ih =>
    obtain ⟨e, h, k⟩ := rounds_succ.mp h
    rcases h.eq_or_lt with rfl | he
    · by_cases hn' : a.rest.length < n
      · exact ih k hn' hm
      · exact k.pad h (by omega)
    · obtain ⟨m, rfl⟩ : ∃ m', m = m' + 1 := ⟨m - 1, by omega⟩
      exact .succ h (ih k (by omega) (by omega))

end Retint.Pattern
