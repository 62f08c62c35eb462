import Mathlib.Computability.Language
import Retint.Proofs.Pattern.Search

/-!
# The language of a pattern

A pattern that does not look at the characters around a place covers the same texts wherever it is
laid: they form its language. A sequence of such patterns between the two ends of a text is found
just when the whole text is a product of their languages.

## Main definitions

* `Pattern.IsPlain` — patterns without conditions on what is around
* `Pattern.language` — the texts that such a pattern covers

## Main results

* `Pattern.matches_iff_language` — a find covers a text of the language
* `Pattern.isFound_whole_iff` — patterns between the ends of a text
-/

namespace Retint.Pattern

variable {p : Pattern} {a b : Place} {t : Text}

/-- The pattern has no condition on what is around a place. -/
def IsPlain : Pattern → Bool
  | .empty => true
  | .one _ => true
  | .around _ => false
  | .seq p q => p.IsPlain && q.IsPlain
  | .alt p q => p.IsPlain && q.IsPlain
  | .rep p _ _ => p.IsPlain

/-- The texts that a pattern covers, where it has no condition on what is around. -/
def language : Pattern → Language Char
  | .empty => 1
  | .one test => {u | ∃ c, test c = true ∧ u = [c]}
  | .around _ => 0
  | .seq p q => p.language * q.language
  | .alt p q => p.language + q.language
  | .rep p least most => {u | ∃ n, least ≤ n ∧ (∀ m ∈ most, n ≤ m) ∧ u ∈ p.language ^ n}

/-! ### Membership by the parts of a pattern -/

theorem mem_language_one {test : Char → Bool} {u : Text} :
    u ∈ (one test).language ↔ ∃ c, test c = true ∧ u = [c] := Iff.rfl

theorem mem_language_rep {least : Nat} {most : Option Nat} {u : Text} :
    u ∈ (rep p least most).language ↔
      ∃ n, least ≤ n ∧ (∀ m ∈ most, n ≤ m) ∧ u ∈ p.language ^ n := Iff.rfl

theorem mem_pow_one {test : Char → Bool} {n : Nat} {u : Text} :
    u ∈ (one test).language ^ n ↔ u.length = n ∧ ∀ c ∈ u, test c = true := by
  induction n generalizing u with
  | zero =>
    rw [pow_zero, Language.mem_one, List.length_eq_zero_iff]
    constructor
    · rintro rfl
      simp
    · exact And.left
  | succ n ih =>
    rw [pow_succ', Language.mem_mul]
    constructor
    · rintro ⟨-, ⟨c, hc, rfl⟩, v, hv, rfl⟩
      obtain ⟨rfl, hall⟩ := ih.mp hv
      exact ⟨rfl, List.forall_mem_cons.mpr ⟨hc, hall⟩⟩
    · rintro ⟨hlen, hu⟩
      obtain ⟨c, v, rfl⟩ := List.exists_cons_of_length_eq_add_one hlen
      rw [List.forall_mem_cons] at hu
      exact ⟨[c], ⟨c, hu.1, rfl⟩, v, ih.mpr ⟨Nat.succ.inj hlen, hu.2⟩, rfl⟩

theorem mem_language_many_one {test : Char → Bool} {u : Text} :
    u ∈ (many (one test)).language ↔ ∀ c ∈ u, test c = true := by
  rw [many, mem_language_rep]
  constructor
  · rintro ⟨n, -, -, hu⟩
    exact (mem_pow_one.mp hu).2
  · intro hu
    exact ⟨u.length, Nat.zero_le _, by simp, mem_pow_one.mpr ⟨rfl, hu⟩⟩

theorem language_some₁_one {test : Char → Bool} :
    (some₁ (one test)).language = (one test).language * (many (one test)).language := by
  ext u
  rw [some₁, mem_language_rep, Language.mem_mul]
  constructor
  · rintro ⟨n, hn, -, hu⟩
    obtain ⟨hlen, hu⟩ := mem_pow_one.mp hu
    obtain ⟨c, v, rfl⟩ := List.exists_cons_of_length_pos (hlen ▸ hn)
    rw [List.forall_mem_cons] at hu
    exact ⟨[c], ⟨c, hu.1, rfl⟩, v, mem_language_many_one.mpr hu.2, rfl⟩
  · rintro ⟨-, ⟨c, hc, rfl⟩, v, hv, rfl⟩
    refine ⟨v.length + 1, Nat.le_add_left .., by simp, mem_pow_one.mpr ⟨rfl, ?_⟩⟩
    exact List.forall_mem_cons.mpr ⟨hc, mem_language_many_one.mp hv⟩

theorem language_opt : (opt p).language = 1 + p.language := by
  ext u
  rw [opt, mem_language_rep, Language.mem_add]
  constructor
  · rintro ⟨n, -, hn, hu⟩
    obtain rfl | rfl := Nat.le_one_iff_eq_zero_or_eq_one.mp (hn 1 rfl)
    · exact .inl (by rwa [pow_zero] at hu)
    · exact .inr (by rwa [pow_one] at hu)
  · rintro (hu | hu)
    · exact ⟨0, le_rfl, by simp, by rwa [pow_zero]⟩
    · exact ⟨1, Nat.zero_le _, by simp, by rwa [pow_one]⟩

/-! ### Finds -/

/-- Rounds cover texts of a power of what one round covers. -/
theorem rounds_iff_pow {L : Language Char}
    (hp : ∀ {a b}, Matches p a b ↔ ∃ u ∈ L, a.Goes u b) {n : Nat} :
    Rounds p n a b ↔ ∃ u ∈ L ^ n, a.Goes u b := by
  induction n generalizing a with
  | zero =>
    rw [rounds_zero, pow_zero]
    simp [Language.mem_one, Place.goes_nil]
  | succ n ih =>
    rw [rounds_succ, pow_succ']
    constructor
    · rintro ⟨e, h, k⟩
      obtain ⟨u, hu, hae⟩ := hp.mp h
      obtain ⟨v, hv, heb⟩ := ih.mp k
      exact ⟨u ++ v, Language.append_mem_mul hu hv, hae.trans heb⟩
    · rintro ⟨w, hw, hab⟩
      obtain ⟨u, hu, v, hv, rfl⟩ := Language.mem_mul.mp hw
      obtain ⟨e, hae, heb⟩ := Place.goes_append.mp hab
      exact ⟨e, hp.mpr ⟨u, hu, hae⟩, ih.mpr ⟨v, hv, heb⟩⟩

theorem matches_iff_language (h : p.IsPlain = true) :
    Matches p a b ↔ ∃ u ∈ p.language, a.Goes u b := by
  induction p generalizing a b with
  | empty =>
    rw [matches_empty]
    simp [language, Language.mem_one, Place.goes_nil]
  | one test =>
    rw [matches_one]
    constructor
    · rintro ⟨c, rest, ha, hc, rfl⟩
      exact ⟨[c], ⟨c, hc, rfl⟩, ha, rfl⟩
    · rintro ⟨u, ⟨c, hc, rfl⟩, hrest, hbefore⟩
      refine ⟨c, b.rest, hrest, hc, ?_⟩
      rw [← (show b.before = some c from hbefore)]
  | around test => cases h
  | seq p q ihp ihq =>
    rw [IsPlain, Bool.and_eq_true] at h
    rw [matches_seq]
    constructor
    · rintro ⟨e, hae, heb⟩
      obtain ⟨u, hu, hae⟩ := (ihp h.1).mp hae
      obtain ⟨v, hv, heb⟩ := (ihq h.2).mp heb
      exact ⟨u ++ v, Language.append_mem_mul hu hv, hae.trans heb⟩
    · rintro ⟨w, hw, hab⟩
      obtain ⟨u, hu, v, hv, rfl⟩ := Language.mem_mul.mp hw
      obtain ⟨e, hae, heb⟩ := Place.goes_append.mp hab
      exact ⟨e, (ihp h.1).mpr ⟨u, hu, hae⟩, (ihq h.2).mpr ⟨v, hv, heb⟩⟩
  | alt p q ihp ihq =>
    rw [IsPlain, Bool.and_eq_true] at h
    rw [matches_alt, ihp h.1, ihq h.2, ← exists_or]
    exact exists_congr fun u => by rw [language, Language.mem_add, or_and_right]
  | rep p least most ih =>
    rw [IsPlain] at h
    rw [matches_rep]
    constructor
    · rintro ⟨n, hl, hm, hab⟩
      obtain ⟨u, hu, hab⟩ := (rounds_iff_pow (ih h)).mp hab
      exact ⟨u, ⟨n, hl, hm, hu⟩, hab⟩
    · rintro ⟨u, ⟨n, hl, hm, hu⟩, hab⟩
      exact ⟨n, hl, hm, (rounds_iff_pow (ih h)).mpr ⟨u, hu, hab⟩⟩

/-! ### Sequences -/

theorem seqs_cons_cons {q : Pattern} {ps : List Pattern} :
    seqs (p :: q :: ps) = .seq p (seqs (q :: ps)) := rfl

theorem alts_cons_cons {q : Pattern} {ps : List Pattern} :
    alts (p :: q :: ps) = .alt p (alts (q :: ps)) := rfl

theorem matches_seqs_cons {ps : List Pattern} :
    Matches (seqs (p :: ps)) a b ↔ ∃ e, Matches p a e ∧ Matches (seqs ps) e b := by
  cases ps with
  | nil => simp [seqs, matches_empty]
  | cons q qs => rw [seqs_cons_cons, matches_seq]

theorem matches_seqs_concat {ps : List Pattern} :
    Matches (seqs (ps ++ [p])) a b ↔ ∃ e, Matches (seqs ps) a e ∧ Matches p e b := by
  induction ps generalizing a with
  | nil => simp [seqs, matches_empty]
  | cons q qs ih =>
    rw [List.cons_append, matches_seqs_cons]
    constructor
    · rintro ⟨d, hq, h⟩
      obtain ⟨e, hqs, hp⟩ := ih.mp h
      exact ⟨e, matches_seqs_cons.mpr ⟨d, hq, hqs⟩, hp⟩
    · rintro ⟨e, h, hp⟩
      obtain ⟨d, hq, hqs⟩ := matches_seqs_cons.mp h
      exact ⟨d, hq, ih.mpr ⟨e, hqs, hp⟩⟩

theorem isPlain_seqs {ps : List Pattern} (h : ∀ p ∈ ps, p.IsPlain = true) :
    (seqs ps).IsPlain = true := by
  induction ps with
  | nil => rfl
  | cons p ps ih =>
    rw [List.forall_mem_cons] at h
    cases ps with
    | nil => exact h.1
    | cons q qs => rw [seqs_cons_cons, IsPlain, h.1, ih h.2, Bool.and_true]

theorem language_seqs {ps : List Pattern} : (seqs ps).language = (ps.map language).prod := by
  induction ps with
  | nil => rfl
  | cons p ps ih =>
    cases ps with
    | nil => simp [seqs]
    | cons q qs =>
      rw [seqs_cons_cons, language, ih]
      exact List.prod_cons.symm

theorem language_alts {ps : List Pattern} : (alts ps).language = (ps.map language).sum := by
  induction ps with
  | nil =>
    ext u
    simp [alts, mem_language_one]
  | cons p ps ih =>
    cases ps with
    | nil => simp [alts]
    | cons q qs =>
      rw [alts_cons_cons, language, ih]
      exact List.sum_cons.symm

/-- The patterns are found between the ends of a text just when the text is made of texts that
they cover, one after the other. -/
theorem isFound_whole_iff {ps : List Pattern} (h : ∀ p ∈ ps, p.IsPlain = true) :
    isFound (seqs (atStart :: (ps ++ [atEnd]))) t = true ↔ t ∈ (ps.map language).prod := by
  have hstart : ∀ a e, Matches atStart a e ↔ a = e ∧ a.before = none := by
    intro a e
    rw [atStart, matches_around, Option.isNone_iff_eq_none]
  have hend : ∀ e b, Matches atEnd e b ↔ e = b ∧ e.rest = [] := by
    intro e b
    rw [atEnd, matches_around, Option.isNone_iff_eq_none, List.head?_eq_none_iff]
  rw [isFound_iff, ← language_seqs]
  constructor
  · rintro ⟨a, ha, b, hab⟩
    obtain ⟨e, hae, heb⟩ := matches_seqs_cons.mp hab
    obtain ⟨rfl, hbefore⟩ := (hstart _ _).mp hae
    obtain ⟨d, had, hdb⟩ := matches_seqs_concat.mp heb
    obtain ⟨rfl, hrest⟩ := (hend _ _).mp hdb
    obtain ⟨u, hu, hgoes⟩ := (matches_iff_language (isPlain_seqs h)).mp had
    rw [onward_none] at ha
    obtain ⟨i, -, rfl⟩ := List.mem_map.mp ha
    have htake : t.take i = [] := List.getLast?_eq_none_iff.mp hbefore
    have hdrop : t.drop i = u := by
      rw [← List.append_nil u, ← hrest]
      exact hgoes.1
    rwa [← List.take_append_drop i t, htake, hdrop]
  · intro ht
    refine ⟨⟨none, t⟩, ?_, ⟨t.getLast?, []⟩, ?_⟩
    · cases t <;> simp [Place.onward]
    · refine matches_seqs_cons.mpr ⟨_, (hstart _ _).mpr ⟨rfl, rfl⟩, ?_⟩
      refine matches_seqs_concat.mpr ⟨_, ?_, (hend _ _).mpr ⟨rfl, rfl⟩⟩
      refine (matches_iff_language (isPlain_seqs h)).mpr ⟨t, ht, ?_⟩
      simp [Place.Goes]

end Retint.Pattern
