import Retint.Text

/-!
# Replacing from left to right

What `Text.replaceWith` does to a text that is put together from parts. A find is a match at the
start of a text, so whether it sees past the end of a part is a matter of the function that finds;
`Text.Closed` says that it does not. Everything else follows by going through the first part.

## Main definitions

* `Text.Closed` — the finds that start in a part are the same whatever comes after it
* `Text.Silent` — nothing is found that starts in a part
* `Text.Turns` — what becomes of a part, whatever comes after it

## Main results

* `Text.replaceWith_append` — replacing in two parts, the first of which is closed
* `Text.replaceWith_append_of_silent` — a silent part is copied
* `Text.replaceWith_append_of_find` — a find at the start is replaced, and the rest is done after it
* `Text.infix_append_cons` — what does not have a mark stands on one side of it
-/

namespace Retint.Text

variable {find : Text → Option (Text × Nat)} {a b t new : Text}

theorem replaceWithFrom_eq_drop (find : Text → Option (Text × Nat)) (skip : Nat) (t : Text) :
    replaceWithFrom find skip t = replaceWith find (t.drop skip) := by
  induction t generalizing skip with
  | nil => cases skip <;> simp [replaceWith, replaceWithFrom]
  | cons c t ih =>
    cases skip with
    | zero => rfl
    | succ skip => simpa [replaceWithFrom] using ih skip

@[simp] theorem replaceWith_nil (find : Text → Option (Text × Nat)) :
    replaceWith find [] = [] := rfl

theorem replaceWith_cons_of_none {c : Char} (h : find (c :: t) = none) :
    replaceWith find (c :: t) = c :: replaceWith find t := by
  simp [replaceWith, replaceWithFrom, h]

/-- A find at the start gives way to its replacement, and replacing goes on after it. -/
theorem replaceWith_append_of_find (ha : a ≠ []) (h : find (a ++ b) = some (new, a.length)) :
    replaceWith find (a ++ b) = new ++ replaceWith find b := by
  obtain ⟨c, a, rfl⟩ := List.exists_cons_of_ne_nil ha
  have h' : find (c :: (a ++ b)) = some (new, a.length + 1) := by simpa using h
  rw [List.cons_append, replaceWith, replaceWithFrom, h']
  simp [replaceWithFrom_eq_drop]

/-! ### Parts -/

/-- Nothing is found that starts in `a` when `b` comes after it. -/
def Silent (find : Text → Option (Text × Nat)) (a b : Text) : Prop :=
  ∀ s, s ≠ [] → s <:+ a → find (s ++ b) = none

/-- The finds that start in `a` are those of `a` alone when `b` comes after it, and each takes at
least one character of `a` and none of `b`. -/
def Closed (find : Text → Option (Text × Nat)) (a b : Text) : Prop :=
  ∀ s, s ≠ [] → s <:+ a → find (s ++ b) = find s ∧
    ∀ new n, find s = some (new, n) → 0 < n ∧ n ≤ s.length

theorem Silent.of_suffix (h : Silent find a b) {s : Text} (hs : s <:+ a) : Silent find s b :=
  fun u hu hus => h u hu (hus.trans hs)

theorem Closed.of_suffix (h : Closed find a b) {s : Text} (hs : s <:+ a) : Closed find s b :=
  fun u hu hus => h u hu (hus.trans hs)

/-- A silent part is copied. -/
theorem replaceWith_append_of_silent (h : Silent find a b) :
    replaceWith find (a ++ b) = a ++ replaceWith find b := by
  induction a with
  | nil => rfl
  | cons c a ih =>
    have hc : find (c :: (a ++ b)) = none := h (c :: a) (by simp) List.suffix_rfl
    rw [List.cons_append, replaceWith_cons_of_none hc, ih (h.of_suffix (List.suffix_cons c a))]
    rfl

theorem replaceWith_eq_self (h : Silent find a []) : replaceWith find a = a := by
  simpa using replaceWith_append_of_silent h

/-- **A closed part is done by itself.** The induction is on the length, because a find takes
several characters at once. -/
theorem replaceWith_append (h : Closed find a b) :
    replaceWith find (a ++ b) = replaceWith find a ++ replaceWith find b := by
  induction hn : a.length using Nat.strongRecOn generalizing a with
  | _ n ih =>
    subst hn
    cases a with
    | nil => rfl
    | cons c a =>
      obtain ⟨hab, hlen⟩ := h (c :: a) (by simp) List.suffix_rfl
      cases hf : find (c :: a) with
      | none =>
        have hf' : find (c :: (a ++ b)) = none := hab.trans hf
        rw [List.cons_append, replaceWith_cons_of_none hf', replaceWith_cons_of_none hf,
          ih _ (by simp) (h.of_suffix (List.suffix_cons c a)) rfl, List.cons_append]
      | some found =>
        obtain ⟨new, n⟩ := found
        obtain ⟨hpos, hle⟩ := hlen new n hf
        obtain ⟨m, r, hmr, hm⟩ : ∃ m r, c :: a = m ++ r ∧ m.length = n :=
          ⟨_, _, (List.take_append_drop n (c :: a)).symm, List.length_take_of_le hle⟩
        rw [hmr] at hf hab h ⊢
        have hne : m ≠ [] := by rintro rfl; simp_all
        have hr : r.length < (c :: a).length := by
          rw [hmr, List.length_append]
          omega
        rw [replaceWith_append_of_find hne (by rw [hf, hm]), List.append_assoc,
          replaceWith_append_of_find hne (by rw [← List.append_assoc, hab, hf, hm]),
          ih _ hr (h.of_suffix (List.suffix_append m r)) rfl, List.append_assoc]

/-! ### Parts on their own -/

/-- Whatever comes after `a`, replacing makes `a'` of it and goes on with what comes after. -/
def Turns (find : Text → Option (Text × Nat)) (a a' : Text) : Prop :=
  ∀ rest, replaceWith find (a ++ rest) = a' ++ replaceWith find rest

variable {a' b' : Text}

theorem Turns.nil : Turns find [] [] := fun _ => rfl

theorem Turns.append (h : Turns find a a') (h' : Turns find b b') :
    Turns find (a ++ b) (a' ++ b') := by
  intro rest
  rw [List.append_assoc, h, h', List.append_assoc]

/-- A character at which nothing is found stays before what becomes of the rest. -/
theorem Turns.cons {c : Char} (h : Turns find a a') (hc : ∀ rest, find (c :: (a ++ rest)) = none) :
    Turns find (c :: a) (c :: a') := by
  intro rest
  rw [List.cons_append, replaceWith_cons_of_none (hc rest), h rest, List.cons_append]

theorem Turns.flatMap {α : Type} {f g : α → Text} : ∀ {l : List α},
    (∀ x ∈ l, Turns find (f x) (g x)) → Turns find (l.flatMap f) (l.flatMap g)
  | [], _ => .nil
  | x :: l, h => by
    obtain ⟨hx, hl⟩ := List.forall_mem_cons.mp h
    exact hx.append (Turns.flatMap hl)

theorem Turns.replaceWith_eq (h : Turns find a a') : replaceWith find a = a' := by
  simpa using h []

theorem turns_of_silent (h : ∀ rest, Silent find a rest) : Turns find a a :=
  fun rest => replaceWith_append_of_silent (h rest)

/-- A part that ends in a character at which nothing is found, when no find before it depends on
what comes after. -/
theorem turns_concat {c : Char} (ha : ∀ rest, Closed find a (c :: rest))
    (hc : ∀ rest, find (c :: rest) = none) :
    Turns find (a ++ [c]) (replaceWith find a ++ [c]) := by
  intro rest
  rw [List.append_assoc, List.singleton_append, replaceWith_append (ha rest),
    replaceWith_cons_of_none (hc rest), List.append_assoc, List.singleton_append]

/-- All that is found starts with `c`. -/
def StartsWith (find : Text → Option (Text × Nat)) (c : Char) : Prop :=
  ∀ d t, d ≠ c → find (d :: t) = none

theorem StartsWith.turns {c : Char} (h : StartsWith find c) (ha : c ∉ a) : Turns find a a := by
  refine turns_of_silent fun rest s hs hsuf => ?_
  obtain ⟨d, s, rfl⟩ := List.exists_cons_of_ne_nil hs
  refine h d _ ?_
  rintro rfl
  exact ha (hsuf.subset (List.mem_cons_self ..))

theorem sublist_replaceWithFrom (h : ∀ t new n, find t = some (new, n) → new = []) (skip : Nat)
    (t : Text) : (replaceWithFrom find skip t).Sublist t := by
  induction t generalizing skip with
  | nil => cases skip <;> simp [replaceWithFrom]
  | cons c t ih =>
    cases skip with
    | succ skip => exact (ih skip).cons c
    | zero =>
      rw [replaceWithFrom]
      cases hf : find (c :: t) with
      | none => exact (ih 0).cons_cons c
      | some found =>
        obtain ⟨new, n⟩ := found
        obtain rfl := h _ _ _ hf
        exact (ih (n - 1)).cons c

theorem mem_replaceWithFrom {skip : Nat} {c : Char} (h : c ∈ replaceWithFrom find skip t) :
    c ∈ t ∨ ∃ s new n, find s = some (new, n) ∧ c ∈ new := by
  induction t generalizing skip with
  | nil => cases skip <;> simp [replaceWithFrom] at h
  | cons d t ih =>
    cases skip with
    | succ skip => exact (ih h).imp_left (List.mem_cons_of_mem d)
    | zero =>
      rw [replaceWithFrom] at h
      cases hf : find (d :: t) with
      | none =>
        rw [hf] at h
        rcases List.mem_cons.mp h with rfl | h
        · exact .inl (List.mem_cons_self ..)
        · exact (ih h).imp_left (List.mem_cons_of_mem d)
      | some found =>
        obtain ⟨new, n⟩ := found
        rw [hf] at h
        rcases List.mem_append.mp h with h | h
        · exact .inr ⟨_, new, n, hf, h⟩
        · exact (ih h).imp_left (List.mem_cons_of_mem d)

/-- The result is made of characters of the text and of what is put in. -/
theorem mem_replaceWith {c : Char} (h : c ∈ replaceWith find t) :
    c ∈ t ∨ ∃ s new n, find s = some (new, n) ∧ c ∈ new :=
  mem_replaceWithFrom h

/-- Where finds are only taken out, what is left is made of the text's own characters. -/
theorem sublist_replaceWith (h : ∀ t new n, find t = some (new, n) → new = []) (t : Text) :
    (replaceWith find t).Sublist t :=
  sublist_replaceWithFrom h 0 t

/-! ### Where a text starts -/

theorem dropLead?_append_self (lead t : Text) : dropLead? lead (lead ++ t) = some t :=
  dropLead?_eq_some_iff.2 rfl

theorem dropLead?_eq_none_iff {lead t : Text} : dropLead? lead t = none ↔ ¬ lead <+: t := by
  rw [Option.eq_none_iff_forall_ne_some]
  refine ⟨fun h ⟨r, hr⟩ => h r (dropLead?_eq_some_iff.2 hr.symm), fun h r hr => h ⟨r, ?_⟩⟩
  exact (dropLead?_eq_some_iff.1 hr).symm

theorem startsWith_iff {lead t : Text} : startsWith lead t = true ↔ lead <+: t := by
  rw [startsWith, Option.isSome_iff_ne_none, Ne, dropLead?_eq_none_iff, Decidable.not_not]

theorem contains_iff {needle t : Text} : contains needle t = true ↔ needle <:+: t := by
  induction t with
  | nil => simp [contains]
  | cons c t ih => simp [contains, startsWith_iff, ih, List.infix_cons_iff]

/-- A suffix of a text that is ended by a character, up to and with the character. -/
theorem exists_of_suffix_concat {c : Char} {s t : Text} (hs : s ≠ []) (hst : s <:+ t ++ [c]) :
    ∃ s', s = s' ++ [c] ∧ s' <:+ t := by
  rcases List.suffix_concat_iff.1 hst with rfl | h
  · exact absurd rfl hs
  · exact h

/-- What leads a text and does not have a mark that comes in it lies before the mark. -/
theorem prefix_of_prefix_append_cons {c : Char} {a b lead : Text} (hc : c ∉ lead)
    (h : lead <+: a ++ c :: b) : lead <+: a := by
  rcases List.prefix_or_prefix_of_prefix h (List.prefix_append a (c :: b)) with h' | ⟨s, rfl⟩
  · exact h'
  · rw [List.prefix_append_right_inj] at h
    cases s with
    | nil => exact ⟨[], by rw [List.append_nil, List.append_nil]⟩
    | cons d s =>
      obtain ⟨rfl, -⟩ := List.cons_prefix_cons.mp h
      simp at hc

/-! ### What stands in a text -/

/-- What ends in a character stands in the first part, if the second part does not have the
character. -/
theorem infix_of_infix_append {c : Char} {a b t : Text} (hb : c ∉ b) (h : t ++ [c] <:+: a ++ b) :
    t ++ [c] <:+: a := by
  obtain ⟨p, q, hpq⟩ := h
  rcases List.append_eq_append_iff.mp hpq with ⟨w, rfl, -⟩ | ⟨w, hw, hq⟩
  · exact ⟨p, w, rfl⟩
  · cases w with
    | nil => exact ⟨p, [], by rw [hw, List.append_nil, List.append_nil]⟩
    | cons d w =>
      rw [← List.append_assoc] at hw
      obtain ⟨w', hw', -⟩ := exists_of_suffix_concat (List.cons_ne_nil d w) ⟨a, hw.symm⟩
      exact absurd (by rw [hq, hw']; simp) hb

/-- What starts with a character stands in the second part, if the first part does not have the
character. -/
theorem infix_of_cons_infix_append {c : Char} {a b t : Text} (ha : c ∉ a)
    (h : c :: t <:+: a ++ b) : c :: t <:+: b := by
  induction a with
  | nil => exact h
  | cons d a ih =>
    simp only [List.mem_cons, not_or] at ha
    rcases List.infix_cons_iff.mp h with hstart | hwithin
    · exact absurd (List.cons_prefix_cons.mp hstart).1 ha.1
    · exact ih ha.2 hwithin

/-- A character that the second part does not have splits the first part. -/
theorem exists_of_append_eq_append_cons {c : Char} {a b x y : Text} (hy : c ∉ y)
    (h : x ++ y = a ++ c :: b) : ∃ w, x = a ++ c :: w ∧ b = w ++ y := by
  rcases List.append_eq_append_iff.mp h with ⟨w, -, hw⟩ | ⟨w, rfl, hw⟩
  · exact absurd (hw ▸ by simp) hy
  · cases w with
    | nil => exact absurd (List.nil_append y ▸ hw ▸ List.mem_cons_self ..) hy
    | cons d w =>
      obtain ⟨rfl, hb⟩ := List.cons.inj hw
      exact ⟨w, rfl, hb⟩

/-! ### Runs -/

/-- The run of a character at the start of a text, by its length. -/
theorem exists_dropChar (c : Char) (t : Text) :
    ∃ k, t = List.replicate k c ++ dropChar c t ∧ (t.takeWhile (· == c)).length = k := by
  induction t with
  | nil => exact ⟨0, rfl, rfl⟩
  | cons d t ih =>
    by_cases hd : d = c
    · subst hd
      obtain ⟨k, ht, hk⟩ := ih
      refine ⟨k + 1, ?_, by simpa using hk⟩
      rw [List.replicate_succ, List.cons_append]
      simpa [dropChar] using ht
    · exact ⟨0, by simp [dropChar, hd], by simp [hd]⟩

theorem dropChar_replicate_append {c : Char} (k : Nat) {t : Text} (h : t.head? ≠ some c) :
    dropChar c (List.replicate k c ++ t) = t ∧
      ((List.replicate k c ++ t).takeWhile (· == c)).length = k := by
  have ht : t.dropWhile (· == c) = t ∧ t.takeWhile (· == c) = [] := by
    cases t with
    | nil => simp
    | cons d t =>
      have hd : d ≠ c := by simpa using h
      simp [hd]
  induction k with
  | zero => simpa [dropChar] using ht
  | succ k ih => simpa [dropChar, List.replicate_succ] using ih

/-- What ends in a run of a character has a run of one length only. -/
theorem append_replicate_inj {c : Char} {a b : Text} {k l : Nat} (ha : a.getLast? ≠ some c)
    (hb : b.getLast? ≠ some c) (h : a ++ List.replicate k c = b ++ List.replicate l c) :
    a = b ∧ k = l := by
  have hrev : List.replicate k c ++ a.reverse = List.replicate l c ++ b.reverse := by
    simpa using congrArg List.reverse h
  have hk := dropChar_replicate_append k (t := a.reverse) (by simpa using ha)
  have hl := dropChar_replicate_append l (t := b.reverse) (by simpa using hb)
  rw [hrev] at hk
  exact ⟨List.reverse_inj.1 (hk.1.symm.trans hl.1), hk.2.symm.trans hl.2⟩

/-- Where the first of some marks stands, and which one it is, is the same for every way to split
a text there. -/
theorem append_cons_inj_of_not_mem {c c' : Char} {a b a' b' : Text} (ha : c ∉ a ∧ c' ∉ a)
    (ha' : c ∉ a' ∧ c' ∉ a') (h : a ++ c :: b = a' ++ c' :: b') : a = a' ∧ c = c' ∧ b = b' := by
  induction a generalizing a' with
  | nil =>
    cases a' with
    | nil => simpa using h
    | cons d a' =>
      have hd : c = d := (List.cons.inj h).1
      exact absurd (by simp [hd]) ha'.1
  | cons d a ih =>
    cases a' with
    | nil =>
      have hd : d = c' := (List.cons.inj h).1
      exact absurd (by simp [hd]) ha.2
    | cons d' a' =>
      simp only [List.mem_cons, not_or] at ha ha'
      obtain ⟨hd, htail⟩ := List.cons.inj h
      obtain ⟨rfl, hc, rfl⟩ := ih ⟨ha.1.2, ha.2.2⟩ ⟨ha'.1.2, ha'.2.2⟩ htail
      exact ⟨by rw [hd], hc, rfl⟩

/-- A text with one mark in it splits at the mark in one way only. -/
theorem append_cons_inj {c : Char} {a b a' b' : Text} (ha : c ∉ a) (ha' : c ∉ a')
    (h : a ++ c :: b = a' ++ c :: b') : a = a' ∧ b = b' := by
  obtain ⟨haa, -, hbb⟩ := append_cons_inj_of_not_mem ⟨ha, ha⟩ ⟨ha', ha'⟩ h
  exact ⟨haa, hbb⟩

end Retint.Text
