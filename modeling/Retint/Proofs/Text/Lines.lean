import Retint.Text

/-!
# Lines and white space

How a text that is put together from lines splits into lines again, and what trimming does to a
text with white space around it.

## Main definitions

* `Text.chomp` — a line without the carriage return that belongs to its end
* `Text.IsBlank` — a text of white space alone
* `Text.IsTight` — a text without white space at either end

## Main results

* `Text.lines_append_cons` — the first line of a text
* `Text.lines_append_append` — the lines of two texts, the first of which is ended
* `Text.splitOn_append_cons` — the first part of a text that is split
* `Text.trim_append_append` — trimming takes white space off both ends and nothing else
-/

namespace Retint.Text

variable {c d : Char} {a b t : Text}

/-- A character of another kind is not in a text of one kind. -/
theorem not_mem_of_forall {p : Char → Bool} (ht : ∀ c ∈ t, p c = true) (hc : p c = false) :
    c ∉ t := by
  intro hm
  rw [ht c hm] at hc
  cases hc

/-! ### Lines -/

/-- The line without the carriage return at its end, if there is one. -/
def chomp (line : Text) : Text := if line.getLast? = some '\r' then line.dropLast else line

theorem chomp_nil : chomp [] = [] := rfl

theorem chomp_cons_cons (c d : Char) (t : Text) : chomp (c :: d :: t) = c :: chomp (d :: t) := by
  unfold chomp
  rw [List.getLast?_cons_cons]
  split <;> rfl

theorem chomp_of_getLast?_ne (h : t.getLast? ≠ some '\r') : chomp t = t := if_neg h

theorem chomp_append_cons (hc : c ≠ '\r') (a b : Text) :
    chomp (a ++ c :: b) = a ++ c :: chomp b := by
  induction a with
  | nil =>
    cases b with
    | nil => exact chomp_of_getLast?_ne (by simpa using hc)
    | cons d b => exact chomp_cons_cons c d b
  | cons e a ih =>
    cases a with
    | nil =>
      rw [List.cons_append, List.nil_append, chomp_cons_cons, ← List.nil_append (c :: b), ih]; rfl
    | cons f a =>
      rw [List.cons_append, List.cons_append, chomp_cons_cons, ← List.cons_append, ih]; rfl

theorem chomp_subset (t : Text) : chomp t ⊆ t := by
  unfold chomp
  split
  · exact List.dropLast_subset t
  · exact List.Subset.refl t

/-- The first line of a text. -/
theorem lines_append_cons (ha : '\n' ∉ a) (t : Text) :
    lines (a ++ '\n' :: t) = chomp a :: lines t := by
  induction a with
  | nil => rw [List.nil_append, lines, chomp_nil]
  | cons c a ih =>
    simp only [List.mem_cons, not_or] at ha
    obtain ⟨hc, ha⟩ := ha
    cases a with
    | nil =>
      by_cases hr : c = '\r'
      · subst hr
        rfl
      · have hlast : [c].getLast? ≠ some '\r' := by simpa using hr
        rw [chomp_of_getLast?_ne hlast]
        simp [lines, Ne.symm hc, hr]
    | cons d a =>
      rw [chomp_cons_cons, List.cons_append, lines, ih ha]
      · exact fun h => hc h.symm
      · intro _ _ h
        exact ha (by simp [(List.cons.inj h).1])

/-- A text without a line feed is one line. -/
theorem lines_of_not_mem (ht : '\n' ∉ t) (hne : t ≠ []) : lines t = [t] := by
  induction t with
  | nil => exact absurd rfl hne
  | cons c t ih =>
    simp only [List.mem_cons, not_or] at ht
    cases t with
    | nil => simp [lines, Ne.symm ht.1]
    | cons d t =>
      rw [lines, ih ht.2 (by simp)]
      · exact fun h => ht.1 h.symm
      · intro _ _ h
        exact ht.2 (by simp [(List.cons.inj h).1])

/-- The lines of a text that ends with a line feed, and those of another text after it. -/
theorem lines_append_append (a b : Text) :
    lines (a ++ '\n' :: b) = lines (a ++ ['\n']) ++ lines b := by
  induction hlen : a.length using Nat.strongRecOn generalizing a with
  | _ k ih =>
    subst hlen
    by_cases hn : '\n' ∈ a
    · obtain ⟨first, rest, rfl, hfirst⟩ := List.eq_append_cons_of_mem hn
      have hrest := ih rest.length (by simp; omega) rest rfl
      simp only [List.append_assoc, List.cons_append]
      rw [lines_append_cons hfirst, lines_append_cons hfirst, hrest, List.cons_append]
    · rw [lines_append_cons hn, lines_append_cons hn]
      rfl

/-- Lines that are put together are the lines of the text, but for carriage returns at their
ends. -/
theorem lines_flatMap {ls : List Text} (h : ∀ l ∈ ls, '\n' ∉ l) :
    lines (ls.flatMap (· ++ ['\n'])) = ls.map chomp := by
  induction ls with
  | nil => rfl
  | cons l ls ih =>
    obtain ⟨hl, hls⟩ := List.forall_mem_cons.mp h
    rw [List.flatMap_cons, List.append_assoc, List.singleton_append, lines_append_cons hl, ih hls,
      List.map_cons]

/-! ### Splitting -/

theorem splitOn_append_cons (ha : c ∉ a) (t : Text) :
    splitOn c (a ++ c :: t) = a :: splitOn c t := by
  induction a with
  | nil => simp [splitOn]
  | cons d a ih =>
    simp only [List.mem_cons, not_or] at ha
    rw [List.cons_append, splitOn, if_neg (Ne.symm ha.1), ih ha.2]

/-- The parts of two texts with the character between them. -/
theorem splitOn_append_append (c : Char) (a b : Text) :
    splitOn c (a ++ c :: b) = splitOn c a ++ splitOn c b := by
  induction a with
  | nil => simp [splitOn]
  | cons d a ih =>
    rw [List.cons_append, splitOn, splitOn, ih]
    by_cases hd : d = c
    · rw [if_pos hd, if_pos hd, List.cons_append]
    · rw [if_neg hd, if_neg hd]
      cases hs : splitOn c a with
      | nil => exact absurd hs (splitOn_ne_nil c a)
      | cons first more => rfl

theorem splitOn_of_not_mem (ha : c ∉ a) : splitOn c a = [a] := by
  induction a with
  | nil => rfl
  | cons d a ih =>
    simp only [List.mem_cons, not_or] at ha
    rw [splitOn, if_neg (Ne.symm ha.1), ih ha.2]

theorem not_mem_of_mem_splitOn {part : Text} (h : part ∈ splitOn c t) : c ∉ part := by
  induction t generalizing part with
  | nil =>
    obtain rfl := List.mem_singleton.mp h
    exact List.not_mem_nil
  | cons d t ih =>
    rw [splitOn] at h
    split at h
    · rcases List.mem_cons.mp h with rfl | h
      · exact List.not_mem_nil
      · exact ih h
    · rename_i hd
      cases hs : splitOn c t with
      | nil => exact absurd hs (splitOn_ne_nil c t)
      | cons first more =>
        rw [hs] at h
        rcases List.mem_cons.mp h with rfl | h
        · have hfirst := ih (hs ▸ List.mem_cons_self ..)
          simp [Ne.symm hd, hfirst]
        · exact ih (hs ▸ List.mem_cons_of_mem _ h)

/-- Parts that are each ended by the character are joined, and ended, by it. -/
theorem flatMap_eq_joinWith (c : Char) {parts : List Text} (h : parts ≠ []) :
    parts.flatMap (· ++ [c]) = joinWith [c] parts ++ [c] := by
  induction parts with
  | nil => exact absurd rfl h
  | cons p rest ih =>
    cases rest with
    | nil => simp [joinWith]
    | cons q rest =>
      rw [List.flatMap_cons, ih (by simp), joinWith]
      simp only [List.append_assoc]

/-- The parts, each ended by the character, make the text ended by the character. -/
theorem flatMap_splitOn (c : Char) (t : Text) :
    (splitOn c t).flatMap (· ++ [c]) = t ++ [c] := by
  rw [flatMap_eq_joinWith c (splitOn_ne_nil c t), joinWith_splitOn]

/-- Each line is a part between line feeds, but for a carriage return at its end. -/
theorem mem_lines {line : Text} (h : line ∈ lines t) :
    ∃ part ∈ splitOn '\n' t, line = part ∨ line = chomp part := by
  induction hlen : t.length using Nat.strongRecOn generalizing t with
  | _ k ih =>
    subst hlen
    by_cases hn : '\n' ∈ t
    · obtain ⟨a, b, rfl, ha⟩ := List.eq_append_cons_of_mem hn
      rw [lines_append_cons ha] at h
      rw [splitOn_append_cons ha]
      rcases List.mem_cons.mp h with rfl | h
      · exact ⟨a, List.mem_cons_self .., .inr rfl⟩
      · obtain ⟨part, hpart, hline⟩ := ih b.length (by simp; omega) h rfl
        exact ⟨part, List.mem_cons_of_mem a hpart, hline⟩
    · by_cases hne : t = []
      · subst hne
        exact absurd h List.not_mem_nil
      · rw [lines_of_not_mem hn hne] at h
        rw [splitOn_of_not_mem hn]
        exact ⟨t, List.mem_cons_self .., .inl (List.mem_singleton.mp h)⟩

theorem cut?_append_cons (ha : c ∉ a) (t : Text) : cut? c (a ++ c :: t) = some (a, t) := by
  induction a with
  | nil => simp [cut?]
  | cons d a ih =>
    simp only [List.mem_cons, not_or] at ha
    rw [List.cons_append, cut?, if_neg (Ne.symm ha.1), ih ha.2]
    rfl

theorem cut?_eq_none (ha : c ∉ t) : cut? c t = none := by
  induction t with
  | nil => rfl
  | cons d t ih =>
    simp only [List.mem_cons, not_or] at ha
    rw [cut?, if_neg (Ne.symm ha.1), ih ha.2]
    rfl

theorem eq_of_cut? (h : cut? c t = some (a, b)) : t = a ++ c :: b ∧ c ∉ a := by
  induction t generalizing a with
  | nil => cases h
  | cons d t ih =>
    rw [cut?] at h
    by_cases hd : d = c
    · rw [if_pos hd] at h
      obtain ⟨rfl, rfl⟩ := Prod.mk.inj (Option.some.inj h)
      exact ⟨by rw [hd, List.nil_append], List.not_mem_nil⟩
    · rw [if_neg hd, Option.map_eq_some_iff] at h
      obtain ⟨⟨l, r⟩, hcut, heq⟩ := h
      obtain ⟨rfl, rfl⟩ := Prod.mk.inj heq
      obtain ⟨rfl, hl⟩ := ih hcut
      exact ⟨rfl, by simp [Ne.symm hd, hl]⟩

theorem cutLast?_eq_none_iff : cutLast? c t = none ↔ c ∉ t := by
  induction t with
  | nil => simp [cutLast?]
  | cons d t ih =>
    rw [cutLast?, List.mem_cons, not_or, ← ih]
    cases hc : cutLast? c t with
    | some parts => simp
    | none =>
      by_cases hd : d = c
      · simp [hd]
      · simp [hd, Ne.symm hd]

theorem eq_of_cutLast? (h : cutLast? c t = some (a, b)) : t = a ++ c :: b ∧ c ∉ b := by
  induction t generalizing a with
  | nil => cases h
  | cons d t ih =>
    rw [cutLast?] at h
    cases hc : cutLast? c t with
    | some parts =>
      obtain ⟨l, r⟩ := parts
      rw [hc] at h
      obtain ⟨rfl, rfl⟩ := Prod.mk.inj (Option.some.inj h)
      obtain ⟨rfl, hr⟩ := ih hc
      exact ⟨rfl, hr⟩
    | none =>
      simp only [hc] at h
      split at h
      · rename_i hd
        obtain ⟨rfl, rfl⟩ := Prod.mk.inj (Option.some.inj h)
        exact ⟨by rw [hd, List.nil_append], cutLast?_eq_none_iff.mp hc⟩
      · cases h

/-- A character that comes only once is the last one of its kind. -/
theorem cutLast?_append_cons (a : Text) (hb : c ∉ b) : cutLast? c (a ++ c :: b) = some (a, b) := by
  induction a with
  | nil => simp [cutLast?, cutLast?_eq_none_iff.mpr hb]
  | cons d a ih => simp [cutLast?, ih]

/-! ### Runs of characters -/

theorem takeWhile_append_cons {p : Char → Bool} (ha : ∀ c ∈ a, p c = true) (hd : p d = false)
    (t : Text) : (a ++ d :: t).takeWhile p = a := by
  rw [List.takeWhile_append_of_pos ha, List.takeWhile_cons_of_neg (by simp [hd]), List.append_nil]

theorem dropWhile_append_cons {p : Char → Bool} (ha : ∀ c ∈ a, p c = true) (hd : p d = false)
    (t : Text) : (a ++ d :: t).dropWhile p = d :: t := by
  rw [List.dropWhile_append_of_pos ha, List.dropWhile_cons_of_neg (by simp [hd])]

/-- A run ends at the latest with the first character that does not belong to it. -/
theorem takeWhile_append_stop {p : Char → Bool} (hd : p d = false) (a t : Text) :
    (a ++ d :: t).takeWhile p = a.takeWhile p := by
  induction a with
  | nil => simp [hd]
  | cons c a ih =>
    rw [List.cons_append, List.takeWhile_cons, List.takeWhile_cons, ih]

theorem dropWhile_append_stop {p : Char → Bool} (hd : p d = false) (a t : Text) :
    (a ++ d :: t).dropWhile p = a.dropWhile p ++ d :: t := by
  induction a with
  | nil => simp [hd]
  | cons c a ih =>
    rw [List.cons_append, List.dropWhile_cons, List.dropWhile_cons, ih]
    split <;> rfl

/-! ### White space -/

/-- The text is white space alone. -/
def IsBlank (t : Text) : Prop := ∀ c ∈ t, isBlank c = true

instance (t : Text) : Decidable (IsBlank t) := inferInstanceAs (Decidable (∀ c ∈ t, _))

theorem IsBlank.nil : IsBlank [] := by simp [IsBlank]

theorem IsBlank.append (ha : IsBlank a) (hb : IsBlank b) : IsBlank (a ++ b) :=
  List.forall_mem_append.mpr ⟨ha, hb⟩

theorem IsBlank.not_mem (h : IsBlank t) (hc : isBlank c = false) : c ∉ t := not_mem_of_forall h hc

theorem IsBlank.chomp (h : IsBlank t) : IsBlank (chomp t) := fun c hc =>
  h c (chomp_subset t hc)

theorem isBlank_replicate_space (k : Nat) : IsBlank (List.replicate k ' ') := by
  intro c hc
  rw [List.eq_of_mem_replicate hc]
  decide

theorem trimStart_append (ha : IsBlank a) (t : Text) : trimStart (a ++ t) = trimStart t := by
  unfold trimStart
  rw [List.dropWhile_append_of_pos ha]

theorem trimStart_cons (hc : isBlank c = false) (t : Text) : trimStart (c :: t) = c :: t := by
  simp [trimStart, hc]

theorem trimEnd_append (t : Text) (hb : IsBlank b) : trimEnd (t ++ b) = trimEnd t := by
  unfold trimEnd
  rw [List.reverse_append, List.dropWhile_append_of_pos]
  exact fun c hc => hb c (List.mem_reverse.mp hc)

theorem trimEnd_concat (t : Text) (hc : isBlank c = false) : trimEnd (t ++ [c]) = t ++ [c] := by
  simp [trimEnd, hc]

/-- The first character that is left is there at the latest where one is no white space. -/
theorem exists_trimStart (hc : isBlank c = false) (a t : Text) :
    ∃ d s, trimStart (a ++ c :: t) = d :: s ∧ d ∈ a ++ [c] := by
  unfold trimStart
  rw [dropWhile_append_stop hc]
  cases h : a.dropWhile isBlank with
  | nil => exact ⟨c, t, rfl, by simp⟩
  | cons d s =>
    have hd : d ∈ a := (List.dropWhile_sublist isBlank).subset (h ▸ List.mem_cons_self ..)
    exact ⟨d, s ++ c :: t, rfl, List.mem_append_left _ hd⟩

theorem trimStart_blank (h : IsBlank t) : trimStart t = [] := by
  simpa [trimStart] using trimStart_append h []

theorem trim_blank (h : IsBlank t) : trim t = [] := by
  rw [trim, trimStart_blank h]
  rfl

/-- What is trimmed already has no white space at its start. -/
theorem trimStart_of_trim (h : trim t = t) : trimStart t = t := by
  have hlen : t.length ≤ (trimStart t).length := by
    calc
      t.length = (trim t).length := by rw [h]
      _ = ((trimStart t).reverse.dropWhile isBlank).length := by simp [trim, trimEnd]
      _ ≤ (trimStart t).length := by
        simpa using (List.dropWhile_sublist isBlank (l := (trimStart t).reverse)).length_le
  exact (List.dropWhile_suffix isBlank).eq_of_length_le hlen

/-- Neither the first nor the last character is white space. -/
def IsTight (t : Text) : Prop :=
  (∀ c, t.head? = some c → isBlank c = false) ∧ ∀ c, t.getLast? = some c → isBlank c = false

theorem IsTight.exists_cons (h : IsTight t) (ht : t ≠ []) :
    ∃ c s, t = c :: s ∧ isBlank c = false := by
  obtain ⟨c, s, rfl⟩ := List.exists_cons_of_ne_nil ht
  exact ⟨c, s, rfl, h.1 c rfl⟩

theorem IsTight.exists_concat (h : IsTight t) (ht : t ≠ []) :
    ∃ s c, t = s ++ [c] ∧ isBlank c = false := by
  refine ⟨t.dropLast, t.getLast ht, (List.dropLast_concat_getLast ht).symm, h.2 _ ?_⟩
  exact List.getLast?_eq_some_getLast ht

theorem IsTight.trimStart_append (h : IsTight t) (ht : t ≠ []) (b : Text) :
    trimStart (t ++ b) = t ++ b := by
  obtain ⟨c, s, rfl, hc⟩ := h.exists_cons ht
  rw [List.cons_append, trimStart_cons hc]

theorem IsTight.trimEnd_eq (h : IsTight t) (ht : t ≠ []) : trimEnd t = t := by
  obtain ⟨s, c, rfl, hc⟩ := h.exists_concat ht
  exact trimEnd_concat s hc

theorem isTight_of_trim (h : trim t = t) : IsTight t := by
  have hstart := trimStart_of_trim h
  rw [trim, hstart] at h
  have hend : t.reverse.dropWhile isBlank = t.reverse := by
    rw [← List.reverse_inj, List.reverse_reverse]
    exact h
  have head_of_dropWhile : ∀ {s : Text}, s.dropWhile isBlank = s → ∀ c, s.head? = some c →
      isBlank c = false := by
    intro s hs c hc
    obtain ⟨s, rfl⟩ : ∃ r, s = c :: r := List.head?_eq_some_iff.mp hc
    refine Bool.eq_false_iff.mpr fun hb => ?_
    have hle := (List.dropWhile_sublist isBlank (l := s)).length_le
    have hlen := congrArg List.length hs
    simp only [List.dropWhile_cons, hb, if_true, List.length_cons] at hlen
    omega
  refine ⟨head_of_dropWhile hstart, fun c hc => head_of_dropWhile hend c ?_⟩
  rwa [List.head?_reverse]

/-- Trimming takes white space off both ends and nothing else. -/
theorem trim_append_append (ha : IsBlank a) (hb : IsBlank b) (h : IsTight t) :
    trim (a ++ t ++ b) = t := by
  by_cases ht : t = []
  · subst ht
    rw [List.append_nil]
    exact trim_blank (ha.append hb)
  · rw [trim, List.append_assoc, Text.trimStart_append ha, h.trimStart_append ht,
      trimEnd_append t hb, h.trimEnd_eq ht]

theorem IsTight.trim_eq (h : IsTight t) : trim t = t := by
  simpa using trim_append_append .nil .nil h

/-- A text between two that are tight. -/
theorem IsTight.append_append (ha : IsTight a) (hne : a ≠ []) (t : Text) (hb : IsTight b)
    (hne' : b ≠ []) : IsTight (a ++ t ++ b) := by
  obtain ⟨c, a, rfl, hc⟩ := ha.exists_cons hne
  obtain ⟨b, d, rfl, hd⟩ := hb.exists_concat hne'
  refine ⟨fun x hx => ?_, fun x hx => ?_⟩
  · obtain rfl : c = x := by simpa using hx
    exact hc
  · rw [← List.append_assoc, List.getLast?_concat] at hx
    obtain rfl : d = x := Option.some.inj hx
    exact hd

end Retint.Text
