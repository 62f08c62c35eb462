import Retint.Pattern.Sought
import Retint.Proofs.Pattern.Language

/-!
# The size and the meaning of patterns made of a text

The memory that a pattern takes is measured part by part. For a text with parts after it, the sum
comes to so much for each byte of the text, and as much as the parts take. So there is a length from
which on a text cannot be looked for.

What such a pattern covers is the text followed by what the parts cover.

## Main definitions

* `CharSet.IsApart` — ranges in order that do not touch

## Main results

* `CharSet.gaps_gaps` — such ranges are what is left between their gaps
* `Pattern.Piece.char_eq`, `Pattern.Piece.inLine_eq` — the parts are measured as sets of characters
* `Pattern.Piece.isUsable_textThen_iff` — the limit for the text
* `Pattern.Piece.matches_textThen_iff` — what is covered
-/

namespace Retint

/-! ### Ranges in order -/

namespace CharSet

variable {n m : Nat} {l : List (Nat × Nat)}

/-- Ranges of codes from `n` on, in order and with a gap between neighbours. -/
def IsApart : Nat → List (Nat × Nat) → Prop
  | _, [] => True
  | n, (low, high) :: rest => n ≤ low ∧ low ≤ high ∧ high ≤ lastCode ∧ IsApart (high + 2) rest

theorem le_of_mem_gaps {r : Nat × Nat} (h : r ∈ gaps n l) : n ≤ r.1 := by
  induction l generalizing n with
  | nil =>
    rw [gaps] at h
    split at h
    · obtain rfl := List.mem_singleton.mp h
      exact le_rfl
    · cases h
  | cons range l ih =>
    obtain ⟨low, high⟩ := range
    rw [gaps] at h
    split at h
    · rcases List.mem_cons.mp h with rfl | h
      · exact le_rfl
      · exact (Nat.le_max_left ..).trans (ih h)
    · exact (Nat.le_max_left ..).trans (ih h)

/-- Gaps are in order. -/
theorem pairwise_gaps (n : Nat) (l : List (Nat × Nat)) :
    (gaps n l).Pairwise fun a b => a.1 ≤ b.1 := by
  induction l generalizing n with
  | nil =>
    rw [gaps]
    split <;> simp
  | cons range l ih =>
    obtain ⟨low, high⟩ := range
    rw [gaps]
    split
    · exact List.pairwise_cons.mpr
        ⟨fun r hr => (Nat.le_max_left ..).trans (le_of_mem_gaps hr), ih _⟩
    · exact ih _

theorem IsApart.pairwise (h : IsApart n l) : l.Pairwise fun a b => a.1 ≤ b.1 := by
  have hfrom : ∀ {n l}, IsApart n l → ∀ r ∈ l, n ≤ r.1 := by
    intro n l h
    induction l generalizing n with
    | nil => nofun
    | cons range l ih =>
      obtain ⟨hn, hle, -, hrest⟩ := h
      refine List.forall_mem_cons.mpr ⟨hn, fun r hr => ?_⟩
      have := ih hrest r hr
      omega
  induction l generalizing n with
  | nil => exact .nil
  | cons range l ih =>
    obtain ⟨-, hle, -, hrest⟩ := h
    refine List.pairwise_cons.mpr ⟨fun r hr => ?_, ih hrest⟩
    have := hfrom hrest r hr
    omega

/-- Between the gaps there is what was left out of them, after a first range that was there
already. -/
theorem gaps_gaps_of_lt (hm : m < n) (hn : n ≤ lastCode + 1) (h : IsApart (n + 1) l) :
    gaps m (gaps n l) = (m, n - 1) :: l := by
  induction l generalizing m n with
  | nil =>
    by_cases hlast : n ≤ lastCode
    · have hbeyond : ¬ max m (lastCode + 1) ≤ lastCode := by omega
      simp [gaps, hlast, hm, hbeyond]
    · have hmlast : m ≤ lastCode := by omega
      obtain rfl : n = lastCode + 1 := by omega
      rw [gaps, if_neg hlast, gaps, if_pos hmlast, Nat.add_sub_cancel]
  | cons range l ih =>
    obtain ⟨low, high⟩ := range
    obtain ⟨hlow, hle, hhigh, hrest⟩ := h
    have hmax : max n (high + 1) = high + 1 := by omega
    have hnext : max m (low - 1 + 1) = low := by omega
    have hfirst : n < low := by omega
    rw [gaps, if_pos hfirst, hmax, gaps, if_pos hm, hnext,
      ih (by omega : low < high + 1) (by omega) hrest, Nat.add_sub_cancel]

/-- Ranges in order are what is left between their gaps. -/
theorem gaps_gaps (h : IsApart 0 l) : gaps 0 (gaps 0 l) = l := by
  cases l with
  | nil => simp [gaps]
  | cons range l =>
    obtain ⟨low, high⟩ := range
    obtain ⟨-, hle, hhigh, hrest⟩ := h
    have hmax : max 0 (high + 1) = high + 1 := by omega
    by_cases hlow : 0 < low
    · have hnext : max 0 (low - 1 + 1) = low := by omega
      rw [gaps, if_pos hlow, hmax, gaps, if_neg (Nat.lt_irrefl 0), hnext,
        gaps_gaps_of_lt (by omega) (by omega) hrest, Nat.add_sub_cancel]
    · obtain rfl : low = 0 := by omega
      rw [gaps, if_neg hlow, hmax, gaps_gaps_of_lt (by omega) (by omega) hrest, Nat.add_sub_cancel]

theorem sorted_eq_self {s : CharSet} (h : s.ranges.Pairwise fun a b => a.1 ≤ b.1) :
    s.sorted = s.ranges :=
  List.mergeSort_of_pairwise (by simpa using h)

/-- A set whose ranges are in order stays as it is when it is brought into order. -/
theorem normal_eq_self {s : CharSet} (h : IsApart 0 s.ranges) : s.normal = s := by
  rw [normal, complement, complement, sorted_eq_self (pairwise_gaps 0 _), sorted_eq_self h.pairwise,
    gaps_gaps h]

theorem isApart_single (c : Char) : IsApart 0 (single c).ranges := by
  have hc : c.toNat ≤ lastCode := by
    have := c.valid
    simp only [UInt32.isValidChar, Nat.isValidChar] at this
    simp only [lastCode, Char.toNat]
    omega
  exact ⟨Nat.zero_le _, le_rfl, hc, trivial⟩

theorem machineSize_single (c : Char) : (single c).machineSize = stateSize * c.utf8Size := by
  have hchar : Char.ofNat c.toNat = c := Char.ofNat_toNat c
  rw [machineSize, normal_eq_self (isApart_single c)]
  simp [single, span, hchar]

theorem has_single {c d : Char} : (single c).has d = true ↔ d = c := by
  have hcodes : (single c).has d = true ↔ c.toNat ≤ d.toNat ∧ d.toNat ≤ c.toNat := by
    simp [has, hasCode, single, span, inRange]
  rw [hcodes, ← Char.toNat_inj]
  omega

end CharSet

/-! ### Sizes -/

namespace Pattern.Piece

theorem char_eq (c : Char) : char c = oneOf (.single c) 0 := by
  rw [char, ← CharSet.machineSize_single]
  rfl

theorem inLine_eq : inLine = (oneOf (CharSet.single '\n').complement 0).repeated 0 none := by
  have hset : (CharSet.single '\n').complement = lineSet := by
    rw [CharSet.complement, CharSet.sorted_eq_self (CharSet.isApart_single '\n').pairwise]
    rfl
  have hsize : lineSet.machineSize = CharSet.machineSize.several lineSet.ranges := by
    have happart : CharSet.IsApart 0 lineSet.ranges := by
      simp [CharSet.IsApart, lineSet, CharSet.lastCode]
    rw [CharSet.machineSize, CharSet.normal_eq_self happart]
    rfl
  rw [hset, inLine, ← hsize]
  rfl

variable {t : Text} {more : List Piece}

/-- More than one part in a row. -/
theorem row_eq {parts : List Piece} (h : 2 ≤ parts.length) :
    (row parts).pattern = seqs (parts.map pattern) ∧
      (row parts).depth = (parts.map depth).foldl max 0 + 1 ∧
      (row parts).size = (parts.map size).sum := by
  obtain ⟨p, q, ps, rfl⟩ : ∃ p q ps, parts = p :: q :: ps := by
    cases parts with
    | nil => cases h
    | cons p parts =>
      cases parts with
      | nil => exact absurd h (Nat.lt_irrefl 1)
      | cons q ps => exact ⟨p, q, ps, rfl⟩
  exact ⟨rfl, rfl, List.sum_eq_foldl_nat.symm⟩

theorem row_textThen (h : 2 ≤ more.length) :
    (textThen t more).pattern = seqs ((t.map char ++ more).map pattern) ∧
      (textThen t more).depth = ((t.map char ++ more).map depth).foldl max 0 + 1 ∧
      (textThen t more).size = ((t.map char ++ more).map size).sum :=
  row_eq (by rw [List.length_append]; omega)

/-- **The size of a text with parts after it.** -/
theorem size_textThen (h : 2 ≤ more.length) :
    (textThen t more).size = stateSize * t.size + (more.map size).sum := by
  have htext : ((t.map char).map size).sum = stateSize * t.size := by
    induction t with
    | nil => rfl
    | cons c t ih =>
      rw [List.map_cons, List.map_cons, List.sum_cons, ih]
      exact (Nat.mul_add ..).symm
  rw [(row_textThen h).2.2, List.map_append, List.sum_append, htext]

theorem depth_textThen (h : 2 ≤ more.length) {bound : Nat} (hmore : ∀ p ∈ more, p.depth ≤ bound) :
    (textThen t more).depth ≤ bound + 1 := by
  have hall : ∀ {depths : List Nat} {d : Nat}, d ≤ bound → (∀ e ∈ depths, e ≤ bound) →
      depths.foldl max d ≤ bound := by
    intro depths
    induction depths with
    | nil => exact fun hd _ => hd
    | cons e depths ih =>
      intro d hd hall
      rw [List.forall_mem_cons] at hall
      exact ih (Nat.max_le.mpr ⟨hd, hall.1⟩) hall.2
  rw [(row_textThen h).2.1]
  refine Nat.succ_le_succ (hall (Nat.zero_le _) fun d hd => ?_)
  obtain ⟨p, hp, rfl⟩ := List.mem_map.mp hd
  rcases List.mem_append.mp hp with hp | hp
  · obtain ⟨c, -, rfl⟩ := List.mem_map.mp hp
    exact Nat.zero_le _
  · exact hmore p hp

/-- **The limit for a text** that is looked for with parts after it. -/
theorem isUsable_textThen_iff (h : 2 ≤ more.length) (hmore : ∀ p ∈ more, p.depth < depthLimit) :
    (textThen t more).isUsable = true ↔
      stateSize * t.size + (more.map size).sum + baseSize ≤ sizeLimit := by
  have hless : ∀ p ∈ more, p.depth ≤ 249 := fun p hp => Nat.le_of_lt_succ (hmore p hp)
  have hdepth : (textThen t more).depth ≤ depthLimit := depth_textThen h hless
  simp [isUsable, hdepth, size_textThen h]

/-! ### Meaning -/

theorem mem_language_char {c : Char} {u : Text} : u ∈ (char c).pattern.language ↔ u = [c] := by
  have hone : (char c).pattern = .one (CharSet.single c).has := rfl
  rw [hone, mem_language_one]
  simp only [CharSet.has_single, exists_eq_left]

theorem mem_language_spaces {u : Text} :
    u ∈ spaces.pattern.language ↔ ∃ k, u = List.replicate k ' ' := by
  have hmany : spaces.pattern = many (.one (CharSet.single ' ').has) := rfl
  rw [hmany, mem_language_many_one]
  simp only [CharSet.has_single]
  constructor
  · exact fun h => ⟨u.length, List.eq_replicate_of_mem h⟩
  · rintro ⟨k, rfl⟩ c hc
    exact List.eq_of_mem_replicate hc

theorem mem_language_inLine {u : Text} : u ∈ inLine.pattern.language ↔ '\n' ∉ u := by
  have hmany : inLine.pattern = many (.one lineSet.has) := rfl
  have hset : ∀ c : Char, lineSet.has c = true ↔ c ≠ '\n' := by
    intro c
    have hcode : c ≠ '\n' ↔ c.toNat ≠ 10 := not_congr Char.toNat_inj.symm
    have hlast := (CharSet.isApart_single c).2.2.1
    rw [hcode]
    simp only [CharSet.has, CharSet.hasCode, CharSet.inRange, lineSet, List.any_cons, List.any_nil,
      Bool.or_false, Bool.or_eq_true, Bool.and_eq_true, decide_eq_true_eq]
    omega
  rw [hmany, mem_language_many_one]
  simp only [hset]
  exact ⟨fun h hm => h _ hm rfl, fun h c hc heq => h (heq ▸ hc)⟩

/-- **What is covered** is the text, and then what the parts cover. -/
theorem matches_textThen_iff (h : 2 ≤ more.length) (hplain : ∀ p ∈ more, p.pattern.IsPlain = true)
    {a b : Place} : Matches (textThen t more).pattern a b ↔
      ∃ v ∈ (more.map fun p => p.pattern.language).prod, a.Goes (t ++ v) b := by
  have htext : ∀ {t u : Text}, u ∈ ((t.map char).map fun p => p.pattern.language).prod ↔ u = t := by
    intro t
    induction t with
    | nil => exact Language.mem_one _
    | cons c t ih =>
      intro u
      rw [List.map_cons, List.map_cons, List.prod_cons, Language.mem_mul]
      simp only [mem_language_char, ih, exists_eq_left, List.singleton_append]
      exact eq_comm
  have hparts : ∀ p ∈ (t.map char ++ more).map pattern, p.IsPlain = true := by
    intro p hp
    obtain ⟨part, hpart, rfl⟩ := List.mem_map.mp hp
    rcases List.mem_append.mp hpart with hpart | hpart
    · obtain ⟨c, -, rfl⟩ := List.mem_map.mp hpart
      rfl
    · exact hplain part hpart
  rw [(row_textThen h).1, matches_iff_language (isPlain_seqs hparts), language_seqs, List.map_map,
    List.map_append, List.prod_append]
  constructor
  · rintro ⟨u, hu, hab⟩
    obtain ⟨w, hw, v, hv, rfl⟩ := Language.mem_mul.mp hu
    exact ⟨v, hv, (htext.mp hw) ▸ hab⟩
  · rintro ⟨v, hv, hab⟩
    exact ⟨t ++ v, Language.append_mem_mul (htext.mpr rfl) hv, hab⟩

end Pattern.Piece

end Retint
