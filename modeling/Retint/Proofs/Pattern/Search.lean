import Mathlib.Data.Nat.Bitwise
import Retint.Pattern.Search
import Retint.Proofs.Pattern.Meaning

/-!
# What the search finds

The search follows sets of places through a pattern. Each of its operations on numbers is an
operation on the sets that the numbers stand for, so what a pattern leads to from a set are the
places that some find leads to from a place of the set. In particular nothing is lost where the
search cuts the rounds of a repetition off.

## Main definitions

* `Pattern.placeAt` — the place behind the first characters of a text
* `Pattern.Leads`, `Pattern.LeadsBy` — finds, and rounds, between places given by their numbers

## Main results

* `Pattern.testBit_afterExactly`, `Pattern.testBit_afterAtMost` — repeated steps of sets of places
* `Pattern.rounds_cutOff` — the rounds that the search makes are enough
* `Pattern.isStep_reach` — what a pattern leads to from a set of places
* `Pattern.isFound_iff` — the search finds a pattern just when the pattern is found at some place
-/

namespace Retint.Pattern

variable {t : Text} {p q : Pattern} {i j n : Nat}

/-! ### Places by their numbers -/

/-- The place behind the first `i` characters of a text. -/
def placeAt (t : Text) (i : Nat) : Place := ⟨(t.take i).getLast?, t.drop i⟩

theorem goes_placeAt (t : Text) (i : Nat) : Place.Goes ⟨none, t⟩ (t.take i) (placeAt t i) := by
  simp [Place.Goes, placeAt]

theorem Place.Goes.eq_placeAt {u : Text} {b : Place} (h : Place.Goes ⟨none, t⟩ u b) :
    u.length ≤ t.length ∧ b = placeAt t u.length := by
  obtain ⟨before, rest⟩ := b
  obtain ⟨ht, hbefore⟩ := h
  dsimp only at ht hbefore
  subst ht hbefore
  simp [placeAt]

/-- Whatever a place of the text goes to is a place of the text. -/
theorem Place.Goes.exists_placeAt {u : Text} {b : Place} (h : (placeAt t i).Goes u b) :
    ∃ j ≤ t.length, b = placeAt t j := by
  obtain ⟨hj, hb⟩ := ((goes_placeAt t i).trans h).eq_placeAt
  exact ⟨_, hj, hb⟩

theorem length_rest_placeAt : (placeAt t i).rest.length = t.length - i := by
  simp [placeAt]

theorem placeAt_of_lt (h : i < t.length) :
    placeAt t i = ⟨(t.take i).getLast?, t[i] :: t.drop (i + 1)⟩ := by
  rw [placeAt, ← List.drop_eq_getElem_cons h]

theorem placeAt_succ (h : i < t.length) : placeAt t (i + 1) = ⟨some t[i], t.drop (i + 1)⟩ := by
  rw [placeAt, List.take_succ_eq_append_getElem h, List.getLast?_concat]

theorem placeAt_inj (hi : i ≤ t.length) (hj : j ≤ t.length) (h : placeAt t i = placeAt t j) :
    i = j := by
  have hlen := congrArg (fun a => a.rest.length) h
  simp only [length_rest_placeAt] at hlen
  omega

theorem onward_eq (pre t : Text) : Place.onward pre.getLast? t =
    (List.range (t.length + 1)).map fun i => placeAt (pre ++ t) (pre.length + i) := by
  induction t generalizing pre with
  | nil => simp [Place.onward, placeAt]
  | cons c t ih =>
    have htail := ih (pre ++ [c])
    rw [List.getLast?_concat] at htail
    rw [Place.onward, List.length_cons, List.range_succ_eq_map, List.map_cons, List.map_map, htail]
    congr 1
    · simp [placeAt]
    · refine List.map_congr_left fun i _ => ?_
      rw [List.append_assoc, List.singleton_append, List.length_append, List.length_singleton,
        Function.comp_apply, Nat.succ_eq_add_one]
      congr 1
      omega

theorem onward_none (t : Text) :
    Place.onward none t = (List.range (t.length + 1)).map (placeAt t) := by
  simpa using onward_eq [] t

theorem Matches.exists_placeAt {b : Place} (h : Matches p (placeAt t i) b) :
    ∃ j ≤ t.length, b = placeAt t j := by
  obtain ⟨u, hu⟩ := h.goes
  exact hu.exists_placeAt

/-! ### Sets of places -/

theorem testBit_double : (2 * n).testBit j = true ↔ ∃ i, n.testBit i = true ∧ j = i + 1 := by
  cases j with
  | zero => simp
  | succ j => simp [Nat.testBit_succ]

/-- What one set holds beyond another. -/
theorem testBit_beyond {m n : Nat} :
    (m ^^^ (m &&& n)).testBit i = true ↔ m.testBit i = true ∧ n.testBit i = false := by
  rw [Nat.testBit_xor, Nat.testBit_and]
  cases m.testBit i <;> cases n.testBit i <;> decide

theorem exists_testBit_iff : (∃ i, n.testBit i = true) ↔ n ≠ 0 := by
  constructor
  · rintro ⟨i, hi⟩ rfl
    simp at hi
  · exact Nat.exists_testBit_of_ne_zero

theorem testBit_marked {marks : List Bool} :
    (marked marks).testBit i = true ↔ marks[i]? = some true := by
  induction marks generalizing i with
  | nil => simp [marked]
  | cons mark marks ih =>
    have hbit : marked (mark :: marks) = Nat.bit mark (marked marks) := by
      cases mark <;> rfl
    rw [hbit]
    cases i with
    | zero => simp
    | succ i => rw [Nat.testBit_bit_succ, List.getElem?_cons_succ, ih]

theorem testBit_everywhere : (everywhere t).testBit i = true ↔ i ≤ t.length := by
  rw [everywhere, testBit_marked]
  cases i with
  | zero => simp
  | succ i =>
    rw [List.getElem?_cons_succ, List.getElem?_map, Option.map_eq_some_iff, Nat.succ_le_iff]
    simp [List.getElem?_eq_some_iff]

/-! ### Finds between places -/

/-- A find of the pattern leads from the `i`-th place of the text to the `j`-th. -/
def Leads (t : Text) (p : Pattern) (i j : Nat) : Prop :=
  j ≤ t.length ∧ Matches p (placeAt t i) (placeAt t j)

/-- `n` rounds of the pattern lead from the `i`-th place of the text to the `j`-th. -/
def LeadsBy (t : Text) (p : Pattern) (n i j : Nat) : Prop :=
  j ≤ t.length ∧ Rounds p n (placeAt t i) (placeAt t j)

theorem leads_one {test : Char → Bool} (hi : i ≤ t.length) :
    Leads t (.one test) i j ↔ (t.map test)[i]? = some true ∧ j = i + 1 := by
  rw [Leads, matches_one]
  constructor
  · rintro ⟨hj, c, rest, ha, hc, hb⟩
    have hlt : i < t.length := by
      have hlen := congrArg List.length ha
      rw [length_rest_placeAt, List.length_cons] at hlen
      omega
    rw [placeAt_of_lt hlt] at ha
    obtain ⟨rfl, rfl⟩ := List.cons.inj ha
    rw [← placeAt_succ hlt] at hb
    exact ⟨by simp [hlt, hc], placeAt_inj hj hlt hb⟩
  · rintro ⟨h, rfl⟩
    obtain ⟨hlt, hc⟩ : ∃ hlt : i < t.length, test t[i] = true := by
      simpa [List.getElem?_eq_some_iff] using h
    exact ⟨hlt, t[i], t.drop (i + 1), by rw [placeAt_of_lt hlt], hc, placeAt_succ hlt⟩

theorem leads_stay {P : Place → Prop} (hp : ∀ {a b}, Matches p a b ↔ a = b ∧ P a)
    (hi : i ≤ t.length) : Leads t p i j ↔ P (placeAt t i) ∧ j = i := by
  rw [Leads, hp]
  constructor
  · rintro ⟨hj, h, hP⟩
    exact ⟨hP, (placeAt_inj hi hj h).symm⟩
  · rintro ⟨hP, rfl⟩
    exact ⟨hi, rfl, hP⟩

theorem leads_seq : Leads t (.seq p q) i j ↔ ∃ e, Leads t p i e ∧ Leads t q e j := by
  constructor
  · rintro ⟨hj, h⟩
    obtain ⟨b, h, k⟩ := matches_seq.mp h
    obtain ⟨e, he, rfl⟩ := h.exists_placeAt
    exact ⟨e, ⟨he, h⟩, hj, k⟩
  · rintro ⟨e, ⟨-, h⟩, hj, k⟩
    exact ⟨hj, matches_seq.mpr ⟨_, h, k⟩⟩

theorem leads_alt : Leads t (.alt p q) i j ↔ Leads t p i j ∨ Leads t q i j := by
  rw [Leads, Leads, Leads, matches_alt, and_or_left]

theorem leadsBy_zero (hi : i ≤ t.length) : LeadsBy t p 0 i j ↔ i = j := by
  rw [LeadsBy, rounds_zero]
  constructor
  · rintro ⟨hj, h⟩
    exact placeAt_inj hi hj h
  · rintro rfl
    exact ⟨hi, rfl⟩

theorem leadsBy_succ : LeadsBy t p (n + 1) i j ↔ ∃ e, Leads t p i e ∧ LeadsBy t p n e j := by
  constructor
  · rintro ⟨hj, h⟩
    obtain ⟨b, h, k⟩ := rounds_succ.mp h
    obtain ⟨e, he, rfl⟩ := h.exists_placeAt
    exact ⟨e, ⟨he, h⟩, hj, k⟩
  · rintro ⟨e, ⟨-, h⟩, hj, k⟩
    exact ⟨hj, rounds_succ.mpr ⟨_, h, k⟩⟩

theorem leadsBy_add {m : Nat} (hi : i ≤ t.length) :
    LeadsBy t p (m + n) i j ↔ ∃ e, LeadsBy t p m i e ∧ LeadsBy t p n e j := by
  induction m generalizing i with
  | zero =>
    rw [Nat.zero_add]
    constructor
    · intro h
      exact ⟨i, (leadsBy_zero hi).mpr rfl, h⟩
    · rintro ⟨e, hie, hej⟩
      obtain rfl := (leadsBy_zero hi).mp hie
      exact hej
  | succ m ih =>
    rw [Nat.succ_add, leadsBy_succ]
    constructor
    · rintro ⟨k, hik, hkj⟩
      obtain ⟨e, hke, hej⟩ := (ih hik.1).mp hkj
      exact ⟨e, leadsBy_succ.mpr ⟨k, hik, hke⟩, hej⟩
    · rintro ⟨e, hie, hej⟩
      obtain ⟨k, hik, hke⟩ := leadsBy_succ.mp hie
      exact ⟨k, hik, (ih hik.1).mpr ⟨e, hke, hej⟩⟩

/-! ### Steps of sets of places -/

/-- The places of the set are places of the text. -/
def IsWithin (t : Text) (places : Nat) : Prop := ∀ i, places.testBit i = true → i ≤ t.length

/-- The step takes a set of places to all the places that the pattern leads to. -/
def IsStep (t : Text) (p : Pattern) (step : Nat → Nat) : Prop :=
  ∀ places, IsWithin t places → ∀ j,
    (step places).testBit j = true ↔ ∃ i, places.testBit i = true ∧ Leads t p i j

variable {step : Nat → Nat} {places known newest : Nat}

theorem IsStep.isWithin (hstep : IsStep t p step) (h : IsWithin t places) :
    IsWithin t (step places) := by
  intro j hj
  obtain ⟨i, -, hj, -⟩ := (hstep places h j).mp hj
  exact hj

theorem testBit_afterExactly (hstep : IsStep t p step) (h : IsWithin t places) :
    (afterExactly step n places).testBit j = true ↔
      ∃ i, places.testBit i = true ∧ LeadsBy t p n i j := by
  induction n generalizing places with
  | zero =>
    constructor
    · intro hj
      exact ⟨j, hj, (leadsBy_zero (h j hj)).mpr rfl⟩
    · rintro ⟨i, hi, hij⟩
      obtain rfl := (leadsBy_zero (h i hi)).mp hij
      exact hi
  | succ n ih =>
    rw [afterExactly]
    split
    next hnone => simp [hnone]
    next =>
      rw [ih (hstep.isWithin h)]
      constructor
      · rintro ⟨e, he, hej⟩
        obtain ⟨i, hi, hie⟩ := (hstep places h e).mp he
        exact ⟨i, hi, leadsBy_succ.mpr ⟨e, hie, hej⟩⟩
      · rintro ⟨i, hi, hij⟩
        obtain ⟨e, hie, hej⟩ := leadsBy_succ.mp hij
        exact ⟨e, (hstep places h e).mpr ⟨i, hi, hie⟩, hej⟩

/-- A set that its steps do not leave is not left by any number of rounds. -/
theorem LeadsBy.mem_of_closed
    (hclosed : ∀ i j, known.testBit i = true → Leads t p i j → known.testBit j = true)
    (hin : IsWithin t known) (hi : known.testBit i = true) (h : LeadsBy t p n i j) :
    known.testBit j = true := by
  induction n generalizing i with
  | zero =>
    obtain rfl := (leadsBy_zero (hin i hi)).mp h
    exact hi
  | succ n ih =>
    obtain ⟨e, hie, hej⟩ := leadsBy_succ.mp h
    exact ih (hclosed i e hi hie) hej

/-- The first of the rounds can be taken for all places together. -/
theorem exists_leadsBy_le_succ {P : Nat → Prop} :
    (∃ m ≤ n + 1, ∃ i, P i ∧ LeadsBy t p m i j) ↔
      ∃ m ≤ n, ∃ i, (P i ∨ ∃ e, P e ∧ Leads t p e i) ∧ LeadsBy t p m i j := by
  constructor
  · rintro ⟨m, hm, i, hi, hij⟩
    cases m with
    | zero => exact ⟨0, Nat.zero_le _, i, .inl hi, hij⟩
    | succ m =>
      obtain ⟨e, hie, hej⟩ := leadsBy_succ.mp hij
      exact ⟨m, by omega, e, .inr ⟨i, hi, hie⟩, hej⟩
  · rintro ⟨m, hm, i, hi | ⟨e, he, hei⟩, hij⟩
    · exact ⟨m, by omega, i, hi, hij⟩
    · exact ⟨m + 1, by omega, e, he, leadsBy_succ.mpr ⟨i, hei, hij⟩⟩

/-- The invariant is that the steps of all known places but the newest are known already. -/
theorem testBit_afterAtMost (hstep : IsStep t p step) (hin : IsWithin t known)
    (hnewest : ∀ i, newest.testBit i = true → known.testBit i = true)
    (hold : ∀ i j, known.testBit i = true → newest.testBit i = false → Leads t p i j →
      known.testBit j = true) :
    (afterAtMost step n known newest).testBit j = true ↔
      ∃ m ≤ n, ∃ i, known.testBit i = true ∧ LeadsBy t p m i j := by
  induction n generalizing known newest with
  | zero =>
    rw [afterAtMost]
    constructor
    · intro hj
      exact ⟨0, le_rfl, j, hj, (leadsBy_zero (hin j hj)).mpr rfl⟩
    · rintro ⟨m, hm, i, hi, hij⟩
      obtain rfl := Nat.le_zero.mp hm
      obtain rfl := (leadsBy_zero (hin i hi)).mp hij
      exact hi
  | succ n ih =>
    have hstep' := hstep newest fun i hi => hin i (hnewest i hi)
    -- A step of the newest places finds all that is not known of a step of the known ones.
    have hnext : ∀ i, known.testBit i = true ∨ (step newest).testBit i = true ↔
        known.testBit i = true ∨ ∃ e, known.testBit e = true ∧ Leads t p e i := by
      refine fun i => ⟨Or.imp_right fun hi => ?_, ?_⟩
      · obtain ⟨e, he, hei⟩ := (hstep' i).mp hi
        exact ⟨e, hnewest e he, hei⟩
      · rintro (hi | ⟨e, he, hei⟩)
        · exact .inl hi
        · cases hnew : newest.testBit e with
          | false => exact .inl (hold e i he hnew hei)
          | true => exact .inr ((hstep' i).mpr ⟨e, hnew, hei⟩)
    rw [afterAtMost, exists_leadsBy_le_succ]
    split
    next hfresh =>
      have hclosed : ∀ i, (known.testBit i = true ∨ (step newest).testBit i = true) →
          known.testBit i = true := by
        refine fun i hi => hi.elim id fun hi => ?_
        by_contra hknown
        have hbit := testBit_beyond.mpr ⟨hi, Bool.eq_false_iff.mpr hknown⟩
        rw [hfresh] at hbit
        simp at hbit
      constructor
      · intro hj
        exact ⟨0, Nat.zero_le _, j, .inl hj, (leadsBy_zero (hin j hj)).mpr rfl⟩
      · rintro ⟨m, -, i, hi, hij⟩
        refine hij.mem_of_closed (fun i e hi hie => ?_) hin (hclosed i ((hnext i).mpr hi))
        exact hclosed e ((hnext e).mpr (.inr ⟨i, hi, hie⟩))
    next =>
      have hor : ∀ i, (known ||| (step newest ^^^ (step newest &&& known))).testBit i = true ↔
          known.testBit i = true ∨ (step newest).testBit i = true := by
        intro i
        rw [Nat.testBit_or, Bool.or_eq_true, testBit_beyond]
        cases known.testBit i <;> simp
      rw [ih]
      · simp only [hor, hnext]
      · intro i hi
        rcases (hor i).mp hi with hi | hi
        · exact hin i hi
        · obtain ⟨e, -, hi, -⟩ := (hstep' i).mp hi
          exact hi
      · intro i hi
        rw [Nat.testBit_or, hi, Bool.or_true]
      · intro i j hi hfresh hij
        rw [Nat.testBit_or, hfresh, Bool.or_false] at hi
        exact (hor j).mpr ((hnext j).mpr (.inr ⟨i, hi, hij⟩))

/-! ### The rounds that are made -/

/-- The rounds that the search makes are enough: where it makes fewer than are asked for, or none
of those beyond, there are more of them than characters to come. -/
theorem rounds_cutOff {a b : Place} {least bound : Nat} {most : Option Nat}
    (hbound : a.rest.length < bound) (hmost : ∀ m ∈ most, least ≤ m) :
    (∃ n, least ≤ n ∧ (∀ m ∈ most, n ≤ m) ∧ Rounds p n a b) ↔
      ∃ k ≤ ((most.map (· - least)).getD bound).min bound,
        Rounds p (least.min bound + k) a b := by
  constructor
  · rintro ⟨n, hl, hm, h⟩
    by_cases hn : n ≤ least.min bound + ((most.map (· - least)).getD bound).min bound
    · refine ⟨n - least.min bound, by omega, ?_⟩
      rwa [Nat.add_sub_cancel' (le_trans (Nat.min_le_left least bound) hl)]
    · -- The counts are cut off at the bound, so they reach it.
      have hcut : bound ≤ least.min bound + ((most.map (· - least)).getD bound).min bound := by
        cases most with
        | none => simp
        | some m =>
          have hnm := hm m rfl
          simp only [Option.map_some, Option.getD_some, Nat.min_def] at hn ⊢
          split_ifs at hn ⊢ <;> omega
      exact ⟨_, le_rfl, h.steady (by omega) (by omega)⟩
  · rintro ⟨k, hk, h⟩
    by_cases hl : least ≤ bound
    · rw [show least.min bound = least from Nat.min_eq_left hl] at h
      refine ⟨least + k, Nat.le_add_right .., ?_, h⟩
      rintro m rfl
      have hmore := le_trans hk (Nat.min_le_left ..)
      have hlm := hmost m rfl
      simp only [Option.map_some, Option.getD_some] at hmore
      omega
    · rw [show least.min bound = bound from Nat.min_eq_right (by omega)] at h
      exact ⟨least, le_rfl, hmost, h.steady (by omega) (by omega)⟩

/-! ### The search -/

theorem isStep_stay {P : Place → Prop} {here : Nat}
    (hp : ∀ {a b}, Matches p a b ↔ a = b ∧ P a)
    (hhere : ∀ i ≤ t.length, here.testBit i = true ↔ P (placeAt t i)) :
    IsStep t p (Overlay.stay here).reach := by
  intro places h j
  rw [Overlay.reach, Nat.testBit_and, Bool.and_eq_true]
  constructor
  · rintro ⟨hj, hP⟩
    exact ⟨j, hj, (leads_stay hp (h j hj)).mpr ⟨(hhere j (h j hj)).mp hP, rfl⟩⟩
  · rintro ⟨i, hi, hij⟩
    obtain ⟨hP, rfl⟩ := (leads_stay hp (h i hi)).mp hij
    exact ⟨hi, (hhere _ (h _ hi)).mpr hP⟩

theorem testBit_rep {body : Overlay} {least more : Nat} (hstep : IsStep t p body.reach)
    (h : IsWithin t places) :
    ((Overlay.rep body least more).reach places).testBit j = true ↔
      ∃ i, places.testBit i = true ∧ ∃ k ≤ more, LeadsBy t p (least + k) i j := by
  have hfirst : ∀ e, (afterExactly body.reach least places).testBit e = true ↔
      ∃ i, places.testBit i = true ∧ LeadsBy t p least i e :=
    fun e => testBit_afterExactly hstep h
  have hin : IsWithin t (afterExactly body.reach least places) := by
    intro e he
    obtain ⟨i, -, he, -⟩ := (hfirst e).mp he
    exact he
  have hall := testBit_afterAtMost (n := more) (j := j) hstep hin (fun _ he => he)
    fun e j he hne => by rw [he] at hne; cases hne
  rw [Overlay.reach]
  refine hall.trans ⟨?_, ?_⟩
  · rintro ⟨k, hk, e, he, hej⟩
    obtain ⟨i, hi, hie⟩ := (hfirst e).mp he
    exact ⟨i, hi, k, hk, (leadsBy_add (h i hi)).mpr ⟨e, hie, hej⟩⟩
  · rintro ⟨i, hi, k, hk, hij⟩
    obtain ⟨e, hie, hej⟩ := (leadsBy_add (h i hi)).mp hij
    exact ⟨k, hk, e, (hfirst e).mpr ⟨i, hi, hie⟩, hej⟩

theorem isStep_rep {least : Nat} {most : Option Nat} (hstep : IsStep t p (overlay t p).reach) :
    IsStep t (.rep p least most) (overlay t (.rep p least most)).reach := by
  intro places h j
  rw [overlay]
  split
  next hnone =>
    obtain ⟨m, rfl, hm⟩ : ∃ m, most = some m ∧ m < least := by
      simpa [Option.any_eq_true] using hnone
    rw [Overlay.reach, Nat.and_zero]
    constructor
    · simp
    · rintro ⟨i, -, -, hij⟩
      obtain ⟨n, hl, hn, -⟩ := matches_rep.mp hij
      have := hn m rfl
      omega
  next hsome =>
    have hmost : ∀ m ∈ most, least ≤ m := by
      rintro m rfl
      simpa using hsome
    rw [testBit_rep hstep h]
    refine exists_congr fun i => and_congr_right fun hi => ?_
    have hbound : (placeAt t i).rest.length < t.length + 1 := by
      rw [length_rest_placeAt]
      omega
    rw [Leads, matches_rep, rounds_cutOff hbound hmost]
    constructor
    · rintro ⟨k, hk, hj, hij⟩
      exact ⟨hj, k, hk, hij⟩
    · rintro ⟨hj, k, hk, hij⟩
      exact ⟨k, hk, hj, hij⟩

theorem isStep_reach (p : Pattern) : IsStep t p (overlay t p).reach := by
  induction p with
  | empty =>
    refine isStep_stay (P := fun _ => True) (by simp [matches_empty]) fun i hi => ?_
    simpa [testBit_everywhere] using hi
  | around test =>
    refine isStep_stay (P := fun a => test a.before a.rest.head? = true) matches_around
      fun i hi => ?_
    rw [testBit_marked, onward_none, List.map_map, List.getElem?_map,
      List.getElem?_range (Nat.lt_succ_of_le hi)]
    simp
  | one test =>
    intro places h j
    rw [overlay, Overlay.reach, testBit_double]
    constructor
    · rintro ⟨i, hi, rfl⟩
      rw [Nat.testBit_and, Bool.and_eq_true, testBit_marked] at hi
      exact ⟨i, hi.1, (leads_one (h i hi.1)).mpr ⟨hi.2, rfl⟩⟩
    · rintro ⟨i, hi, hij⟩
      obtain ⟨htest, rfl⟩ := (leads_one (h i hi)).mp hij
      refine ⟨i, ?_, rfl⟩
      rw [Nat.testBit_and, Bool.and_eq_true, testBit_marked]
      exact ⟨hi, htest⟩
  | seq p q ihp ihq =>
    intro places h j
    rw [overlay, Overlay.reach, ihq _ (ihp.isWithin h)]
    constructor
    · rintro ⟨e, he, hej⟩
      obtain ⟨i, hi, hie⟩ := (ihp places h e).mp he
      exact ⟨i, hi, leads_seq.mpr ⟨e, hie, hej⟩⟩
    · rintro ⟨i, hi, hij⟩
      obtain ⟨e, hie, hej⟩ := leads_seq.mp hij
      exact ⟨e, (ihp places h e).mpr ⟨i, hi, hie⟩, hej⟩
  | alt p q ihp ihq =>
    intro places h j
    rw [overlay, Overlay.reach, Nat.testBit_or, Bool.or_eq_true, ihp places h, ihq places h,
      ← exists_or]
    exact exists_congr fun i => by rw [leads_alt, and_or_left]
  | rep p least most ih => exact isStep_rep ih

/-- The search is right: it finds a pattern just when the pattern is found at some place. -/
theorem isFound_iff : isFound p t = true ↔ ∃ a ∈ Place.onward none t, ∃ b, Matches p a b := by
  have hstep := isStep_reach p (everywhere t) fun i hi => testBit_everywhere.mp hi
  rw [isFound, bne_iff_ne, ← exists_testBit_iff, onward_none]
  constructor
  · rintro ⟨j, hj⟩
    obtain ⟨i, hi, -, hij⟩ := (hstep j).mp hj
    rw [testBit_everywhere] at hi
    exact ⟨placeAt t i, List.mem_map_of_mem (List.mem_range.mpr (by omega)), _, hij⟩
  · rintro ⟨a, ha, b, h⟩
    obtain ⟨i, hi, rfl⟩ := List.mem_map.mp ha
    obtain ⟨j, hj, rfl⟩ := h.exists_placeAt
    rw [List.mem_range] at hi
    exact ⟨j, (hstep j).mpr ⟨i, testBit_everywhere.mpr (by omega), hj, h⟩⟩

end Retint.Pattern
