import Mathlib.Data.Finset.Card
import Retint.Proofs.Colors.Attribution

/-!
# The order of a color table

The colors of a table are put back one after the other, so that the first of two names with the same
color gets all of its occurrences. A table is filled by insertions: a name goes to the end when it
arrives first, and stays there whatever color is put under it later. For a table that is read off a
stylesheet this is the order of the places where the rules that look like probes stand. A rule
counts only if it has come to a color; one that has not is passed over, and the next of its name is
the one that decides about the place.

## Main definitions

* `ColorTable.StandsAt` — a rule that has come to a color stands at a place of a stylesheet

## Main results

* `ColorTable.size_ofList` — the size of a table
* `ColorTable.exists_place` — the order of what is found at places one after the other
* `ColorTable.exists_first`, `ColorTable.exists_last` — what arrives first stands first, and what is
  kept stands last
* `ColorTable.insertion_ordered` — the headline
-/

namespace Retint.ColorTable

open Text Declaration

variable {css key color other a b : Text} {place : Nat}

/-- The size of a table is the number of different names that have been put into it. -/
theorem size_ofList (inserts : List (Text × Text)) :
    (Dict.ofList inserts).size = (inserts.map Prod.fst).toFinset.card := by
  have hordered := Dict.isOrderedBy_ofList inserts
  have hset : (Dict.ofList inserts).names.toFinset = (inserts.map Prod.fst).toFinset := by
    ext name
    rw [List.mem_toFinset, List.mem_toFinset, hordered.mem_names]
  rw [← hset, List.toFinset_card_of_nodup hordered.nodup, Dict.names, List.length_map, Dict.size]

/-! ### Places -/

/-- What is found at places one after the other: what comes before an entry is found at earlier
places, and what comes after it at later ones. -/
theorem exists_place {f : Nat → Option (Text × Text)} {n : Nat} {e : Text × Text}
    {before after : List (Text × Text)} (h : (List.range n).filterMap f = before ++ e :: after) :
    ∃ p < n, f p = some e ∧
      (∀ q < p, ∀ e', f q = some e' → e' ∈ before) ∧
      ∀ q < n, p < q → ∀ e', f q = some e' → e' ∈ after := by
  -- The places fall into those of what comes before, a gap, the place of the entry, and the rest.
  obtain ⟨l, rest, hrange, rfl, hrest⟩ := List.filterMap_eq_append_iff.mp h
  obtain ⟨gap, p, l', rfl, hgap, hp, rfl⟩ := List.filterMap_eq_cons_iff.mp hrest
  have hsorted := List.pairwise_lt_range (n := n)
  rw [hrange, List.pairwise_append, List.pairwise_append] at hsorted
  obtain ⟨-, ⟨-, hlater, -⟩, hearlier⟩ := hsorted
  have hcases : ∀ q < n, q ∈ l ∨ q ∈ gap ∨ q = p ∨ q ∈ l' := by
    intro q hq
    have hmem : q ∈ l ++ (gap ++ p :: l') := hrange ▸ List.mem_range.mpr hq
    simpa only [List.mem_append, List.mem_cons] using hmem
  have hpn : p < n := List.mem_range.mp (by rw [hrange]; simp)
  have hnone : ∀ q ∈ gap, ∀ e', f q ≠ some e' := by
    intro q hq e' he'
    rw [hgap q hq] at he'
    cases he'
  refine ⟨p, hpn, hp, fun q hq e' he' => ?_, fun q hqn hq e' he' => ?_⟩
  · rcases hcases q (Nat.lt_trans hq hpn) with hm | hm | rfl | hm
    · exact List.mem_filterMap.mpr ⟨q, hm, he'⟩
    · exact absurd he' (hnone q hm e')
    · exact absurd hq (Nat.lt_irrefl q)
    · exact absurd hq (Nat.lt_asymm ((List.pairwise_cons.mp hlater).1 q hm))
  · rcases hcases q hqn with hm | hm | rfl | hm
    · exact absurd hq (Nat.lt_asymm (hearlier q hm p (by simp)))
    · exact absurd he' (hnone q hm e')
    · exact absurd hq (Nat.lt_irrefl q)
    · exact List.mem_filterMap.mpr ⟨q, hm, he'⟩

/-- At this place of the stylesheet stands a rule that looks like a probe and has come to a color:
its selector ends in the name, written as a class, and the color is the value of its first property,
which reaches to the last semicolon of the line. -/
def StandsAt (css key color : Text) (place : Nat) : Prop :=
  ∃ name value after,
    css.drop place = '.' :: (name ++ (" \x7b\n  color: ".toList ++ (value ++ ';' :: after))) ∧
      key = '@' :: name ∧ IsMarked key ∧ '\n' ∉ value ∧ ';' ∉ after.takeWhile (· != '\n') ∧
      color = trim value ∧ ("#".toList <+: color ∨ "rgba".toList <+: color)

theorem standsAt_iff :
    StandsAt css key color place ↔ (ruleAt css place).bind reading = some (key, color) := by
  constructor
  · rintro ⟨name, value, after, hdrop, rfl, ⟨⟨m, hm, hclass⟩, hmark⟩, hline, hlast, rfl, hcolor⟩
    obtain rfl := (List.cons.inj hm).2
    have hmark' : '-' ∈ name ∨ '\'' ∈ name := by simpa using hmark
    have hprobe := probe?_eq_some_iff.mpr ⟨after, hdrop, hclass, hmark', hline, hlast, rfl⟩
    have hconcrete : isConcrete (trim value) = true := by
      rw [isConcrete_eq]
      exact decide_eq_true hcolor
    rw [ruleAt, hprobe, Option.map_some, Option.bind_some, reading, if_pos hconcrete]
  · intro h
    obtain ⟨rule, hrule, hreading⟩ := Option.bind_eq_some_iff.mp h
    obtain ⟨⟨name, value, n⟩, hprobe, rfl⟩ := Option.map_eq_some_iff.mp hrule
    obtain ⟨hconcrete, heq⟩ := Option.ite_none_right_eq_some.mp hreading
    obtain ⟨rfl, rfl⟩ := Prod.mk.inj (Option.some.inj heq)
    obtain ⟨after, hdrop, hclass, hmark, hline, hlast, -⟩ := probe?_eq_some_iff.mp hprobe
    rw [isConcrete_eq] at hconcrete
    exact ⟨name, value, after, hdrop, rfl, ⟨⟨name, rfl, hclass⟩, hmark.imp
      (List.mem_cons_of_mem _) (List.mem_cons_of_mem _)⟩, hline, hlast, rfl,
      of_decide_eq_true hconcrete⟩

theorem StandsAt.lt (h : StandsAt css key color place) : place < css.length := by
  obtain ⟨name, value, after, hdrop, -⟩ := h
  rw [← Nat.not_le, ← List.drop_eq_nil_iff, hdrop]
  exact List.cons_ne_nil _ _

/-- At one place there is one name and one color. -/
theorem StandsAt.unique (h : StandsAt css a color place) (h' : StandsAt css b other place) :
    a = b ∧ color = other := by
  rw [standsAt_iff] at h h'
  exact Prod.mk.inj (Option.some.inj (h.symm.trans h'))

/-! ### Tables that are read -/

/-- What is learned from a stylesheet, in the order of the places. -/
def readings (css : Text) : List (Text × Text) :=
  (List.range css.length).filterMap fun place => (ruleAt css place).bind reading

theorem ofCss_eq_readings (css : Text) :
    ofCss css = Dict.ofList (readings (stripComments css)) := by
  rw [ofCss_eq_ofList, probes_eq_rulesIn, rulesIn, List.filterMap_filterMap, readings]

theorem mem_readings_iff : key ∈ (readings css).map Prod.fst ↔
    ∃ color place, StandsAt css key color place := by
  simp only [readings, List.mem_map, List.mem_filterMap, List.mem_range]
  constructor
  · rintro ⟨⟨key, color⟩, ⟨place, -, h⟩, rfl⟩
    exact ⟨color, place, standsAt_iff.mpr h⟩
  · rintro ⟨color, place, h⟩
    exact ⟨(key, color), ⟨place, h.lt, standsAt_iff.mp h⟩, rfl⟩

/-- What arrives first stands first. -/
theorem exists_first (h : Dict.ArrivesBefore (readings css) a b) (hne : a ≠ b) :
    ∃ color place, StandsAt css a color place ∧
      ∀ color' place', StandsAt css b color' place' → place < place' := by
  obtain ⟨before, color, after, hsplit, hb⟩ := h
  obtain ⟨p, -, hp, hearlier, -⟩ := exists_place hsplit
  have hfirst : StandsAt css a color p := standsAt_iff.mpr hp
  refine ⟨color, p, hfirst, fun color' q hq => ?_⟩
  rcases Nat.lt_trichotomy p q with hlt | rfl | hlt
  · exact hlt
  · exact absurd (hfirst.unique hq).1 hne
  · exact absurd (List.mem_map_of_mem (hearlier q hlt _ (standsAt_iff.mp hq))) hb

/-- What is kept under a name stands last. -/
theorem exists_last (h : (Dict.ofList (readings css)).get? key = some color) :
    ∃ place, StandsAt css key color place ∧
      ∀ color' place', StandsAt css key color' place' → place' ≤ place := by
  obtain ⟨before, after, hsplit, hafter⟩ := Dict.get?_ofList_eq_some_iff.mp h
  obtain ⟨p, -, hp, -, hlater⟩ := exists_place hsplit
  refine ⟨p, standsAt_iff.mpr hp, fun color' q hq => Nat.le_of_not_lt fun hlt => hafter ?_⟩
  exact List.mem_map_of_mem (hlater q hq.lt hlt _ (standsAt_iff.mp hq))

theorem get?_readings_iff : (Dict.ofList (readings css)).get? key = some color ↔
    ∃ place, StandsAt css key color place ∧
      ∀ color' place', StandsAt css key color' place' → place' ≤ place := by
  refine ⟨exists_last, ?_⟩
  rintro ⟨p, hp, hlast⟩
  cases hget : (Dict.ofList (readings css)).get? key with
  | none =>
    exact absurd (mem_readings_iff.mpr ⟨color, p, hp⟩) (Dict.get?_ofList_eq_none_iff.mp hget)
  | some other =>
    obtain ⟨q, hq, hlast'⟩ := exists_last hget
    obtain rfl : p = q := Nat.le_antisymm (hlast' color p hp) (hlast other q hq)
    rw [(hp.unique hq).2]

/-- **A table is in the order of first insertion.** Insert any names with their colors into an empty
table. Its names are those that were inserted, each once, and of two names the one that was inserted
first comes first. Under a name is the color that was inserted last, and none if it was not
inserted. The size is the number of different names.

In a table that is read off a stylesheet, the names are those of the rules that look like probes and
have come to a color, once comments are stripped. Of two names the one comes first that stands first
in the stylesheet, and the color of a name is the one that stands last. The names are put back into
a stylesheet in this order. -/
theorem insertion_ordered (inserts : List (Text × Text)) (css : Text) :
    let table : ColorTable := Dict.ofList inserts
    let found := ofCss css
    let text := stripComments css
    (table.names.Nodup ∧
      (∀ name, name ∈ table.names ↔ name ∈ inserts.map Prod.fst) ∧
      table.names.Pairwise (Dict.ArrivesBefore inserts) ∧
      (∀ name color, table.get? name = some color ↔
        ∃ before after, inserts = before ++ (name, color) :: after ∧ name ∉ after.map Prod.fst) ∧
      (∀ name, table.get? name = none ↔ name ∉ inserts.map Prod.fst) ∧
      table.size = (inserts.map Prod.fst).toFinset.card) ∧
    (∀ name, name ∈ found.names ↔ ∃ color place, StandsAt text name color place) ∧
    found.names.Pairwise (fun a b => ∃ color place, StandsAt text a color place ∧
      ∀ color' place', StandsAt text b color' place' → place < place') ∧
    (∀ name color, found.get? name = some color ↔ ∃ place, StandsAt text name color place ∧
      ∀ color' place', StandsAt text name color' place' → place' ≤ place) ∧
    ∃ entries : List (Text × Text), entries.map Prod.fst = found.names ∧
      (∀ e ∈ entries, found.get? e.1 = some e.2) ∧
      ∀ sheet, substitute found sheet = entries.foldl substituteOne sheet := by
  intro table found text
  have htable : Dict.IsOrderedBy inserts table := Dict.isOrderedBy_ofList inserts
  have hfound : found = Dict.ofList (readings text) := ofCss_eq_readings css
  have hordered : Dict.IsOrderedBy (readings text) found := hfound ▸ Dict.isOrderedBy_ofList _
  refine ⟨⟨htable.nodup, htable.mem_names, htable.order,
    fun name color => Dict.get?_ofList_eq_some_iff, fun name => Dict.get?_ofList_eq_none_iff,
    size_ofList inserts⟩, fun name => ?_, ?_, fun name color => ?_, found.entries, rfl, ?_, ?_⟩
  · exact (hordered.mem_names name).trans mem_readings_iff
  · exact (hordered.order.and hordered.nodup).imp fun ⟨h, hne⟩ => exists_first h hne
  · rw [hfound]
    exact get?_readings_iff
  · exact fun e he => Dict.lookup_of_mem hordered.nodup he
  · exact fun sheet => rfl

/-- A later color takes the place of an earlier one and leaves the name where it is. -/
example :
    (ofCss (Probe.compiled "a-b".toList "#111".toList ++
      Probe.compiled "c-d".toList "#222".toList ++
      Probe.compiled "a-b".toList "#333".toList)).entries =
        [("@a-b".toList, "#333".toList), ("@c-d".toList, "#222".toList)] := by
  decide

end Retint.ColorTable
