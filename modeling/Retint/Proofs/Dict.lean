import Retint.Dict

/-!
# Dictionaries made of lists

A dictionary that is filled from a list of entries answers with the last value under a name, and
holds nothing but what was put into it. Its names are in the order of their first arrival.

## Main definitions

* `Dict.ArrivesBefore` — the order of arrival in a list
* `Dict.IsOrderedBy` — a dictionary has the names of a list in this order

## Main results

* `Dict.get?_ofList`, `Dict.get?_ofList_eq_some_iff` — look-up in a dictionary made of a list
* `Dict.isOrderedBy_ofList` — its names in their order
* `Dict.mem_ofList` — its entries come from the list
* `Dict.lookup_of_mem` — look-up in a list without double names
* `Dict.get?_merge` — look-up in two dictionaries that are merged
-/

namespace Retint.Dict

variable {α : Type} {l : List (Text × α)} {e : Text × α}

theorem mem_put {name : Text} {value : α} (h : e ∈ put name value l) :
    e = (name, value) ∨ e ∈ l := by
  induction l with
  | nil => exact .inl (List.mem_singleton.mp h)
  | cons entry l ih =>
    obtain ⟨n, v⟩ := entry
    rw [put] at h
    split at h
    · rename_i hn
      rcases List.mem_cons.mp h with rfl | h
      · exact .inl (by rw [hn])
      · exact .inr (List.mem_cons_of_mem _ h)
    · rcases List.mem_cons.mp h with rfl | h
      · exact .inr (List.mem_cons_self ..)
      · exact (ih h).imp_right (List.mem_cons_of_mem _)

theorem mem_foldl_insert {d : Dict α}
    (h : e ∈ (l.foldl (fun d (name, value) => d.insert name value) d).entries) :
    e ∈ d.entries ∨ e ∈ l := by
  induction l generalizing d with
  | nil => exact .inl h
  | cons entry l ih =>
    rcases ih h with h | h
    · rcases mem_put h with rfl | h
      · exact .inr (List.mem_cons_self ..)
      · exact .inl h
    · exact .inr (List.mem_cons_of_mem _ h)

/-- A dictionary made of a list holds nothing that is not in the list. -/
theorem mem_ofList (h : e ∈ (ofList l).entries) : e ∈ l :=
  (mem_foldl_insert h).resolve_left List.not_mem_nil

theorem get?_foldl_insert (d : Dict α) (key : Text) :
    (l.foldl (fun d (name, value) => d.insert name value) d).get? key =
      (l.reverse.lookup key).or (d.get? key) := by
  induction l generalizing d with
  | nil => rfl
  | cons entry l ih =>
    obtain ⟨n, v⟩ := entry
    rw [List.foldl_cons, ih, get?_insert, List.reverse_cons, List.lookup_append, Option.or_assoc]
    congr 1
    by_cases hk : key = n
    · simp [hk]
    · simp [hk, List.lookup_cons, beq_eq_false_iff_ne.mpr hk]

/-- Of two values under a name the later one counts. -/
theorem get?_ofList (l : List (Text × α)) (key : Text) :
    (ofList l).get? key = l.reverse.lookup key := by
  rw [ofList, get?_foldl_insert]
  exact Option.or_none

theorem lookup_eq_none {key : Text} (h : key ∉ l.map Prod.fst) : l.lookup key = none := by
  rw [List.lookup_eq_none_iff]
  intro p hp
  exact bne_iff_ne.mpr fun hk => h (List.mem_map.mpr ⟨p, hp, hk.symm⟩)

theorem lookup_of_mem {name : Text} {value : α} (hl : (l.map Prod.fst).Nodup)
    (h : (name, value) ∈ l) : l.lookup name = some value := by
  induction l with
  | nil => exact absurd h List.not_mem_nil
  | cons entry l ih =>
    obtain ⟨n, v⟩ := entry
    obtain ⟨hn, hl⟩ := List.nodup_cons.mp hl
    rcases List.mem_cons.mp h with heq | h
    · obtain ⟨rfl, rfl⟩ := Prod.mk.inj heq
      simp
    · have hne : name ≠ n := by
        intro heq
        exact hn (List.mem_map.mpr ⟨_, h, heq⟩)
      rw [List.lookup_cons, beq_eq_false_iff_ne.mpr hne]
      exact ih hl h

theorem mem_of_lookup {name : Text} {value : α} (h : l.lookup name = some value) :
    (name, value) ∈ l := by
  obtain ⟨a, b, rfl, -⟩ := List.lookup_eq_some_iff.mp h
  simp

/-- Without double names the order does not matter. -/
theorem lookup_reverse (hl : (l.map Prod.fst).Nodup) (key : Text) :
    l.reverse.lookup key = l.lookup key := by
  cases h : l.lookup key with
  | none =>
    refine lookup_eq_none fun hk => ?_
    obtain ⟨⟨n, v⟩, he, rfl⟩ := List.mem_map.mp hk
    rw [lookup_of_mem hl (List.mem_reverse.mp he)] at h
    cases h
  | some value =>
    refine lookup_of_mem ?_ (List.mem_reverse.mpr (mem_of_lookup h))
    rw [List.map_reverse]
    exact (List.reverse_perm _).nodup_iff.mpr hl

variable {d d' : Dict α}

/-! ### The order of arrival -/

/-- The first name arrives in the list while the second has not arrived yet. -/
def ArrivesBefore (l : List (Text × α)) (a b : Text) : Prop :=
  ∃ before value after, l = before ++ (a, value) :: after ∧ b ∉ before.map Prod.fst

variable {a b : Text}

theorem ArrivesBefore.append (h : ArrivesBefore l a b) (more : List (Text × α)) :
    ArrivesBefore (l ++ more) a b := by
  obtain ⟨before, value, after, rfl, hb⟩ := h
  exact ⟨before, value, after ++ more, by rw [List.append_assoc, List.cons_append], hb⟩

theorem arrivesBefore_of_mem (ha : a ∈ l.map Prod.fst) (hb : b ∉ l.map Prod.fst) :
    ArrivesBefore l a b := by
  obtain ⟨⟨a, value⟩, hmem, rfl⟩ := List.mem_map.mp ha
  obtain ⟨before, after, rfl⟩ := List.append_of_mem hmem
  rw [List.map_append] at hb
  exact ⟨before, value, after, rfl, fun hm => hb (List.mem_append_left _ hm)⟩

theorem nodup_names_insert (h : d.names.Nodup) (name : Text) (value : α) :
    (d.insert name value).names.Nodup := by
  rw [names_insert]
  split
  · exact h
  · rename_i hname
    exact List.nodup_append.mpr ⟨h, List.pairwise_singleton .., fun n hn m hm heq => hname <|
      List.mem_singleton.mp hm ▸ heq ▸ hn⟩

/-- The dictionary has the names of the list, each once, in the order in which they first arrive. -/
structure IsOrderedBy (l : List (Text × α)) (d : Dict α) : Prop where
  mem_names : ∀ name, name ∈ d.names ↔ name ∈ l.map Prod.fst
  nodup : d.names.Nodup
  order : d.names.Pairwise (ArrivesBefore l)

/-- A known name stays where it is, and a new one comes after all that have arrived before. -/
theorem IsOrderedBy.insert (h : IsOrderedBy l d) (name : Text) (value : α) :
    IsOrderedBy (l ++ [(name, value)]) (d.insert name value) where
  mem_names key := by
    rw [names_insert, List.map_append, List.mem_append, ← h.mem_names]
    split
    · rename_i hname
      refine ⟨.inl, fun hm => hm.elim id fun hm => ?_⟩
      rw [List.mem_singleton.mp hm]
      exact hname
    · exact List.mem_append
  nodup := nodup_names_insert h.nodup name value
  order := by
    have hold := h.order.imp fun h => h.append [(name, value)]
    rw [names_insert]
    split
    · exact hold
    · rename_i hname
      refine List.pairwise_append.mpr ⟨hold, List.pairwise_singleton .., fun a ha b hb => ?_⟩
      obtain rfl := List.mem_singleton.mp hb
      rw [h.mem_names] at ha hname
      exact (arrivesBefore_of_mem ha hname).append _

theorem IsOrderedBy.foldl_insert (h : IsOrderedBy l d) (more : List (Text × α)) :
    IsOrderedBy (l ++ more) (more.foldl (fun d (name, value) => d.insert name value) d) := by
  induction more generalizing l d with
  | nil =>
    rw [List.append_nil]
    exact h
  | cons entry more ih =>
    rw [List.append_cons]
    exact ih (h.insert entry.1 entry.2)

/-- **A dictionary made of a list has its names in the order of their first arrival.** -/
theorem isOrderedBy_ofList (l : List (Text × α)) : IsOrderedBy l (ofList l) :=
  IsOrderedBy.foldl_insert (l := []) ⟨fun _ => Iff.rfl, List.nodup_nil, List.Pairwise.nil⟩ l

/-- The value under a name is the one that arrives last. -/
theorem get?_ofList_eq_some_iff {name : Text} {value : α} : (ofList l).get? name = some value ↔
    ∃ before after, l = before ++ (name, value) :: after ∧ name ∉ after.map Prod.fst := by
  rw [get?_ofList, List.lookup_eq_some_iff]
  constructor
  · rintro ⟨later, earlier, hl, hlater⟩
    refine ⟨earlier.reverse, later.reverse, ?_, fun hm => ?_⟩
    · rw [← List.reverse_reverse l, hl, List.reverse_append, List.reverse_cons, List.append_assoc,
        List.singleton_append]
    · rw [List.map_reverse, List.mem_reverse, List.mem_map] at hm
      obtain ⟨e, he, heq⟩ := hm
      exact bne_iff_ne.mp (hlater e he) heq.symm
  · rintro ⟨before, after, rfl, hafter⟩
    refine ⟨after.reverse, before.reverse, ?_, fun e he => ?_⟩
    · rw [List.reverse_append, List.reverse_cons, List.append_assoc, List.singleton_append]
    · refine bne_iff_ne.mpr fun heq => hafter ?_
      exact List.mem_map.mpr ⟨e, List.mem_reverse.mp he, heq.symm⟩

theorem get?_ofList_eq_none_iff {name : Text} :
    (ofList l).get? name = none ↔ name ∉ l.map Prod.fst := by
  rw [get?_ofList, List.lookup_eq_none_iff]
  constructor
  · intro h hm
    obtain ⟨e, he, heq⟩ := List.mem_map.mp hm
    exact bne_iff_ne.mp (h e (List.mem_reverse.mpr he)) heq.symm
  · intro h
    rw [← List.lookup_eq_none_iff]
    refine lookup_eq_none ?_
    rwa [List.map_reverse, List.mem_reverse]

/-! ### Merging -/

/-- In a merged dictionary the values of the second one stand before those of the first. -/
theorem get?_merge (d : Dict α) (h : d'.names.Nodup) (key : Text) :
    (d.merge d').get? key = (d'.get? key).or (d.get? key) := by
  rw [merge, get?_foldl_insert, lookup_reverse h]
  rfl

end Retint.Dict
