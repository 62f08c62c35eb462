import Retint.Text

/-!
# Dictionaries in insertion order

A `Dict` maps names to values and remembers the order in which the names first arrived. Inserting
under a known name replaces the value and leaves the name where it is.

## Main definitions

* `Dict.insert`, `Dict.erase`, `Dict.get?`, `Dict.names`, `Dict.merge`
* `Dict.sorted` — the entries by name, for output that must not depend on the order of arrival

## Main results

* `Dict.get?_insert` — the law of look-up after insertion
* `Dict.get?_erase` — the law of look-up after removal
* `Dict.names_insert` — a new name goes to the end, a known one stays where it is
-/

namespace Retint

/-- Names with their values, in the order of first insertion. -/
structure Dict (α : Type) where
  entries : List (Text × α) := []
deriving Repr, DecidableEq

namespace Dict

variable {α : Type}

def empty : Dict α := ⟨[]⟩

/-- Puts `value` under `name` into a list of entries: in place if the name is there, else last. -/
def put (name : Text) (value : α) : List (Text × α) → List (Text × α)
  | [] => [(name, value)]
  | (n, v) :: rest => if n = name then (n, value) :: rest else (n, v) :: put name value rest

def insert (d : Dict α) (name : Text) (value : α) : Dict α := ⟨put name value d.entries⟩

/-- The dictionary without a name. -/
def erase (d : Dict α) (name : Text) : Dict α := ⟨d.entries.filter fun e => e.1 != name⟩

def get? (d : Dict α) (name : Text) : Option α := d.entries.lookup name

def contains (d : Dict α) (name : Text) : Bool := (d.get? name).isSome

def names (d : Dict α) : List Text := d.entries.map Prod.fst

def size (d : Dict α) : Nat := d.entries.length

def isEmpty (d : Dict α) : Bool := d.entries.isEmpty

def ofList (entries : List (Text × α)) : Dict α :=
  entries.foldl (fun d (name, value) => d.insert name value) empty

/-- The entries of `e` inserted into `d`: where both have a name, the value of `e` stands. -/
def merge (d e : Dict α) : Dict α :=
  e.entries.foldl (fun d (name, value) => d.insert name value) d

/-- The entries in the order of their names. -/
def sorted (d : Dict α) : List (Text × α) := d.entries.mergeSort fun a b => a.1.le b.1

/-! ### Laws of insertion -/

theorem lookup_put (name key : Text) (value : α) (entries : List (Text × α)) :
    (put name value entries).lookup key =
      if key = name then some value else entries.lookup key := by
  induction entries with
  | nil =>
    by_cases h : key = name
    · simp [put, h]
    · simp [put, List.lookup_cons, h, beq_eq_false_iff_ne.2 h]
  | cons entry rest ih =>
    obtain ⟨n, v⟩ := entry
    by_cases hn : n = name
    · subst hn
      by_cases hk : key = n
      · simp [put, hk]
      · simp [put, List.lookup_cons, hk, beq_eq_false_iff_ne.2 hk]
    · by_cases hk : key = n
      · subst hk
        simp [put, hn]
      · simp [put, hn, List.lookup_cons, beq_eq_false_iff_ne.2 hk, ih]

theorem get?_insert (d : Dict α) (name key : Text) (value : α) :
    (d.insert name value).get? key = if key = name then some value else d.get? key :=
  lookup_put name key value d.entries

theorem get?_erase (d : Dict α) (name key : Text) :
    (d.erase name).get? key = if key = name then none else d.get? key := by
  obtain ⟨entries⟩ := d
  induction entries with
  | nil => simp [erase, get?]
  | cons entry rest ih =>
    obtain ⟨n, v⟩ := entry
    simp only [erase, get?] at ih ⊢
    by_cases hn : n = name
    · subst hn
      by_cases hk : key = n
      · simpa [hk] using ih
      · simpa [hk, List.lookup_cons, beq_eq_false_iff_ne.2 hk] using ih
    · by_cases hk : key = n
      · subst hk
        simp [hn]
      · simpa [hn, hk, List.lookup_cons, beq_eq_false_iff_ne.2 hk] using ih

theorem names_put (name : Text) (value : α) (entries : List (Text × α)) :
    (put name value entries).map Prod.fst =
      if name ∈ entries.map Prod.fst then entries.map Prod.fst
      else entries.map Prod.fst ++ [name] := by
  induction entries with
  | nil => simp [put]
  | cons entry rest ih =>
    obtain ⟨n, v⟩ := entry
    by_cases hn : n = name
    · simp [put, hn]
    · have hn' : name ≠ n := fun h => hn h.symm
      by_cases hm : name ∈ rest.map Prod.fst <;> simp_all [put]

theorem names_insert (d : Dict α) (name : Text) (value : α) :
    (d.insert name value).names = if name ∈ d.names then d.names else d.names ++ [name] :=
  names_put name value d.entries

end Dict

end Retint
