import Retint.Proofs.Bundle.Finite
import Retint.Proofs.Path
import Retint.Proofs.Text.Order

/-!
# The order of a walk

A walk takes a directory's entries by name and goes down into a directory when its name is reached.
The paths that it finds are then in the order of their components, and not in that of their texts:
what is in `a` comes before `a-b`, though a hyphen comes before a slash. An order of components has
no room for two ways to list the same files, so that nothing is left of the order in which a
directory's entries were given.

## Main definitions

* `Files.Entry.IsProper` — the names in all directories are distinct, and names that files can have
* `Files.Entry.HasFile` — there is a file at a place
* `Files.Entry.walked` — the places of the files in a tree, in walk order
* `Path.key` — the components of a path, as bytes

## Main results

* `Files.Entry.files_eq` — a walk finds the paths to these places
* `Files.Entry.walked_perm` — these are the places of all files
* `Files.Entry.pairwise_walked` — their order is strict
* `Files.Entry.walked_eq_of_perm` — there is no other such order of these places
-/

namespace Retint

namespace Path

/-- The components of a path, as bytes. The order of paths is that of their keys. -/
def key (p : Path) : List (List UInt8) := p.components.map Text.utf8

end Path

namespace Files.Entry

/-! ### Proper trees -/

mutual

/-- The names in all directories of a tree are distinct, and are names that files can have. -/
def IsProper : Entry → Prop
  | file .. => True
  | link _ => True
  | dir entries => (entries.map Prod.fst).Nodup ∧ AreProper entries

/-- The same of the entries of a directory. -/
def AreProper : List (Text × Entry) → Prop
  | [] => True
  | (name, e) :: rest => Path.IsFileName name ∧ e.IsProper ∧ AreProper rest

end

mutual

def decIsProper : (e : Entry) → Decidable e.IsProper
  | file .. => isTrue trivial
  | link _ => isTrue trivial
  | dir entries => @instDecidableAnd _ _ inferInstance (decAreProper entries)

def decAreProper : (entries : List (Text × Entry)) → Decidable (AreProper entries)
  | [] => isTrue trivial
  | (_, e) :: rest =>
    @instDecidableAnd _ _ inferInstance (@instDecidableAnd _ _ (decIsProper e) (decAreProper rest))

end

instance (e : Entry) : Decidable e.IsProper := decIsProper e

/-- There is a file at a place. -/
def HasFile (e : Entry) (names : List Text) : Prop :=
  ∃ content executable, e.at? names = some (.file content executable)

variable {e : Entry} {entries : List (Text × Entry)} {name : Text} {names : List Text}

theorem areProper_iff : AreProper entries ↔ ∀ entry ∈ entries, Path.IsFileName entry.1 ∧
    entry.2.IsProper := by
  induction entries with
  | nil => simp [AreProper]
  | cons entry entries ih =>
    obtain ⟨name, e⟩ := entry
    rw [AreProper, ih, List.forall_mem_cons, and_assoc]

/-- **The places of the files** in a proper tree are those where there is a file. -/
theorem mem_places_iff (h : e.IsProper) : names ∈ e.places ↔ e.HasFile names := by
  refine ⟨fun hmem => ?_, fun ⟨content, executable, hfile⟩ => mem_places hfile⟩
  induction names generalizing e with
  | nil =>
    cases e with
    | file content executable => exact ⟨content, executable, rfl⟩
    | link => cases hmem
    | dir =>
      obtain ⟨name, e, more, -, hcons, -⟩ := mem_placesIn_iff.mp hmem
      cases hcons
  | cons name names ih =>
    cases e with
    | file => simp [places] at hmem
    | link => cases hmem
    | dir entries =>
      obtain ⟨n, e, more, hentry, hcons, hmore⟩ := mem_placesIn_iff.mp hmem
      obtain ⟨rfl, rfl⟩ := List.cons.inj hcons
      obtain ⟨content, executable, hfile⟩ := ih (areProper_iff.mp h.2 _ hentry).2 hmore
      refine ⟨content, executable, ?_⟩
      rw [at?, child?, Dict.lookup_of_mem h.1 hentry]
      exact hfile

theorem isFileName_of_mem_places (h : e.IsProper) (hmem : names ∈ e.places) :
    ∀ name ∈ names, Path.IsFileName name := by
  induction names generalizing e with
  | nil => exact List.forall_mem_nil _
  | cons name names ih =>
    cases e with
    | file => simp [places] at hmem
    | link => cases hmem
    | dir entries =>
      obtain ⟨n, e, more, hentry, hcons, hmore⟩ := mem_placesIn_iff.mp hmem
      obtain ⟨rfl, rfl⟩ := List.cons.inj hcons
      obtain ⟨hname, he⟩ := areProper_iff.mp h.2 _ hentry
      exact List.forall_mem_cons.mpr ⟨hname, ih he hmore⟩

/-! ### Walks -/

mutual

/-- The places of the files in a tree, in the order of a walk. -/
def walked : Entry → List (List Text)
  | file .. => [[]]
  | link _ => []
  | dir entries =>
    ((walkedIn entries).mergeSort fun a b => a.1.le b.1).flatMap fun entry =>
      entry.2.map (entry.1 :: ·)

/-- The names of a directory, each with the places of the files found there. -/
def walkedIn : List (Text × Entry) → List (Text × List (List Text))
  | [] => []
  | (name, e) :: rest => (name, e.walked) :: walkedIn rest

end

mutual

/-- **A walk finds the paths to the places** of the files. -/
theorem files_eq (base : Path) : ∀ e : Entry, e.files base = e.walked.map base.under
  | file .. => rfl
  | link _ => rfl
  | dir entries => by
    have hsort : ((walkedIn entries).map fun entry =>
        (entry.1, entry.2.map (base.join ⟨entry.1⟩).under)).mergeSort (fun a b => a.1.le b.1) =
        ((walkedIn entries).mergeSort fun a b => a.1.le b.1).map fun entry =>
          (entry.1, entry.2.map (base.join ⟨entry.1⟩).under) := by
      refine (List.map_mergeSort ?_).symm
      exact fun _ _ _ _ => rfl
    rw [files, walked, filesIn_eq base entries, hsort, List.flatMap_map, List.map_flatMap]
    simp only [List.map_map]
    rfl

theorem filesIn_eq (base : Path) : ∀ entries : List (Text × Entry),
    filesIn base entries = (walkedIn entries).map fun entry =>
      (entry.1, entry.2.map (base.join ⟨entry.1⟩).under)
  | [] => rfl
  | (name, e) :: rest => by
    rw [filesIn, walkedIn, List.map_cons, files_eq _ e, filesIn_eq base rest]

end

mutual

/-- **A walk leaves no file out,** and finds none twice. -/
theorem walked_perm : ∀ e : Entry, e.walked.Perm e.places
  | file .. => .refl _
  | link _ => .refl _
  | dir entries => ((List.mergeSort_perm _ _).flatMap_right _).trans (walkedIn_perm entries)

theorem walkedIn_perm : ∀ entries : List (Text × Entry),
    ((walkedIn entries).flatMap fun entry => entry.2.map (entry.1 :: ·)).Perm
      (placesIn entries)
  | [] => .refl _
  | (name, e) :: rest => by
    rw [walkedIn, placesIn, List.flatMap_cons]
    exact ((walked_perm e).map _).append (walkedIn_perm rest)

end

/-! ### The order of a walk -/

theorem map_fst_walkedIn (entries : List (Text × Entry)) :
    (walkedIn entries).map Prod.fst = entries.map Prod.fst := by
  induction entries with
  | nil => rfl
  | cons entry entries ih => rw [walkedIn, List.map_cons, List.map_cons, ih]

/-- A directory's entries come in the strict order of their names. -/
theorem pairwise_mergeSort_walkedIn (h : (entries.map Prod.fst).Nodup) :
    ((walkedIn entries).mergeSort fun a b => a.1.le b.1).Pairwise fun a b =>
      Text.utf8 a.1 < Text.utf8 b.1 := by
  have hsorted : ((walkedIn entries).mergeSort fun a b => a.1.le b.1).Pairwise fun a b =>
      a.1.le b.1 = true := by
    refine List.pairwise_mergeSort ?_ ?_ _
    · exact fun _ _ _ => Text.le_trans
    · exact fun a b => Text.le_total a.1 b.1
  have hdistinct : ((walkedIn entries).mergeSort fun a b => a.1.le b.1).Pairwise fun a b =>
      a.1 ≠ b.1 := by
    rw [← map_fst_walkedIn] at h
    exact List.pairwise_map.mp (((List.mergeSort_perm _ _).map Prod.fst).nodup_iff.mpr h)
  exact (hsorted.and hdistinct).imp fun ⟨hle, hne⟩ => Text.utf8_lt_of_le hle hne

mutual

/-- **The order of a walk** is strict. -/
theorem pairwise_walked : ∀ e : Entry, e.IsProper →
    e.walked.Pairwise fun a b => a.map Text.utf8 < b.map Text.utf8
  | file .., _ => List.pairwise_singleton _ _
  | link _, _ => .nil
  | dir entries, h => by
    refine List.pairwise_flatMap.mpr ⟨fun entry hentry => ?_, ?_⟩
    · have hentry := List.mem_mergeSort.mp hentry
      refine List.pairwise_map.mpr ((pairwise_walkedIn entries h.2 entry hentry).imp fun hlt => ?_)
      exact List.cons_lt_cons_iff.mpr (.inr ⟨rfl, hlt⟩)
    · refine (pairwise_mergeSort_walkedIn h.1).imp fun hlt a ha b hb => ?_
      obtain ⟨a, -, rfl⟩ := List.mem_map.mp ha
      obtain ⟨b, -, rfl⟩ := List.mem_map.mp hb
      exact List.cons_lt_cons_iff.mpr (.inl hlt)

theorem pairwise_walkedIn : ∀ entries : List (Text × Entry), AreProper entries →
    ∀ entry ∈ walkedIn entries, entry.2.Pairwise fun a b => a.map Text.utf8 < b.map Text.utf8
  | [], _ => List.forall_mem_nil _
  | (_, e) :: rest, h =>
    List.forall_mem_cons.mpr ⟨pairwise_walked e h.2.1, pairwise_walkedIn rest h.2.2⟩

end

/-- **The files of a walk** are in the strict order of their components. -/
theorem pairwise_files (h : e.IsProper) (base : Path) :
    (e.files base).Pairwise fun p q => p.key < q.key := by
  rw [files_eq, List.pairwise_map]
  refine (pairwise_walked e h).imp_of_mem fun ha hb hlt => ?_
  have hnames := fun names hmem =>
    isFileName_of_mem_places h ((walked_perm e).mem_iff (a := names) |>.mp hmem)
  rw [Path.key, Path.key, Path.components_under base (hnames _ ha),
    Path.components_under base (hnames _ hb), List.map_append, List.map_append]
  exact List.append_left_lt hlt

/-- What has all places of files in strict order is the walk. -/
theorem walked_eq_of_perm (h : e.IsProper) {found : List (List Text)}
    (hperm : found.Perm e.places)
    (hordered : found.Pairwise fun a b => a.map Text.utf8 < b.map Text.utf8) :
    e.walked = found :=
  ((walked_perm e).trans hperm.symm).eq_of_pairwise
    (fun _ _ _ _ hab hba => absurd hba (List.lt_asymm hab)) (pairwise_walked e h) hordered

/-- **Nothing is left of the order in which entries are given.** Two trees with files at the same
places are walked in the same order. -/
theorem walked_congr {e' : Entry} (h : e.IsProper) (h' : e'.IsProper)
    (hsame : ∀ names, e.HasFile names ↔ e'.HasFile names) : e.walked = e'.walked := by
  have hnodup : ∀ e : Entry, e.IsProper → e.walked.Nodup := by
    intro e he
    refine (pairwise_walked e he).imp fun {a b} hlt heq => ?_
    rw [heq] at hlt
    exact List.lt_irrefl _ hlt
  have hperm : e.walked.Perm e'.walked := by
    rw [List.perm_ext_iff_of_nodup (hnodup e h) (hnodup e' h')]
    intro names
    rw [(walked_perm e).mem_iff, (walked_perm e').mem_iff, mem_places_iff h, mem_places_iff h']
    exact hsame names
  exact walked_eq_of_perm h (hperm.symm.trans (walked_perm e)) (pairwise_walked e' h')

end Files.Entry

end Retint
