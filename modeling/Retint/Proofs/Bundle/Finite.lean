import Retint.Bundle
import Retint.Proofs.Dict
import Retint.Proofs.Text.Lines

/-!
# Finitely many files

The search for imports ends because there are finitely many files that it can open. In a file tree
these are the files of the tree: a canonical path leads to the place that it spells, so that two
canonical paths do not lead to one file.

## Main definitions

* `Bundle.Source.IsBoundedBy` — there are at most so many files
* `FileSystem.IsPlace` — the names on the way to a place, none of which is a link
* `Files.Entry.places` — the places of the files in a tree

## Main results

* `Files.Entry.length_places` — a tree has as many files as places of files
* `FileSystem.place?_pathTo` — a canonical path leads to the place that it spells
* `Bundle.isBoundedBy_treeSource` — the files of a tree are no more than it has
-/

namespace Retint

/-! ### Places in a tree -/

namespace Files.Entry

mutual

/-- The places of the files in a tree. -/
def places : Entry → List (List Text)
  | file .. => [[]]
  | link _ => []
  | dir entries => placesIn entries

def placesIn : List (Text × Entry) → List (List Text)
  | [] => []
  | (name, e) :: rest => (places e).map (name :: ·) ++ placesIn rest

end

mutual

theorem length_places : ∀ e : Entry, e.places.length = e.fileCount
  | file .. => rfl
  | link _ => rfl
  | dir entries => length_placesIn entries

theorem length_placesIn : ∀ entries : List (Text × Entry),
    (placesIn entries).length = fileCountIn entries
  | [] => rfl
  | (_, e) :: rest => by
    rw [placesIn, fileCountIn, List.length_append, List.length_map, length_places e,
      length_placesIn rest]

end

theorem mem_placesIn_iff {names : List Text} {entries : List (Text × Entry)} :
    names ∈ placesIn entries ↔
      ∃ name e more, (name, e) ∈ entries ∧ names = name :: more ∧ more ∈ e.places := by
  induction entries with
  | nil => simp [placesIn]
  | cons entry entries ih =>
    obtain ⟨n, e⟩ := entry
    rw [placesIn, List.mem_append, ih, List.mem_map]
    constructor
    · rintro (⟨more, hmore, rfl⟩ | ⟨name, e', more, hentry, rfl, hmore⟩)
      · exact ⟨n, e, more, List.mem_cons_self .., rfl, hmore⟩
      · exact ⟨name, e', more, List.mem_cons_of_mem _ hentry, rfl, hmore⟩
    · rintro ⟨name, e', more, hentry, rfl, hmore⟩
      rcases List.mem_cons.mp hentry with heq | hentry
      · obtain ⟨rfl, rfl⟩ := Prod.mk.inj heq
        exact .inl ⟨more, hmore, rfl⟩
      · exact .inr ⟨name, e', more, hentry, rfl, hmore⟩

theorem mem_places {e : Entry} {names : List Text} {content : Content} {executable : Bool}
    (h : e.at? names = some (.file content executable)) : names ∈ e.places := by
  induction names generalizing e with
  | nil =>
    obtain rfl := Option.some.inj h
    exact List.mem_singleton_self []
  | cons name names ih =>
    cases e with
    | dir entries =>
      obtain ⟨child, hchild, hrest⟩ := Option.bind_eq_some_iff.1 h
      exact mem_placesIn_iff.mpr ⟨name, child, names, Dict.mem_of_lookup hchild, rfl, ih hrest⟩
    | file => cases h
    | link => cases h

end Files.Entry

/-! ### Canonical paths -/

namespace FileSystem

open Files

/-- The names on the way to a place, the last one first. They are names that a path can spell, and
none of them is a link. -/
inductive IsPlace (fs : FileSystem) : List Text → Prop
  | root : IsPlace fs []
  | cons {place : List Text} {name : Text} {entries : List (Text × Entry)} {e : Entry}
      (h : IsPlace fs place) (hdir : fs.root.at? place.reverse = some (.dir entries))
      (hentry : entries.lookup name = some e) (hlink : ∀ target, e ≠ .link target)
      (hname : name ≠ [] ∧ name ≠ ['.'] ∧ name ≠ ['.', '.'] ∧ '/' ∉ name)
      (hsize : Text.size name ≤ nameLimit) : IsPlace fs (name :: place)

variable {fs : FileSystem} {place place' ps names : List Text}

theorem IsPlace.tail (h : IsPlace fs place) : IsPlace fs place.tail := by
  cases h with
  | root => exact .root
  | cons h => exact h

theorem IsPlace.not_mem (h : IsPlace fs place) {name : Text} (hname : name ∈ place) :
    '/' ∉ name := by
  induction h with
  | root => cases hname
  | cons _ _ _ _ hproper _ ih =>
    rcases List.mem_cons.1 hname with rfl | hname
    · exact hproper.2.2.2
    · exact ih hname

/-- Where going along a path has come to is a place. -/
def Stop.IsPlace (fs : FileSystem) : Stop → Prop
  | .arrived place => fs.IsPlace place
  | .atLink _ place rest => fs.IsPlace place ∧ ∀ part ∈ rest, '/' ∉ part
  | .missing .. => True
  | .fault _ => True

theorem isPlace_go (hplace : IsPlace fs place) (hparts : ∀ part ∈ ps, '/' ∉ part) :
    (fs.go place ps).IsPlace fs := by
  induction ps generalizing place with
  | nil => exact hplace
  | cons part rest ih =>
    obtain ⟨hpart, hrest⟩ := List.forall_mem_cons.1 hparts
    rw [go]
    cases hdir : fs.root.at? place.reverse with
    | none => trivial
    | some e =>
      cases e with
      | file => trivial
      | link => trivial
      | dir entries =>
        dsimp only
        by_cases hfiller : part = [] ∨ part = ['.']
        · rw [if_pos hfiller]
          exact ih hplace hrest
        rw [if_neg hfiller]
        by_cases hup : part = ['.', '.']
        · rw [if_pos hup]
          exact ih hplace.tail hrest
        rw [if_neg hup]
        by_cases hsize : nameLimit < Text.size part
        · rw [if_pos hsize]
          trivial
        rw [if_neg hsize]
        rw [not_or] at hfiller
        have hname : part ≠ [] ∧ part ≠ ['.'] ∧ part ≠ ['.', '.'] ∧ '/' ∉ part :=
          ⟨hfiller.1, hfiller.2, hup, hpart⟩
        cases hentry : entries.lookup part with
        | none => trivial
        | some e =>
          cases e with
          | link => exact ⟨hplace, hrest⟩
          | file =>
            exact ih (hplace.cons hdir hentry nofun hname (Nat.le_of_not_lt hsize)) hrest
          | dir =>
            exact ih (hplace.cons hdir hentry nofun hname (Nat.le_of_not_lt hsize)) hrest

theorem isPlace_goThrough (n : Nat) (hplace : IsPlace fs place)
    (hparts : ∀ part ∈ ps, '/' ∉ part) : (fs.goThrough n place ps).IsPlace fs := by
  induction n generalizing place ps with
  | zero =>
    have hgo := isPlace_go hplace hparts
    rw [goThrough]
    split
    · trivial
    · exact hgo
  | succ n ih =>
    have hgo := isPlace_go hplace hparts
    rw [goThrough]
    split
    · rename_i target place' rest heq
      rw [heq] at hgo
      split
      · trivial
      · refine ih ?_ (List.forall_mem_append.2 ⟨fun part => Text.not_mem_of_mem_splitOn, hgo.2⟩)
        split
        · exact .root
        · exact hgo.1
    · exact hgo

theorem isPlace_of_place? (hdir : fs.IsPlace fs.workingDir.reverse) {p : Path}
    (h : fs.place? p = .ok names) : fs.IsPlace names.reverse := by
  have hbase : fs.IsPlace (fs.base p) := by
    rw [base]
    split
    · exact .root
    · exact hdir
  have hstop : (fs.resolve p).IsPlace fs := by
    rw [resolve]
    split
    · trivial
    · exact isPlace_goThrough linkLimit hbase fun part => Text.not_mem_of_mem_splitOn
  rw [place?] at h
  split at h
  · rename_i place heq
    rw [heq] at hstop
    rw [← Except.ok.inj h, List.reverse_reverse]
    exact hstop
  all_goals cases h

/-- From the root the names on the way to a place lead there. -/
theorem IsPlace.go_append (h : IsPlace fs place) (rest : List Text) :
    fs.go [] (place.reverse ++ rest) = fs.go place rest := by
  induction h generalizing rest with
  | root => rfl
  | @cons place name entries e _ hdir hentry hlink hname hsize ih =>
    rw [List.reverse_cons, List.append_assoc, List.singleton_append, ih, go, hdir]
    dsimp only
    rw [if_neg (not_or.2 ⟨hname.1, hname.2.1⟩), if_neg hname.2.2.1, if_neg (Nat.not_lt.2 hsize),
      hentry]
    cases e with
    | link target => exact absurd rfl (hlink target)
    | file => rfl
    | dir => rfl

theorem splitOn_joinWith {c : Char} (hne : names ≠ []) (h : ∀ name ∈ names, c ∉ name) :
    Text.splitOn c (Text.joinWith [c] names) = names := by
  induction names with
  | nil => exact absurd rfl hne
  | cons name names ih =>
    obtain ⟨hname, hnames⟩ := List.forall_mem_cons.1 h
    cases names with
    | nil => exact Text.splitOn_of_not_mem hname
    | cons next names =>
      rw [Text.joinWith, List.append_assoc, List.singleton_append, Text.splitOn_append_cons hname,
        ih (List.cons_ne_nil _ _) hnames]

theorem parts_pathTo (h : fs.IsPlace names.reverse) :
    parts (pathTo names).text = [] :: if names = [] then [[]] else names := by
  rw [parts, pathTo, Text.splitOn, if_pos rfl]
  split
  · rename_i hnil
    rw [hnil]
    rfl
  · rename_i hne
    rw [splitOn_joinWith hne fun name hname => h.not_mem (List.mem_reverse.2 hname)]

/-- From the root a canonical path goes to the place that it spells, unless the root is no
directory. -/
theorem go_pathTo (h : fs.IsPlace names.reverse) :
    fs.go [] (parts (pathTo names).text) = .arrived names.reverse ∨
      fs.go [] (parts (pathTo names).text) = .fault .notDirectory := by
  have hnames : fs.go [] names = .arrived names.reverse := by
    have hgo := h.go_append []
    rwa [List.reverse_reverse, List.append_nil] at hgo
  rw [parts_pathTo h, go]
  cases hroot : fs.root.at? ([] : List Text).reverse with
  | none => exact .inr rfl
  | some e =>
    cases e with
    | file => exact .inr rfl
    | link => exact .inr rfl
    | dir entries =>
      left
      dsimp only
      rw [if_pos (.inl rfl)]
      split
      · rename_i hnil
        rw [hnil, go, hroot]
        rfl
      · exact hnames

theorem goThrough_of_arrived (n : Nat) (h : fs.go place ps = .arrived place') :
    fs.goThrough n place ps = .arrived place' := by
  cases n <;> rw [goThrough, h]

theorem goThrough_of_fault (n : Nat) {f : FileFault} (h : fs.go place ps = .fault f) :
    fs.goThrough n place ps = .fault f := by
  cases n <;> rw [goThrough, h]

/-- A canonical path leads to the place that it spells, if anywhere. -/
theorem place?_pathTo (h : fs.IsPlace names.reverse) {names' : List Text}
    (hplace : fs.place? (pathTo names) = .ok names') : names' = names := by
  rw [place?, resolve] at hplace
  cases hfault : pathFault? (pathTo names).text with
  | some f =>
    rw [hfault] at hplace
    cases hplace
  | none =>
    have hbase : fs.base (pathTo names) = [] := rfl
    rw [hfault, hbase] at hplace
    dsimp only at hplace
    rcases go_pathTo h with hgo | hgo
    · rw [goThrough_of_arrived linkLimit hgo] at hplace
      rw [← Except.ok.inj hplace, List.reverse_reverse]
    · rw [goThrough_of_fault linkLimit hgo] at hplace
      cases hplace

theorem exists_place_of_canonical {p file : Path} (h : fs.canonical p = .ok file) :
    ∃ names, fs.place? p = .ok names ∧ pathTo names = file := by
  rw [canonical] at h
  cases hplace : fs.place? p with
  | error f =>
    rw [hplace] at h
    cases h
  | ok names =>
    rw [hplace] at h
    exact ⟨names, rfl, Except.ok.inj h⟩

theorem exists_place_of_readText {p : Path} {t : Text} (h : fs.readText p = .ok t) :
    ∃ names content executable, fs.place? p = .ok names ∧
      fs.root.at? names = some (.file content executable) := by
  cases hplace : fs.place? p with
  | error f => simp [readText, read, entry?, hplace] at h
  | ok names =>
    cases hentry : fs.root.at? names with
    | none => simp [readText, read, entry?, hplace, hentry] at h
    | some e =>
      cases e with
      | file content executable => exact ⟨names, content, executable, rfl, hentry⟩
      | link => simp [readText, read, entry?, hplace, hentry] at h
      | dir => simp [readText, read, entry?, hplace, hentry] at h

end FileSystem

/-! ### Files that can be opened -/

namespace Bundle

/-- All files that can be opened are in a list. -/
def Source.IsCoveredBy (source : Source Id) (files : List Path) : Prop :=
  ∀ path file content, source.canonical path = .ok file → source.read file = .ok content →
    file ∈ files

/-- There are at most `n` files that can be opened. -/
def Source.IsBoundedBy (source : Source Id) (n : Nat) : Prop :=
  ∃ files : List Path, files.length ≤ n ∧ source.IsCoveredBy files

/-- What can be opened in a tree is among its files. -/
theorem isBoundedBy_treeSource {fs : FileSystem} (hdir : fs.IsPlace fs.workingDir.reverse) :
    (treeSource fs).IsBoundedBy fs.root.fileCount := by
  refine ⟨fs.root.places.map FileSystem.pathTo, ?_, fun path file content hpath hread => ?_⟩
  · exact Nat.le_of_eq (by rw [List.length_map, Files.Entry.length_places])
  · obtain ⟨names, hplace, rfl⟩ := FileSystem.exists_place_of_canonical hpath
    obtain ⟨names', c, executable, hplace', hfile⟩ := FileSystem.exists_place_of_readText hread
    have hnames := FileSystem.isPlace_of_place? hdir hplace
    rw [FileSystem.place?_pathTo hnames hplace'] at hfile
    exact List.mem_map_of_mem (Files.Entry.mem_places hfile)

end Bundle

end Retint
