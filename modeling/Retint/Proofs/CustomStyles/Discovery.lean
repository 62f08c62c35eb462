import Retint.CustomStyles
import Retint.Proofs.Files.Walk

/-!
# Which style files are found

The style files under a directory are the files of its tree, at any depth, that have the extension
of style files. They are found in the order of their components, and nothing but the files decides
which are found: not the order in which a directory lists its entries.

## Main definitions

* `CustomStyles.IsSheetPlace` — the place of a file with the extension of style files

## Main results

* `CustomStyles.mem_sheets_files_iff` — the style files of a tree
* `CustomStyles.sheets_walk` — the headline
-/

namespace Retint.CustomStyles

open Files

/-- The file at a place is called like a style file: there is something before the extension. -/
def IsSheetPlace (names : List Text) : Prop :=
  ∃ before stem, stem ≠ [] ∧ names = before ++ [stem ++ '.' :: Import.extension]

variable {fs : FileSystem} {dir p : Path} {names : List Text} {entries : List (Text × Entry)}

/-- The extension of a path down from a directory tells whether it is that of a style file. -/
theorem extension?_under_iff (hne : names ≠ []) (h : ∀ name ∈ names, Path.IsFileName name) :
    (dir.under names).extension? = some Import.extension ↔ IsSheetPlace names := by
  obtain ⟨before, name, rfl⟩ := (List.eq_nil_or_concat names).resolve_left hne
  rw [List.concat_eq_append] at h ⊢
  rw [Path.under_concat, Path.extension?_join_iff (h name (by simp))]
  constructor
  · rintro ⟨stem, hstem, rfl, -⟩
    exact ⟨before, stem, hstem, rfl⟩
  · rintro ⟨before', stem, hstem, heq⟩
    obtain ⟨rfl, hname⟩ := List.append_inj' heq rfl
    exact ⟨stem, hstem, List.singleton_inj.mp hname, by decide⟩

/-- **The style files** of a tree, each at the end of the path to a file's place. -/
theorem mem_sheets_files_iff (h : (Entry.dir entries).IsProper) :
    p ∈ sheets ((Entry.dir entries).files dir) ↔
      ∃ names, p = dir.under names ∧ IsSheetPlace names ∧ (Entry.dir entries).HasFile names := by
  have hplace : ∀ {names}, (Entry.dir entries).HasFile names →
      ((dir.under names).extension? = some Import.extension ↔ IsSheetPlace names) := by
    intro names hfile
    refine extension?_under_iff ?_
      (Entry.isFileName_of_mem_places h ((Entry.mem_places_iff h).mpr hfile))
    rintro rfl
    obtain ⟨content, executable, hfile⟩ := hfile
    cases hfile
  rw [sheets, List.mem_filter, decide_eq_true_iff, Entry.files_eq, List.mem_map]
  constructor
  · rintro ⟨⟨names, hmem, rfl⟩, hext⟩
    have hfile := (Entry.mem_places_iff h).mp ((Entry.walked_perm _).mem_iff.mp hmem)
    exact ⟨names, rfl, (hplace hfile).mp hext, hfile⟩
  · rintro ⟨names, rfl, hsheet, hfile⟩
    have hmem := (Entry.walked_perm _).mem_iff.mpr ((Entry.mem_places_iff h).mpr hfile)
    exact ⟨⟨names, hmem, rfl⟩, (hplace hfile).mpr hsheet⟩

theorem walk_dir (hdir : fs.entry? dir = .ok (.dir entries)) :
    fs.walk dir = .ok ((Entry.dir entries).files dir) := by
  rw [FileSystem.walk, hdir]
  rfl

/-- **Which style files are found** under a directory: exactly the files of its tree that are called
like style files, at any depth; each once; in the strict order of their components; and the same
files in the same order wherever a tree at the same path has files at the same places. -/
theorem sheets_walk (hdir : fs.entry? dir = .ok (.dir entries))
    (hproper : (Entry.dir entries).IsProper) :
    ∃ found, (fs.walk dir).map sheets = .ok found ∧
      (∀ p, p ∈ found ↔
        ∃ names, p = dir.under names ∧ IsSheetPlace names ∧ (Entry.dir entries).HasFile names) ∧
      found.Nodup ∧
      (found.Pairwise fun p q => p.key < q.key) ∧
      ∀ (fs' : FileSystem) (entries' : List (Text × Entry)),
        fs'.entry? dir = .ok (.dir entries') → (Entry.dir entries').IsProper →
        (∀ names, (Entry.dir entries').HasFile names ↔ (Entry.dir entries).HasFile names) →
        (fs'.walk dir).map sheets = .ok found := by
  have hordered : (sheets ((Entry.dir entries).files dir)).Pairwise fun p q => p.key < q.key :=
    (Entry.pairwise_files hproper dir).filter _
  refine ⟨sheets ((Entry.dir entries).files dir), ?_, fun p => mem_sheets_files_iff hproper,
    ?_, hordered, ?_⟩
  · rw [walk_dir hdir]
    rfl
  · refine hordered.imp fun {p q} hlt heq => ?_
    rw [heq] at hlt
    exact List.lt_irrefl _ hlt
  · intro fs' entries' hdir' hproper' hsame
    rw [walk_dir hdir', Entry.files_eq, Entry.files_eq,
      Entry.walked_congr hproper' hproper hsame]
    rfl

/-- A tree in which the order of components is not that of texts. -/
def mixed : List (Text × Entry) :=
  let sheet := Entry.file (.text []) false
  [("zebra.less".toList, sheet),
    ("a".toList, .dir [("notes.txt".toList, sheet), ("ä.less".toList, sheet),
      ("b.less".toList, sheet)]),
    ("a-b.less".toList, sheet), (".less".toList, sheet), ("b.less".toList, .link "a".toList)]

theorem sheets_walk_mixed :
    let fs : FileSystem := ⟨.dir [("styles".toList, .dir mixed)], []⟩
    let dir := Path.ofString "styles/"
    (fs.entry? dir = .ok (.dir mixed) ∧ (Entry.dir mixed).IsProper) ∧
      ∃ found, (fs.walk dir).map sheets = .ok found ∧
        (∀ p, p ∈ found ↔
          ∃ names, p = dir.under names ∧ IsSheetPlace names ∧ (Entry.dir mixed).HasFile names) ∧
        found.Nodup ∧
        (found.Pairwise fun p q => p.key < q.key) ∧
        ∀ (fs' : FileSystem) (entries' : List (Text × Entry)),
          fs'.entry? dir = .ok (.dir entries') → (Entry.dir entries').IsProper →
          (∀ names, (Entry.dir entries').HasFile names ↔ (Entry.dir mixed).HasFile names) →
          (fs'.walk dir).map sheets = .ok found :=
  have hdir : FileSystem.entry? ⟨.dir [("styles".toList, .dir mixed)], []⟩
      (Path.ofString "styles/") = .ok (.dir mixed) := by rfl
  have hproper : (Entry.dir mixed).IsProper := by decide +kernel
  ⟨⟨hdir, hproper⟩, sheets_walk hdir hproper⟩

/-- What is in `a` comes before `a-b`, though a hyphen comes before a slash. -/
example : sheets ((Entry.dir mixed).files (Path.ofString "styles/")) =
    ["styles/a/b.less", "styles/a/ä.less", "styles/a-b.less", "styles/zebra.less"].map
      Path.ofString := by
  cbv

end Retint.CustomStyles
