import Retint.Files.Access

/-!
# Trees that only grow

Creating directories and writing to one file leaves the rest of a tree as it is: what was there is
still there, of the same kind, and every other file has its old content. A path that led somewhere
leads to the same place still, since no directory and no link on the way can have gone.

## Main definitions

* `FileSystem.file?` — the content of the file at a place
* `FileSystem.Grows` — a file system with more directories, and all files but one as they were

## Main results

* `Entry.at?_put_or` — putting something into a directory changes nothing beside it
* `FileSystem.Grows.go_eq` — going along a path is going on from where it stopped before
* `FileSystem.Grows.place?` — a path leads to the same place in a tree that has grown
* `FileSystem.grows_makeDirs`, `FileSystem.grows_write` — creating directories, and writing to a
  file that is there
-/

namespace Retint

namespace Files.Entry

variable {names other : List Text} {name : Text} {e parent : Entry}

/-! ### Beside what is put -/

theorem at?_append (names other : List Text) (e : Entry) :
    e.at? (names ++ other) = (e.at? names).bind (at? other) := by
  induction names generalizing e with
  | nil => rfl
  | cons n names ih =>
    rw [List.cons_append, at?, at?]
    cases e.child? n with
    | none => rfl
    | some child => exact ih child

theorem at?_eq_none_of_file {content : Content} {executable : Bool}
    (h : e.at? names = some (.file content executable)) (hne : other ≠ []) :
    e.at? (names ++ other) = none := by
  obtain ⟨n, other, rfl⟩ := List.exists_cons_of_ne_nil hne
  rw [at?_append, h]
  rfl

/-- Nothing changes beside what is put into a directory. Only the directories on the way to it have
other entries than before. -/
theorem at?_put_or (new : Entry) (h : e.at? names = some parent) (hd : parent.isDir = true)
    (hother : ¬ names ++ [name] <+: other) :
    (put new (names ++ [name]) e).at? other = e.at? other ∨
      ∃ before after, e.at? other = some (.dir before) ∧
        (put new (names ++ [name]) e).at? other = some (.dir after) := by
  induction names generalizing e other with
  | nil =>
    obtain rfl : e = parent := by simpa [at?] using h
    cases e with
    | dir entries =>
      cases other with
      | nil => exact .inr ⟨entries, _, rfl, rfl⟩
      | cons m other =>
        have hne : m ≠ name := by
          rintro rfl
          exact hother (by simp)
        left
        simp [put, at?, child?, Dict.lookup_put, hne]
    | file | link => simp [isDir] at hd
  | cons n names ih =>
    cases e with
    | dir entries =>
      cases hl : entries.lookup n with
      | none => simp [at?, child?, hl] at h
      | some child =>
        have hc : child.at? names = some parent := by simpa [at?, child?, hl] using h
        have hput : put new (n :: names ++ [name]) (dir entries) =
            dir (Dict.put n (put new (names ++ [name]) child) entries) := by
          cases names <;> simp [put, hl]
        rw [hput]
        cases other with
        | nil => exact .inr ⟨entries, _, rfl, rfl⟩
        | cons m other =>
          by_cases hm : m = n
          · subst hm
            have hrest : ¬ names ++ [name] <+: other := fun hp =>
              hother (List.cons_prefix_cons.mpr ⟨rfl, hp⟩)
            simpa [at?, child?, Dict.lookup_put, hl] using ih hc hrest
          · left
            simp [at?, child?, Dict.lookup_put, hm]
    | file | link => simp [at?, child?] at h

/-- The content of a file, and whether it can be started. -/
def content? : Entry → Option (Content × Bool)
  | file content executable => some (content, executable)
  | _ => none

/-- Two entries of one kind: files, directories, or links with the same target. -/
inductive Alike : Entry → Entry → Prop
  | file (content content' : Content) (executable executable' : Bool) :
      Alike (.file content executable) (.file content' executable')
  | link (target : Text) : Alike (.link target) (.link target)
  | dir (entries entries' : List (Text × Entry)) : Alike (.dir entries) (.dir entries')

theorem Alike.refl (e : Entry) : Alike e e := by
  cases e <;> constructor

theorem Alike.symm {e e' : Entry} (h : Alike e e') : Alike e' e := by
  cases h <;> constructor

theorem Alike.trans {e e' e'' : Entry} (h : Alike e e') (h' : Alike e' e'') : Alike e e'' := by
  cases h <;> cases h' <;> constructor

end Files.Entry

namespace FileSystem

open Files Entry

variable {fs fs' fs'' : FileSystem} {names place : List Text} {name : Text} {p : Path}
  {but : Option (List Text)}

/-! ### Growing -/

/-- The content of the file at a place, and whether it can be started. -/
def file? (fs : FileSystem) (names : List Text) : Option (Content × Bool) :=
  (fs.root.at? names).bind Entry.content?

/-- What was there is there still, and all files are the same, but perhaps for the one at the place
that is given. There can be more directories. -/
structure Grows (but : Option (List Text)) (fs fs' : FileSystem) : Prop where
  workingDir : fs'.workingDir = fs.workingDir
  alike : ∀ {names e}, fs.root.at? names = some e →
    ∃ e', fs'.root.at? names = some e' ∧ Alike e e'
  file? : ∀ {names}, some names ≠ but → fs'.file? names = fs.file? names

theorem Grows.refl (but : Option (List Text)) (fs : FileSystem) : Grows but fs fs where
  workingDir := rfl
  alike := fun {_ e} h => ⟨e, h, .refl e⟩
  file? := fun _ => rfl

theorem Grows.trans (h : Grows but fs fs') (h' : Grows but fs' fs'') : Grows but fs fs'' where
  workingDir := h'.workingDir.trans h.workingDir
  alike := fun he => by
    obtain ⟨e', he', ha⟩ := h.alike he
    obtain ⟨e'', he'', ha'⟩ := h'.alike he'
    exact ⟨e'', he'', ha.trans ha'⟩
  file? := fun hne => (h'.file? hne).trans (h.file? hne)

/-! ### Paths in a tree that has grown -/

/-- Going on from a directory is the same in a tree that has grown. -/
theorem Grows.dir (h : Grows but fs fs') {entries : List (Text × Entry)}
    (hd : fs.root.at? names = some (.dir entries)) :
    ∃ entries', fs'.root.at? names = some (.dir entries') ∧
      ∀ {part e}, entries.lookup part = some e →
        ∃ e', entries'.lookup part = some e' ∧ Alike e e' := by
  obtain ⟨e', he', ha⟩ := h.alike hd
  cases ha with
  | dir entries entries' =>
    refine ⟨entries', he', fun {part e} hl => ?_⟩
    have hchild : fs.root.at? (names ++ [part]) = some e := by
      rw [at?_append, hd]
      simp [at?, child?, hl]
    obtain ⟨e', hchild', ha⟩ := h.alike hchild
    rw [at?_append, he'] at hchild'
    exact ⟨e', by simpa [at?, child?] using hchild', ha⟩

/-- One step along a path, from a directory. -/
theorem go_cons_of_dir {entries : List (Text × Entry)} (part : Text) (rest : List Text)
    (hd : fs.root.at? place.reverse = some (.dir entries)) :
    fs.go place (part :: rest) =
      if part = [] ∨ part = ['.'] then fs.go place rest
      else if part = ['.', '.'] then fs.go place.tail rest
      else if nameLimit < Text.size part then .fault .nameTooLong
      else
        match entries.lookup part with
        | none => .missing place part rest
        | some (.link target) => .atLink target place rest
        | some _ => fs.go (part :: place) rest := by
  rewrite [FileSystem.go, hd]
  rfl

/-- Where a path has stopped, gone on from there: what was missing may have come. -/
def Stop.goOn (fs : FileSystem) : Stop → Stop
  | .missing place name rest => fs.go place (name :: rest)
  | stop => stop

/-- **Going along a path** is the same as going on from where it stopped before the tree grew. -/
theorem Grows.go_eq (h : Grows but fs fs') {parts : List Text} {stop : Stop}
    (hgo : fs.go place parts = stop) (hstop : ∀ f, stop ≠ .fault f) :
    fs'.go place parts = stop.goOn fs' := by
  induction parts generalizing place with
  | nil => exact hgo ▸ rfl
  | cons part rest ih =>
    rw [FileSystem.go] at hgo
    split at hgo
    · rename_i entries hd
      obtain ⟨entries', hd', hlookup⟩ := h.dir hd
      have hunfold := fs'.go_cons_of_dir part rest hd'
      split at hgo
      · rename_i hdot
        rw [hunfold, if_pos hdot]
        exact ih hgo
      rename_i hdot
      rw [if_neg hdot] at hunfold
      split at hgo
      · rename_i hup
        rw [hunfold, if_pos hup]
        exact ih hgo
      rename_i hup
      rw [if_neg hup] at hunfold
      split at hgo
      · exact absurd hgo.symm (hstop _)
      rename_i hsize
      rw [if_neg hsize] at hunfold
      cases hl : entries.lookup part with
      | none =>
        rw [hl] at hgo
        subst hgo
        rfl
      | some e =>
        obtain ⟨e', hl', ha⟩ := hlookup hl
        rw [hl] at hgo
        rw [hunfold, hl']
        cases ha with
        | link target => exact hgo ▸ rfl
        | file | dir => exact ih hgo
    · exact absurd hgo.symm (hstop _)

theorem Grows.goThrough (h : Grows but fs fs') {n : Nat} {start parts : List Text}
    (hgo : fs.goThrough n start parts = .arrived place) :
    fs'.goThrough n start parts = .arrived place := by
  induction n generalizing start parts with
  | zero =>
    unfold FileSystem.goThrough at hgo ⊢
    cases hstop : fs.go start parts with
    | arrived place => rw [h.go_eq hstop nofun]; rw [hstop] at hgo; exact hgo
    | missing | atLink | fault => rw [hstop] at hgo; cases hgo
  | succ n ih =>
    unfold FileSystem.goThrough at hgo ⊢
    cases hstop : fs.go start parts with
    | arrived place => rw [h.go_eq hstop nofun]; rw [hstop] at hgo; exact hgo
    | missing | fault => rw [hstop] at hgo; cases hgo
    | atLink target at' rest =>
      rw [h.go_eq hstop nofun]
      rw [hstop] at hgo
      dsimp only [Stop.goOn] at hgo ⊢
      split at hgo
      · cases hgo
      · rename_i hne
        rw [if_neg hne]
        exact ih hgo

/-- **A path leads to the same place** in a tree that has grown, if it led to one before. -/
theorem Grows.place? (h : Grows but fs fs') (hp : fs.place? p = .ok names) :
    fs'.place? p = .ok names := by
  have hbase : fs'.base p = fs.base p := by rw [base, base, h.workingDir]
  unfold FileSystem.place? resolve at hp ⊢
  cases hfault : pathFault? p.text with
  | some f => simp [hfault] at hp
  | none =>
    simp only [hfault] at hp ⊢
    cases hstop : fs.goThrough linkLimit (fs.base p) (parts p.text) with
    | arrived place =>
      rw [hbase, h.goThrough hstop]
      rw [hstop] at hp
      exact hp
    | missing | atLink | fault => simp [hstop] at hp

/-! ### What makes a tree grow -/

/-- Putting something into a directory, if what was at its place is like what comes there. -/
theorem grows_put {entries : List (Text × Entry)} {new : Entry}
    (hd : fs.root.at? names = some (.dir entries))
    (halike : ∀ {rest e}, fs.root.at? (names ++ [name] ++ rest) = some e →
      ∃ e', new.at? rest = some e' ∧ Alike e e')
    (hfile : ∀ {rest}, some (names ++ [name] ++ rest) ≠ but →
      (new.at? rest).bind content? = fs.file? (names ++ [name] ++ rest)) :
    Grows but fs (fs.put (names ++ [name]) new) := by
  have hbelow : ∀ rest, (fs.put (names ++ [name]) new).root.at? (names ++ [name] ++ rest) =
      new.at? rest := fun rest => by
    rw [at?_append]
    exact congrArg (·.bind (at? rest)) (at?_put hd rfl)
  refine ⟨rfl, fun {other e} he => ?_, fun {other} hne => ?_⟩
  · by_cases hpre : names ++ [name] <+: other
    · obtain ⟨rest, rfl⟩ := hpre
      rw [hbelow]
      exact halike he
    · rcases at?_put_or new hd rfl hpre with heq | ⟨before, after, hb, ha⟩
      · exact ⟨e, heq.trans he, .refl e⟩
      · obtain rfl := Option.some.inj (hb.symm.trans he)
        exact ⟨.dir after, ha, .dir ..⟩
  · by_cases hpre : names ++ [name] <+: other
    · obtain ⟨rest, rfl⟩ := hpre
      rw [FileSystem.file?, hbelow]
      exact hfile hne
    · rw [FileSystem.file?, FileSystem.file?]
      rcases at?_put_or new hd rfl hpre with heq | ⟨before, after, hb, ha⟩
      · exact congrArg (·.bind content?) heq
      · exact (congrArg (·.bind content?) ha).trans (congrArg (·.bind content?) hb).symm

/-- Putting a directory where nothing is. -/
theorem grows_put_dir {entries : List (Text × Entry)}
    (hd : fs.root.at? names = some (.dir entries))
    (hnone : fs.root.at? (names ++ [name]) = none) :
    Grows but fs (fs.put (names ++ [name]) (.dir [])) := by
  have hbelow : ∀ rest, fs.root.at? (names ++ [name] ++ rest) = none := fun rest => by
    rw [at?_append, hnone]
    rfl
  refine grows_put hd (fun he => ?_) fun {rest} _ => ?_
  · rw [hbelow] at he
    cases he
  · rw [FileSystem.file?, hbelow]
    cases rest <;> rfl

/-- What has a name is in a directory. -/
theorem exists_dir_of_at?_concat {e : Entry} (h : fs.root.at? (names ++ [name]) = some e) :
    ∃ entries, fs.root.at? names = some (.dir entries) := by
  rw [at?_append, Option.bind_eq_some_iff] at h
  obtain ⟨parent, hparent, hchild⟩ := h
  cases parent with
  | dir entries => exact ⟨entries, hparent⟩
  | file | link => simp [at?, child?] at hchild

/-- Giving a file another content. -/
theorem grows_put_file {content : Content} {executable : Bool} (new : Content)
    (hf : fs.root.at? names = some (.file content executable)) :
    Grows (some names) fs (fs.put names (.file new executable)) := by
  have hbelow : ∀ rest, rest ≠ [] → fs.root.at? (names ++ rest) = none := fun rest hne =>
    at?_eq_none_of_file hf hne
  have hnew : ∀ rest, rest ≠ [] → (Entry.file new executable).at? rest = none
    | [], hne => absurd rfl hne
    | _ :: _, _ => rfl
  have halike : ∀ {rest e}, fs.root.at? (names ++ rest) = some e →
      ∃ e', (Entry.file new executable).at? rest = some e' ∧ Alike e e' := fun {rest e} he => by
    cases rest with
    | nil =>
      rw [List.append_nil, hf] at he
      obtain rfl := Option.some.inj he
      exact ⟨_, rfl, .file ..⟩
    | cons n rest =>
      rw [hbelow _ (by simp)] at he
      cases he
  have hfile : ∀ {rest}, some (names ++ rest) ≠ some names →
      ((Entry.file new executable).at? rest).bind content? = fs.file? (names ++ rest) :=
    fun {rest} hne => by
      have hrest : rest ≠ [] := by
        rintro rfl
        simp at hne
      rw [FileSystem.file?, hbelow rest hrest, hnew rest hrest]
  rcases List.eq_nil_or_concat names with rfl | ⟨init, name, rfl⟩
  · exact ⟨rfl, fun he => halike he, fun hne => hfile hne⟩
  · rw [List.concat_eq_append] at *
    obtain ⟨entries, hd⟩ := exists_dir_of_at?_concat hf
    exact grows_put hd halike hfile

theorem exists_dir_of_parentOf (h : fs.parentOf p = .ok (names, name)) :
    ∃ entries, fs.root.at? names = some (.dir entries) := by
  unfold parentOf at h
  split at h
  · cases h
  split at h
  · cases h
  split at h
  · cases h
  split at h
  · split at h
    · rename_i entries hd
      cases h
      exact ⟨entries, hd⟩
    · cases h
  all_goals cases h

theorem grows_createDir (h : fs.createDir p = .ok fs') : Grows but fs fs' := by
  unfold createDir at h
  split at h
  · rename_i names name hparent
    split at h
    · cases h
    rename_i hnone
    split at h
    · cases h
    split at h
    · cases h
    cases h
    obtain ⟨entries, hd⟩ := exists_dir_of_parentOf hparent
    exact grows_put_dir hd hnone
  · cases h

/-- **Creating directories** leaves all files as they are, whether it succeeds or not. -/
theorem grows_makeDirsUpTo (but : Option (List Text)) : ∀ (fuel : Nat) (fs : FileSystem) (p : Path),
    Grows but fs (makeDirsUpTo fuel fs p).2
  | 0, fs, _ => .refl but fs
  | fuel + 1, fs, p => by
    rw [makeDirsUpTo]
    split
    · exact .refl but fs
    split
    · rename_i hmade
      exact grows_createDir hmade
    · split
      · exact .refl but fs
      rename_i parent _
      have hparent := grows_makeDirsUpTo but fuel fs parent
      split
      · rename_i hfailed
        rw [hfailed] at hparent
        exact hparent
      · rename_i hmade
        rw [hmade] at hparent
        split
        · rename_i hlast
          exact hparent.trans (grows_createDir hlast)
        · exact hparent
    · exact .refl but fs

theorem grows_makeDirs (but : Option (List Text)) (fs : FileSystem) (p : Path) :
    Grows but fs (fs.makeDirs p).2 :=
  grows_makeDirsUpTo but _ fs p

/-- Writing to a file that is there replaces it. -/
theorem write_eq_put {content : Content} {executable : Bool} (new : Content)
    (hp : fs.place? p = .ok names) (hf : fs.root.at? names = some (.file content executable)) :
    fs.write p new = .ok (fs.put names (.file new executable)) := by
  unfold place? at hp
  cases hstop : fs.resolve p with
  | arrived place =>
    simp only [hstop] at hp
    cases hp
    simp only [write, hstop, hf]
  | missing | atLink | fault => simp [hstop] at hp

/-- Writing to a file that is there. -/
theorem grows_write {content : Content} {executable : Bool} (new : Content)
    (hp : fs.place? p = .ok names) (hf : fs.root.at? names = some (.file content executable)) :
    ∃ fs', fs.write p new = .ok fs' ∧ Grows (some names) fs fs' :=
  ⟨_, write_eq_put new hp hf, grows_put_file new hf⟩

end FileSystem

end Retint
