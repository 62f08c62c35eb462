import Retint.Proofs.Files.Growth

/-!
# Files that have been written

After a file has been written, its path leads to it. If the file was there before, the tree is the
same but for its content. If it was not, the path ended at a directory that did not have its last
name, and now has it: so the way up to there is the same as before.

## Main definitions

* `FileSystem.Lacks` — a directory does not have a name that it could have

## Main results

* `FileSystem.readText_eq_ok_iff` — the text at a path, by the place that the path leads to
* `FileSystem.grows_put_new` — creating a file changes nothing else
* `FileSystem.Grows.place?_of_missing` — a path that was missing its last name leads to a new file
* `FileSystem.exists_place_of_write` — where a path leads that has been written to
* `FileSystem.readText_write` — the text that has been written is there
-/

namespace Retint.FileSystem

open Files Entry

variable {fs fs' : FileSystem} {names place start parts : List Text} {name t : Text} {p : Path}
  {content : Content} {executable : Bool} {but : Option (List Text)}

/-- The text at a path is that of the file at the place where it leads. -/
theorem readText_eq_ok_iff : fs.readText p = .ok t ↔
    ∃ names, fs.place? p = .ok names ∧ (fs.file? names).map Prod.fst = some (.text t) := by
  unfold readText read entry? file?
  cases hplace : fs.place? p with
  | error f => simp
  | ok names =>
    cases hentry : fs.root.at? names with
    | none => simp [hentry]
    | some e =>
      cases e with
      | file content executable => cases content <;> simp [hentry, content?]
      | link | dir => simp [hentry, content?]

/-! ### A file that was there -/

/-- A file that is replaced at its place is found there. -/
theorem at?_put_file {old : Content} {executable' : Bool} (content : Content)
    (hf : fs.root.at? names = some (.file old executable')) :
    (fs.put names (.file content executable)).root.at? names =
      some (.file content executable) := by
  rcases List.eq_nil_or_concat names with rfl | ⟨init, name, rfl⟩
  · rfl
  · rw [List.concat_eq_append] at *
    obtain ⟨entries, hd⟩ := exists_dir_of_at?_concat hf
    exact at?_put hd rfl

/-- A tree that has grown, but has nothing new, differs in the content of the one file only. -/
theorem Grows.symm (h : Grows but fs fs')
    (hall : ∀ {names e'}, fs'.root.at? names = some e' → ∃ e, fs.root.at? names = some e) :
    Grows but fs' fs where
  workingDir := h.workingDir.symm
  alike := fun {names e'} he' => by
    obtain ⟨e, he⟩ := hall he'
    obtain ⟨e'', he'', ha⟩ := h.alike he
    obtain rfl : e'' = e' := Option.some.inj (he''.symm.trans he')
    exact ⟨e, he, ha.symm⟩
  file? := fun hne => (h.file? hne).symm

/-- There is nothing new in a tree in which a file has been replaced. -/
theorem exists_at?_of_put_file {old : Content} {executable' : Bool} {other : List Text} {e' : Entry}
    (hf : fs.root.at? names = some (.file old executable'))
    (he' : (fs.put names (.file content executable)).root.at? other = some e') :
    ∃ e, fs.root.at? other = some e := by
  by_cases hpre : names <+: other
  · obtain ⟨rest, rfl⟩ := hpre
    cases rest with
    | nil => exact ⟨_, (List.append_nil names).symm ▸ hf⟩
    | cons n rest =>
      rw [at?_eq_none_of_file (at?_put_file content hf) (List.cons_ne_nil n rest)] at he'
      cases he'
  · obtain ⟨init, name, rfl⟩ := (List.eq_nil_or_concat names).resolve_left fun hnil =>
      hpre (hnil ▸ List.nil_prefix)
    rw [List.concat_eq_append] at *
    obtain ⟨entries, hd⟩ := exists_dir_of_at?_concat hf
    rcases at?_put_or (.file content executable) hd rfl hpre with hsame | ⟨before, -, hbefore, -⟩
    · exact ⟨e', hsame.symm.trans he'⟩
    · exact ⟨_, hbefore⟩

/-! ### A file that was not there -/

/-- Creating a file changes nothing else. -/
theorem grows_put_new {entries : List (Text × Entry)}
    (hd : fs.root.at? names = some (.dir entries)) (hnone : entries.lookup name = none) :
    Grows (some (names ++ [name])) fs
      (fs.put (names ++ [name]) (.file content executable)) := by
  have hbelow : ∀ rest, fs.root.at? (names ++ [name] ++ rest) = none := fun rest => by
    rw [at?_append, at?_append, hd]
    simp [at?, child?, hnone]
  refine grows_put hd (fun he => ?_) fun {rest} hne => ?_
  · rw [hbelow] at he
    cases he
  · rw [FileSystem.file?, hbelow]
    cases rest with
    | nil => simp at hne
    | cons n rest => rfl

/-- The directory at a place does not have a name that it could have. -/
structure Lacks (fs : FileSystem) (place : List Text) (name : Text) : Prop where
  lookup : ∃ entries, fs.root.at? place.reverse = some (.dir entries) ∧ entries.lookup name = none
  proper : ¬ (name = [] ∨ name = ['.']) ∧ name ≠ ['.', '.'] ∧ ¬ nameLimit < Text.size name

theorem lacks_of_go {rest : List Text} (h : fs.go start parts = .missing place name rest) :
    fs.Lacks place name := by
  induction parts generalizing start with
  | nil => cases h
  | cons part parts ih =>
    rw [FileSystem.go] at h
    split at h
    · rename_i entries hd
      split at h
      · exact ih h
      rename_i hdot
      split at h
      · exact ih h
      rename_i hup
      split at h
      · cases h
      rename_i hsize
      cases hl : entries.lookup part with
      | none =>
        rw [hl] at h
        cases h
        exact ⟨⟨entries, hd, hl⟩, hdot, hup, hsize⟩
      | some e =>
        rw [hl] at h
        cases e with
        | link target => cases h
        | file | dir => exact ih h
    · cases h

theorem lacks_of_goThrough {n : Nat} {rest : List Text}
    (h : fs.goThrough n start parts = .missing place name rest) : fs.Lacks place name := by
  induction n generalizing start parts with
  | zero =>
    unfold FileSystem.goThrough at h
    cases hstop : fs.go start parts with
    | missing => rw [hstop] at h; cases h; exact lacks_of_go hstop
    | arrived | atLink | fault => rw [hstop] at h; cases h
  | succ n ih =>
    unfold FileSystem.goThrough at h
    cases hstop : fs.go start parts with
    | missing => rw [hstop] at h; cases h; exact lacks_of_go hstop
    | arrived | fault => rw [hstop] at h; cases h
    | atLink =>
      rw [hstop] at h
      dsimp only at h
      split at h
      · cases h
      · exact ih h

/-- From the directory that lacked a name the way goes on to the file that has it now. -/
theorem Lacks.go_eq (h : fs.Lacks place name)
    (hnew : fs'.root.at? (place.reverse ++ [name]) = some (.file content executable)) :
    fs'.go place [name] = .arrived (name :: place) := by
  obtain ⟨hdot, hup, hsize⟩ := h.proper
  obtain ⟨entries, hd⟩ := exists_dir_of_at?_concat hnew
  have hl : entries.lookup name = some (.file content executable) := by
    rw [at?_append, hd] at hnew
    simpa [at?, child?] using hnew
  rw [go_cons_of_dir name [] hd, if_neg hdot, if_neg hup, if_neg hsize, hl]
  rfl

theorem Grows.goThrough_of_missing (h : Grows but fs fs') {n : Nat}
    (hnew : fs'.root.at? (place.reverse ++ [name]) = some (.file content executable))
    (hgo : fs.goThrough n start parts = .missing place name []) :
    fs'.goThrough n start parts = .arrived (name :: place) := by
  have harrived := (lacks_of_goThrough hgo).go_eq hnew
  have hmissing : ∀ {start parts}, fs.go start parts = .missing place name [] →
      fs'.go start parts = .arrived (name :: place) := by
    intro start parts hstop
    rw [h.go_eq hstop (by simp), Stop.goOn, harrived]
  induction n generalizing start parts with
  | zero =>
    unfold FileSystem.goThrough at hgo ⊢
    cases hstop : fs.go start parts with
    | missing =>
      rw [hstop] at hgo
      cases hgo
      rw [hmissing hstop]
    | arrived | atLink | fault => rw [hstop] at hgo; cases hgo
  | succ n ih =>
    unfold FileSystem.goThrough at hgo ⊢
    cases hstop : fs.go start parts with
    | missing =>
      rw [hstop] at hgo
      cases hgo
      rw [hmissing hstop]
    | arrived | fault => rw [hstop] at hgo; cases hgo
    | atLink target at' rest =>
      rw [h.go_eq hstop (by simp)]
      rw [hstop] at hgo
      dsimp only [Stop.goOn] at hgo ⊢
      split at hgo
      · cases hgo
      · rename_i hne
        rw [if_neg hne]
        exact ih hgo

/-- **A path that was missing its last name** leads to the file that has been created there. -/
theorem Grows.place?_of_missing (h : Grows but fs fs')
    (hnew : fs'.root.at? (place.reverse ++ [name]) = some (.file content executable))
    (hp : fs.resolve p = .missing place name []) :
    fs'.place? p = .ok (place.reverse ++ [name]) := by
  have hbase : fs'.base p = fs.base p := by rw [base, base, h.workingDir]
  unfold FileSystem.place? resolve at *
  cases hfault : pathFault? p.text with
  | some f => simp [hfault] at hp
  | none =>
    simp only [hfault] at hp ⊢
    rw [hbase, h.goThrough_of_missing hnew hp]
    exact congrArg Except.ok List.reverse_cons

/-! ### Writing -/

/-- **A path that has been written to** leads to a file with this content, and all else is as it
was. -/
theorem exists_place_of_write (h : fs.write p content = .ok fs') :
    ∃ names executable, fs'.place? p = .ok names ∧
      fs'.root.at? names = some (.file content executable) ∧ Grows (some names) fs fs' := by
  unfold write at h
  split at h
  · rename_i place hresolve
    split at h
    · rename_i old executable hf
      obtain rfl := Except.ok.inj h
      have hgrows := grows_put_file content hf
      have hplace : fs.place? p = .ok place.reverse := by rw [place?, hresolve]
      exact ⟨_, _, hgrows.place? hplace, at?_put_file content hf, hgrows⟩
    · cases h
  · rename_i place name rest hresolve
    split at h
    · obtain rfl := Except.ok.inj h
      have hlacks : fs.Lacks place name := by
        unfold resolve at hresolve
        split at hresolve
        · cases hresolve
        · exact lacks_of_goThrough hresolve
      obtain ⟨entries, hd, hnone⟩ := hlacks.lookup
      rw [List.reverse_cons]
      have hgrows : Grows _ fs (fs.put (place.reverse ++ [name]) (.file content false)) :=
        grows_put_new hd hnone
      have hnew : (fs.put (place.reverse ++ [name]) (.file content false)).root.at?
          (place.reverse ++ [name]) = some (.file content false) := at?_put hd rfl
      exact ⟨_, _, hgrows.place?_of_missing hnew hresolve, hnew, hgrows⟩
    · cases h
    · cases h
  all_goals cases h

/-- **The text that has been written** is there. -/
theorem readText_write (h : fs.write p (.text t) = .ok fs') : fs'.readText p = .ok t := by
  obtain ⟨names, executable, hplace, hfile, -⟩ := exists_place_of_write h
  exact readText_eq_ok_iff.mpr ⟨names, hplace, by rw [file?, hfile]; rfl⟩

/-- A text is there still after another file has been written. -/
theorem readText_of_write {other : Path} (h : fs.write other content = .ok fs')
    (hother : fs'.place? other ≠ fs'.place? p) (ht : fs.readText p = .ok t) :
    fs'.readText p = .ok t := by
  obtain ⟨names, hplace, hfile⟩ := readText_eq_ok_iff.mp ht
  obtain ⟨written, -, hwritten, -, hgrows⟩ := exists_place_of_write h
  have hplace' := hgrows.place? hplace
  have hne : some names ≠ some written := by
    rintro heq
    rw [hwritten, hplace', Option.some.inj heq] at hother
    exact hother rfl
  exact readText_eq_ok_iff.mpr ⟨names, hplace', by rw [hgrows.file? hne, hfile]⟩

/-- A text was there before, if another file has been replaced. -/
theorem readText_of_replace {other : Path} {old : Content}
    (hp : fs.place? other = .ok names) (hf : fs.root.at? names = some (.file old executable))
    (h : fs.write other content = .ok fs') (hother : fs'.place? other ≠ fs'.place? p)
    (ht : fs'.readText p = .ok t) : fs.readText p = .ok t := by
  obtain ⟨place, hplace, hfile⟩ := readText_eq_ok_iff.mp ht
  obtain rfl : fs.put names (.file content executable) = fs' :=
    Except.ok.inj ((write_eq_put content hp hf).symm.trans h)
  have hgrows := grows_put_file content hf
  have hback := hgrows.symm fun he' => exists_at?_of_put_file hf he'
  have hne : some place ≠ some names := by
    rintro heq
    rw [hgrows.place? hp, hplace, Option.some.inj heq] at hother
    exact hother rfl
  exact readText_eq_ok_iff.mpr ⟨place, hback.place? hplace, by rw [hback.file? hne, hfile]⟩

end Retint.FileSystem
