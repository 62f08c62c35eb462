import Mathlib.Logic.Relation
import Retint.Bundle
import Retint.Proofs.Bundle.Statement

/-!
# The expansion of a sheet

Which texts a bundle is made of is said without the search for it: the pieces of a file come one
after the other, and an import is replaced by the expansion of what it means where that is met
first. A bundle that is had is the expansion of its entry.

## Main definitions

* `Bundle.Imports` — a file imports another one
* `Bundle.Reaches` — a file is reached from the entry by imports
* `Bundle.Expansion` — the blocks that pieces expand to

## Main results

* `Bundle.flatten_outcome`, `expand_outcome` — all that opening a file and putting together its
  pieces can come to
* `Bundle.exists_expansion` — a bundle is the expansion of its entry
-/

namespace Retint.Bundle

open Import Relation

/-! ### Imports -/

/-- The directory that the imports of a file are seen from. -/
def dirOf (file : Path) : Path := file.parent?.getD ⟨[]⟩

/-- The path that a piece imports, if it is an import that is to be inlined. -/
def importOf? (dir : Path) : Piece → Option Path
  | .verbatim _ => none
  | .statement _ target => localPath? dir target

variable (source : Source Id)

/-- A file has an import of a path that is to be inlined. -/
def Wants (file path : Path) : Prop :=
  ∃ content, source.read file = .ok content ∧
    ∃ p ∈ pieces content, importOf? (dirOf file) p = some path

/-- A file has an import of another file that is to be inlined. -/
def Imports (file next : Path) : Prop :=
  ∃ path, Wants source file path ∧ source.canonical path = .ok next

/-- Imports lead from the entry to a file. -/
def Reaches (entry file : Path) : Prop :=
  ∃ first, source.canonical entry = .ok first ∧ ReflTransGen (Imports source) first file

/-! ### What opening a file comes to -/

variable {source} {limit : Nat} {opened seen seen' : List Path} {file path next : Path}
  {p : Piece} {ps : List Piece} {t : Text} {f : Failure}

/-- All that opening a file can come to. -/
inductive Outcome (source : Source Id) (limit : Nat) (opened seen : List Path) (path : Path) :
    Except Failure (Text × List Path) → Prop
  | lost {fault : FileFault} (hpath : source.canonical path = .error fault) :
      Outcome source limit opened seen path (.error (.bundle path fault.message))
  | cycle {file : Path} (hpath : source.canonical path = .ok file) (hopened : file ∈ opened) :
      Outcome source limit opened seen path (.error (cycle opened file))
  | again {file : Path} (hpath : source.canonical path = .ok file) (hopened : file ∉ opened)
      (hseen : file ∈ seen) : Outcome source limit opened seen path (.ok ([], seen))
  | unreadable {file : Path} {fault : FileFault} (hpath : source.canonical path = .ok file)
      (hopened : file ∉ opened) (hseen : file ∉ seen) (hread : source.read file = .error fault) :
      Outcome source limit opened seen path (.error (.bundle file fault.message))
  | first {file : Path} {content : Text} (hpath : source.canonical path = .ok file)
      (hopened : file ∉ opened) (hseen : file ∉ seen) (hread : source.read file = .ok content) :
      Outcome source limit opened seen path
        (expand (flatten source limit (opened ++ [file])) (dirOf file) (pieces content)
          (file :: seen))

theorem flatten_succ (source : Source Id) (limit : Nat) (opened seen : List Path) (path : Path) :
    flatten source (limit + 1) opened seen path =
      match source.canonical path with
      | .error fault => .error (.bundle path fault.message)
      | .ok file =>
        if file ∈ opened then .error (cycle opened file)
        else if file ∈ seen then .ok ([], seen)
        else
          match source.read file with
          | .error fault => .error (.bundle file fault.message)
          | .ok content =>
            expand (flatten source limit (opened ++ [file])) (dirOf file) (pieces content)
              (file :: seen) := by
  simp only [flatten, List.contains_iff_mem]
  rfl

theorem flatten_outcome (source : Source Id) (limit : Nat) (opened seen : List Path) (path : Path) :
    Outcome source limit opened seen path (flatten source (limit + 1) opened seen path) := by
  rw [flatten_succ]
  cases hpath : source.canonical path with
  | error fault => exact .lost hpath
  | ok file =>
    dsimp only
    by_cases hopened : file ∈ opened
    · rw [if_pos hopened]
      exact .cycle hpath hopened
    · rw [if_neg hopened]
      by_cases hseen : file ∈ seen
      · rw [if_pos hseen]
        exact .again hpath hopened hseen
      · rw [if_neg hseen]
        cases hread : source.read file with
        | error fault => exact .unreadable hpath hopened hseen hread
        | ok content => exact .first hpath hopened hseen hread

/-! ### Putting pieces together -/

section

variable {inline : List Path → Path → Id (Except Failure (Text × List Path))} {dir : Path}

/-- All that a piece and the rest can come to. -/
inductive ConsOutcome (inline : List Path → Path → Id (Except Failure (Text × List Path)))
    (dir : Path) (p : Piece) (ps : List Piece) (seen : List Path) :
    Except Failure (Text × List Path) → Prop
  | own {r : Text × List Path} (hpiece : importOf? dir p = none)
      (hrest : expand inline dir ps seen = .ok r) :
      ConsOutcome inline dir p ps seen (.ok (p.text ++ r.1, r.2))
  | ownLost {f : Failure} (hpiece : importOf? dir p = none)
      (hrest : expand inline dir ps seen = .error f) : ConsOutcome inline dir p ps seen (.error f)
  | inlined {path : Path} {here r : Text × List Path} (hpiece : importOf? dir p = some path)
      (hhere : inline seen path = .ok here) (hrest : expand inline dir ps here.2 = .ok r) :
      ConsOutcome inline dir p ps seen (.ok (here.1 ++ r.1, r.2))
  | inlinedLost {path : Path} {here : Text × List Path} {f : Failure}
      (hpiece : importOf? dir p = some path) (hhere : inline seen path = .ok here)
      (hrest : expand inline dir ps here.2 = .error f) : ConsOutcome inline dir p ps seen (.error f)
  | failed {path : Path} {f : Failure} (hpiece : importOf? dir p = some path)
      (hhere : inline seen path = .error f) : ConsOutcome inline dir p ps seen (.error f)

theorem expand_cons_of_own (h : importOf? dir p = none) (ps : List Piece) (seen : List Path) :
    expand inline dir (p :: ps) seen =
      match expand (m := Id) inline dir ps seen with
      | .error f => .error f
      | .ok r => .ok (p.text ++ r.1, r.2) := by
  cases p with
  | verbatim t =>
    simp only [expand, pure_bind]
    cases expand (m := Id) inline dir ps seen <;> rfl
  | statement t target =>
    have hlocal : localPath? dir target = none := h
    simp only [expand, hlocal, pure_bind]
    cases expand (m := Id) inline dir ps seen <;> rfl

theorem expand_cons_of_import (h : importOf? dir p = some path) (ps : List Piece)
    (seen : List Path) : expand inline dir (p :: ps) seen =
      match inline seen path with
      | .error f => .error f
      | .ok here =>
        match expand (m := Id) inline dir ps here.2 with
        | .error f => .error f
        | .ok r => .ok (here.1 ++ r.1, r.2) := by
  cases p with
  | verbatim t => cases h
  | statement t target =>
    have hlocal : localPath? dir target = some path := h
    simp only [expand, hlocal]
    cases inline seen path with
    | error f => rfl
    | ok here =>
      obtain ⟨t, mid⟩ := here
      cases hrest : expand (m := Id) inline dir ps mid <;> simp [bind, pure, hrest]

theorem expand_outcome (inline : List Path → Path → Id (Except Failure (Text × List Path)))
    (dir : Path) (p : Piece) (ps : List Piece) (seen : List Path) :
    ConsOutcome inline dir p ps seen (expand inline dir (p :: ps) seen) := by
  cases hpiece : importOf? dir p with
  | none =>
    rw [expand_cons_of_own hpiece]
    cases hrest : expand (m := Id) inline dir ps seen with
    | error f => exact .ownLost hpiece hrest
    | ok r => exact .own hpiece hrest
  | some path =>
    rw [expand_cons_of_import hpiece]
    cases hhere : inline seen path with
    | error f => exact .failed hpiece hhere
    | ok here =>
      dsimp only
      cases hrest : expand (m := Id) inline dir ps here.2 with
      | error f => exact .inlinedLost hpiece hhere hrest
      | ok r => exact .inlined hpiece hhere hrest

end

/-! ### The expansion -/

/-- A piece of a bundle, with the file that it comes from. -/
structure Block where
  file : Path
  text : Text

def textOf (blocks : List Block) : Text := blocks.flatMap Block.text

/-- What the pieces of a file expand to, given the files that are being inlined, outermost first,
and those that have been met. A file that is being inlined is not imported. -/
inductive Expansion (source : Source Id) :
    List Path → Path → List Piece → List Path → List Block → List Path → Prop
  | nil {opened seen : List Path} {file : Path} : Expansion source opened file [] seen [] seen
  /-- A piece that is no import to be inlined stays as it is. -/
  | own {opened seen seen' : List Path} {file : Path} {p : Piece} {ps : List Piece}
      {blocks : List Block} (hpiece : importOf? (dirOf file) p = none)
      (rest : Expansion source opened file ps seen blocks seen') :
      Expansion source opened file (p :: ps) seen (⟨file, p.text⟩ :: blocks) seen'
  /-- An import of a file that has been met leaves nothing. -/
  | again {opened seen seen' : List Path} {file path next : Path} {p : Piece} {ps : List Piece}
      {blocks : List Block} (hpiece : importOf? (dirOf file) p = some path)
      (hpath : source.canonical path = .ok next) (hopened : next ∉ opened) (hseen : next ∈ seen)
      (rest : Expansion source opened file ps seen blocks seen') :
      Expansion source opened file (p :: ps) seen blocks seen'
  /-- An import of a file that is met first is replaced by what that file expands to. -/
  | first {opened seen mid seen' : List Path} {file path next : Path} {content : Text} {p : Piece}
      {ps : List Piece} {inner blocks : List Block}
      (hpiece : importOf? (dirOf file) p = some path) (hpath : source.canonical path = .ok next)
      (hopened : next ∉ opened) (hseen : next ∉ seen) (hread : source.read next = .ok content)
      (inside : Expansion source (opened ++ [next]) next (pieces content) (next :: seen) inner mid)
      (rest : Expansion source opened file ps mid blocks seen') :
      Expansion source opened file (p :: ps) seen (inner ++ blocks) seen'

/-- What an import of a path is replaced by. -/
inductive Inlining (source : Source Id) (opened seen : List Path) (path : Path) :
    List Block → List Path → Prop
  | again {next : Path} (hpath : source.canonical path = .ok next) (hopened : next ∉ opened)
      (hseen : next ∈ seen) : Inlining source opened seen path [] seen
  | first {next : Path} {content : Text} {blocks : List Block} {seen' : List Path}
      (hpath : source.canonical path = .ok next) (hopened : next ∉ opened) (hseen : next ∉ seen)
      (hread : source.read next = .ok content)
      (inside : Expansion source (opened ++ [next]) next (pieces content) (next :: seen) blocks
        seen') : Inlining source opened seen path blocks seen'

variable {blocks inner : List Block} {mid : List Path}

theorem Expansion.cons_import (hpiece : importOf? (dirOf file) p = some path)
    (h : Inlining source opened seen path inner mid)
    (rest : Expansion source opened file ps mid blocks seen') :
    Expansion source opened file (p :: ps) seen (inner ++ blocks) seen' := by
  cases h with
  | again hpath hopened hseen => exact .again hpiece hpath hopened hseen rest
  | first hpath hopened hseen hread inside =>
    exact .first hpiece hpath hopened hseen hread inside rest

/-- Pieces that are put together come to their expansion if each import does. -/
theorem exists_expansion_of_expand
    {inline : List Path → Path → Id (Except Failure (Text × List Path))}
    (hinline : ∀ seen path t seen', inline seen path = .ok (t, seen') →
      ∃ blocks, Inlining source opened seen path blocks seen' ∧ textOf blocks = t)
    (h : expand inline (dirOf file) ps seen = .ok (t, seen')) :
    ∃ blocks, Expansion source opened file ps seen blocks seen' ∧ textOf blocks = t := by
  induction ps generalizing seen t with
  | nil =>
    obtain ⟨rfl, rfl⟩ := Prod.mk.inj (Except.ok.inj h)
    exact ⟨[], .nil, rfl⟩
  | cons p ps ih =>
    have houtcome := expand_outcome inline (dirOf file) p ps seen
    generalize expand (m := Id) inline (dirOf file) (p :: ps) seen = r at h houtcome
    cases houtcome with
    | own hpiece hrest =>
      obtain ⟨rfl, rfl⟩ := Prod.mk.inj (Except.ok.inj h)
      obtain ⟨blocks, hblocks, htext⟩ := ih hrest
      exact ⟨_, .own hpiece hblocks, by rw [← htext]; rfl⟩
    | inlined hpiece hhere hrest =>
      obtain ⟨rfl, rfl⟩ := Prod.mk.inj (Except.ok.inj h)
      obtain ⟨inner, hinner, hinnerText⟩ := hinline _ _ _ _ hhere
      obtain ⟨blocks, hblocks, htext⟩ := ih hrest
      refine ⟨_, .cons_import hpiece hinner hblocks, ?_⟩
      rw [← hinnerText, ← htext, textOf, List.flatMap_append]
      rfl
    | ownLost => cases h
    | inlinedLost => cases h
    | failed => cases h

theorem exists_inlining (h : flatten source limit opened seen path = .ok (t, seen')) :
    ∃ blocks, Inlining source opened seen path blocks seen' ∧ textOf blocks = t := by
  induction limit generalizing opened seen path t seen' with
  | zero => cases h
  | succ limit ih =>
    have houtcome := flatten_outcome source limit opened seen path
    generalize flatten source (limit + 1) opened seen path = r at h houtcome
    cases houtcome with
    | lost hpath => cases h
    | cycle hpath hopened => cases h
    | again hpath hopened hseen =>
      obtain ⟨rfl, rfl⟩ := Prod.mk.inj (Except.ok.inj h)
      exact ⟨[], .again hpath hopened hseen, rfl⟩
    | unreadable hpath hopened hseen hread => cases h
    | first hpath hopened hseen hread =>
      obtain ⟨blocks, hblocks, htext⟩ := exists_expansion_of_expand (fun _ _ _ _ => ih) h
      exact ⟨blocks, .first hpath hopened hseen hread hblocks, htext⟩

/-- A bundle is the expansion of its entry. -/
theorem exists_expansion {entry : Path} (h : bundle source limit entry = .ok t) :
    ∃ first content blocks seen, source.canonical entry = .ok first ∧
      source.read first = .ok content ∧
      Expansion source [first] first (pieces content) [first] blocks seen ∧ textOf blocks = t := by
  rw [bundle] at h
  cases hflatten : flatten source limit [] [] entry with
  | error f =>
    simp only [hflatten] at h
    cases h
  | ok r =>
    obtain ⟨text, seen⟩ := r
    obtain ⟨blocks, hblocks, htext⟩ := exists_inlining hflatten
    simp only [hflatten] at h
    obtain rfl := Except.ok.inj h
    cases hblocks with
    | again _ _ hseen => cases hseen
    | first hpath _ _ hread inside => exact ⟨_, _, blocks, _, hpath, hread, inside, htext⟩

/-! ### Files that are met -/

theorem append_subset_cons (h : opened ⊆ seen) (next : Path) : opened ++ [next] ⊆ next :: seen := by
  intro g hg
  rcases List.mem_append.1 hg with hg | hg
  · exact List.mem_cons_of_mem _ (h hg)
  · rw [List.mem_singleton.1 hg]
    exact List.mem_cons_self ..

theorem Expansion.subset (h : Expansion source opened file ps seen blocks seen') :
    seen ⊆ seen' := by
  induction h with
  | nil => exact List.Subset.refl _
  | own _ _ ih => exact ih
  | again _ _ _ _ _ ih => exact ih
  | first _ _ _ _ _ _ _ ihInside ihRest =>
    exact fun f hf => ihRest (ihInside (List.mem_cons_of_mem _ hf))

/-- A block is the file's own, or of a file that is met on the way. -/
theorem Expansion.file_of_mem (h : Expansion source opened file ps seen blocks seen') {b : Block}
    (hb : b ∈ blocks) : b.file = file ∨ (b.file ∈ seen' ∧ b.file ∉ seen) := by
  induction h with
  | nil => cases hb
  | own _ _ ih =>
    rcases List.mem_cons.1 hb with rfl | hb
    · exact .inl rfl
    · exact ih hb
  | again _ _ _ _ _ ih => exact ih hb
  | first _ _ _ hseen _ inside rest ihInside ihRest =>
    rcases List.mem_append.1 hb with hb | hb
    · right
      rcases ihInside hb with heq | ⟨hmid, hnew⟩
      · rw [heq]
        exact ⟨rest.subset (inside.subset (List.mem_cons_self ..)), hseen⟩
      · exact ⟨rest.subset hmid, fun h => hnew (List.mem_cons_of_mem _ h)⟩
    · refine (ihRest hb).imp id fun ⟨hseen', hnew⟩ => ⟨hseen', fun h => hnew ?_⟩
      exact inside.subset (List.mem_cons_of_mem _ h)

theorem Expansion.file_mem (h : Expansion source opened file ps seen blocks seen')
    (hfile : file ∈ seen) {b : Block} (hb : b ∈ blocks) : b.file ∈ seen' := by
  rcases h.file_of_mem hb with heq | ⟨hmem, -⟩
  · rw [heq]
    exact h.subset hfile
  · exact hmem

/-- No block comes from another file that had been met before. -/
theorem Expansion.file_ne (h : Expansion source opened file ps seen blocks seen')
    (hnext : next ∈ seen) (hne : next ≠ file) {b : Block} (hb : b ∈ blocks) : b.file ≠ next := by
  rintro rfl
  rcases h.file_of_mem hb with heq | ⟨-, hnew⟩
  · exact hne heq
  · exact hnew hnext

/-- Pieces expand in one way. -/
theorem Expansion.unique (h : Expansion source opened file ps seen blocks seen')
    {blocks' : List Block} {seen'' : List Path}
    (h' : Expansion source opened file ps seen blocks' seen'') :
    blocks' = blocks ∧ seen'' = seen' := by
  induction h generalizing blocks' seen'' with
  | nil =>
    cases h'
    exact ⟨rfl, rfl⟩
  | own hpiece _ ih =>
    cases h' with
    | own _ rest' =>
      obtain ⟨rfl, rfl⟩ := ih rest'
      exact ⟨rfl, rfl⟩
    | again hpiece' => simp [hpiece] at hpiece'
    | first hpiece' => simp [hpiece] at hpiece'
  | again hpiece hpath hopened hseen _ ih =>
    cases h' with
    | own hpiece' => simp [hpiece] at hpiece'
    | again _ _ _ _ rest' => exact ih rest'
    | first hpiece' hpath' _ hnew =>
      obtain rfl := Option.some.inj (hpiece.symm.trans hpiece')
      obtain rfl := Except.ok.inj (hpath.symm.trans hpath')
      exact absurd hseen hnew
  | first hpiece hpath hopened hnew hread _ _ ihInside ihRest =>
    cases h' with
    | own hpiece' => simp [hpiece] at hpiece'
    | again hpiece' hpath' _ hseen _ =>
      obtain rfl := Option.some.inj (hpiece.symm.trans hpiece')
      obtain rfl := Except.ok.inj (hpath.symm.trans hpath')
      exact absurd hseen hnew
    | first hpiece' hpath' _ _ hread' inside' rest' =>
      obtain rfl := Option.some.inj (hpiece.symm.trans hpiece')
      obtain rfl := Except.ok.inj (hpath.symm.trans hpath')
      obtain rfl := Except.ok.inj (hread.symm.trans hread')
      obtain ⟨rfl, rfl⟩ := ihInside inside'
      obtain ⟨rfl, rfl⟩ := ihRest rest'
      exact ⟨rfl, rfl⟩

/-- Whatever is met is reached by imports of the file. -/
theorem Expansion.reaches (h : Expansion source opened file ps seen blocks seen')
    {content : Text} (hread : source.read file = .ok content) (hps : ps ⊆ pieces content)
    {f : Path} (hf : f ∈ seen') (hnew : f ∉ seen) : ReflTransGen (Imports source) file f := by
  induction h generalizing content with
  | nil => exact absurd hf hnew
  | own _ _ ih => exact ih hread (fun p hp => hps (List.mem_cons_of_mem _ hp)) hf hnew
  | again _ _ _ _ _ ih => exact ih hread (fun p hp => hps (List.mem_cons_of_mem _ hp)) hf hnew
  | @first opened seen mid seen' file path next content' p ps inner blocks hpiece hpath _ _ hread'
      inside rest ihInside ihRest =>
    have himports : Imports source file next :=
      ⟨path, ⟨content, hread, p, hps (List.mem_cons_self ..), hpiece⟩, hpath⟩
    by_cases hmid : f ∈ mid
    · by_cases heq : f = next
      · exact heq ▸ .single himports
      · refine .head himports (ihInside hread' (List.Subset.refl _) hmid ?_)
        exact fun hmem => (List.mem_cons.1 hmem).elim heq hnew
    · exact ihRest hread (fun p hp => hps (List.mem_cons_of_mem _ hp)) hf hmid

end Retint.Bundle
