import Retint.Shell.Glob

/-!
# Fields

A word stands for fragments of text, which make fields: text that comes from outside is split where
separators are.

## Main definitions

* `Shell.Fragment` — a part of what a word stands for
* `Shell.fields` — the fields that fragments make
* `Shell.joined`, `Shell.marked` — the fragments as one text, and as a pattern
* `Shell.readFields` — the fields of a line, of which there are at most so many

## Main results

* `Shell.fields_held` — what is quoted is one field
-/

namespace Retint.Shell

open Glob (Marked)

/-- A part of what a word stands for. Text can be open to splitting, and its characters can have a
meaning in a pattern. A gap separates two fields in any case. All of no arguments is less than a
field that is empty. -/
inductive Fragment
  | text (splits hasMeaning : Bool) (t : Text)
  | gap
  | nothing
deriving DecidableEq, Repr

/-- The characters that separate fields if nothing else is said. -/
def blanks : Text := [' ', '\t', '\n']

/-- Whether a separator is white space, of which several together count as one. -/
def isLoose (separators : Text) (c : Char) : Bool := c ∈ separators && c ∈ blanks

/-- What has been read of some fields, the latest first. -/
structure Splitting where
  finished : List Marked := []
  /-- The field that has been begun, in reverse. -/
  current : Option Marked := none
  /-- Whether white space has just ended a field. -/
  isLoose : Bool := false

namespace Splitting

/-- Ends the field that has been begun. -/
def close (d : Splitting) (isLoose : Bool) : Splitting :=
  match d.current with
  | some f => ⟨f.reverse :: d.finished, none, isLoose⟩
  | none => { d with isLoose := isLoose && d.isLoose }

/-- Adds a character to the current field. -/
def add (d : Splitting) (c : Char × Bool) : Splitting :=
  ⟨d.finished, some (c :: d.current.getD []), false⟩

/-- Adds a character that is open to splitting. -/
def split (separators : Text) (hasMeaning : Bool) (d : Splitting) (c : Char) : Splitting :=
  if Shell.isLoose separators c then d.close true
  else if c ∈ separators then
    match d.current with
    | some _ => d.close false
    | none =>
      if d.isLoose then { d with isLoose := false }
      else ⟨[] :: d.finished, none, false⟩
  else d.add (c, hasMeaning)

/-- Adds a fragment. -/
def fragment (separators : Text) (d : Splitting) : Fragment → Splitting
  | .text true hasMeaning t => t.foldl (split separators hasMeaning) d
  | .text false hasMeaning t =>
    t.foldl (fun d c => d.add (c, hasMeaning)) { d with current := some (d.current.getD []) }
  | .gap => d.close false
  | .nothing => d

end Splitting

/-- The fields that fragments make. -/
def fields (separators : Text) (fs : List Fragment) : List Marked :=
  let found := ((fs.foldl (Splitting.fragment separators) {}).close false).finished.reverse
  if found = [[]] ∧ .nothing ∈ fs then [] else found

theorem fields_held (separators t : Text) (hasMeaning : Bool) :
    fields separators [.text false hasMeaning t] = [t.map (·, hasMeaning)] := by
  have h (t : Text) (d : Splitting) (f : Marked) (hd : d.current = some f) :
      (t.foldl (fun d c => d.add (c, hasMeaning)) d).finished = d.finished ∧
        (t.foldl (fun d c => d.add (c, hasMeaning)) d).current =
          some ((t.map (·, hasMeaning)).reverse ++ f) := by
    induction t generalizing d f with
    | nil => simp [hd]
    | cons c t ih =>
      have := ih (d.add (c, hasMeaning)) ((c, hasMeaning) :: f) (by simp [Splitting.add, hd])
      simpa [Splitting.add] using this
  obtain ⟨h₁, h₂⟩ := h t { current := some [] } [] rfl
  simp only [fields, List.foldl_cons, List.foldl_nil, Splitting.fragment, Option.getD_none]
  simp [Splitting.close, h₁, h₂]

/-- The fragments put together, as one text. -/
def joined (fs : List Fragment) : Text :=
  fs.flatMap fun
    | .text _ _ t => t
    | .gap => [' ']
    | .nothing => []

/-- The fragments put together, as a pattern. -/
def marked (fs : List Fragment) : Marked :=
  fs.flatMap fun
    | .text _ hasMeaning t => t.map (·, hasMeaning)
    | .gap => [(' ', false)]
    | .nothing => []

/-! ### The fields of a line -/

/-- Cuts off a field and the separators after it. A character that is marked separates nothing. -/
def cutField (separators : Text) (t : Marked) : Marked × Marked :=
  let separates (c : Char × Bool) : Bool := !c.2 && c.1 ∈ separators
  let loose (c : Char × Bool) : Bool := !c.2 && isLoose separators c.1
  let field := t.takeWhile (! separates ·)
  let rest := (t.dropWhile (! separates ·)).dropWhile loose
  match rest with
  | c :: more => (field, if separates c && !loose c then more.dropWhile loose else rest)
  | [] => (field, [])

/-- The fields of a line, at most so many; the last one takes the rest. -/
def readFields (separators : Text) : Nat → Marked → List Text
  | 0, _ => []
  | 1, t =>
    let loose (c : Char × Bool) : Bool := !c.2 && isLoose separators c.1
    let (field, rest) := cutField separators t
    if rest.isEmpty then [Glob.text field]
    else [Glob.text (t.reverse.dropWhile loose).reverse]
  | n + 1, t =>
    let (field, rest) := cutField separators t
    Glob.text field :: readFields separators n rest

end Retint.Shell
