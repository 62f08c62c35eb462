import Retint.Shell.Arithmetic
import Retint.Shell.Field
import Retint.Shell.State

/-!
# What words stand for

Parameters, the output of commands and arithmetic are put in their places, the result is split into
fields, and a field that is a pattern becomes the names of the files that it matches.

## Main definitions

* `Shell.parameter?` — the value of a parameter
* `Shell.assign` — giving a variable a value
* `Shell.expand` — the fragments that a word stands for
* `Shell.expandPath` — the files that a pattern matches
* `Shell.expandFields`, `expandJoined`, `expandPattern` — what becomes of a word

## Implementation notes

Commands in words are run by `catch`, which is a parameter here.
-/

namespace Retint.Shell

open Glob (Marked)

variable {m : Type → Type} [Monad m]

/-! ### Parameters -/

/-- The number of the process. -/
def processNumber : Text := "4242".toList

/-- The number of the process that was last started in the background. -/
def backgroundNumber : Text := "4243".toList

/-- The letters of all options, in the order in which they are shown. -/
def optionOrder : Text := "pubaCEVvxsnmiIfe".toList

/-- The separators of fields. -/
def Process.separators (p : Process) : Text :=
  match p.bindings.get? "IFS".toList with
  | some v => v.value.getD blanks
  | none => blanks

/-- What stands between the arguments when they are one text. -/
def Process.glue (p : Process) : Text :=
  match p.bindings.get? "IFS".toList with
  | some { value := some separators, .. } => separators.take 1
  | _ => [' ']

/-- The value of a parameter, if it has one. -/
def Process.parameter? (p : Process) (name : Text) : Option Text :=
  match String.ofList name with
  | "#" => some (Raw.decimal p.arguments.length)
  | "?" => some (Raw.decimal p.status)
  | "$" => some processNumber
  | "!" => p.background.map fun _ => backgroundNumber
  | "-" => some (optionOrder.filter (· ∈ p.options))
  | "0" => some p.name
  | "@" => if p.arguments.isEmpty then none else some (Text.joinWith [' '] p.arguments)
  | "*" => if p.arguments.isEmpty then none else some (Text.joinWith p.glue p.arguments)
  | _ =>
    if name.all Char.isDigit then p.arguments[Text.ofDecimal name - 1]?
    else (p.bindings.get? name).bind Variable.value

/-- The value of a parameter as fragments. -/
def Process.fragments (p : Process) (quoted : Bool) (name value : Text) : List Fragment :=
  if name = ['@'] ∨ (name = ['*'] ∧ quoted = false) then
    if p.arguments.isEmpty then [.nothing]
    else (p.arguments.map fun a => Fragment.text (!quoted) (!quoted) a).intersperse .gap
  else [.text (!quoted) (!quoted) value]

/-- Gives a variable a value. -/
def assign (name value : Text) : Run m Unit := do
  let p ← Run.process
  let old := (p.bindings.get? name).getD { value := none }
  if old.isFixed then Run.abort (name ++ ": is read only".toList)
  else
    let isExported := old.isExported || 'a' ∈ p.options
    let new := { old with value := some value, isExported := isExported }
    Run.modifyProcess fun p => { p with bindings := p.bindings.insert name new }

/-- Gives a variable a value that other programs see. -/
def assignExported (name value : Text) : Run m Unit := do
  assign name value
  Run.modifyProcess fun p =>
    let new : Variable := { (p.bindings.get? name).getD { value := none } with isExported := true }
    { p with bindings := p.bindings.insert name new }

/-- Literal text that stands for a value that is not there is open to splitting like the value. -/
def opened : Fragment → Fragment
  | .text _ true t => .text true true t
  | f => f

/-- What is said about an expression that has no value. -/
def faultMessage (expression : Text) : Arithmetic.Fault → Text
  | .expression message =>
    "arithmetic expression: ".toList ++ message.toList ++ ": \"".toList ++ expression ++ ['"']
  | .number value => "Illegal number: ".toList ++ value

/-- The value of an expression. -/
def calculate (expression : Text) : Run m Int := do
  let p ← Run.process
  match Arithmetic.evaluate p.parameter? expression with
  | .ok (n, assigned) => do
    assigned.forM fun (name, value) => assign name value
    return n
  | .error fault => Run.abort (faultMessage expression fault)

/-! ### Words -/

mutual

/-- The fragments that a word stands for. -/
def expand (catching : Command → Run m Text) : Nat → Word → Run m (List Fragment)
  | 0, _ | _ + 1, [] => return []
  | fuel + 1, p :: rest => do
    let here ← expandPiece catching fuel p
    return here ++ (← expand catching fuel rest)

/-- The fragments that a piece of a word stands for. -/
def expandPiece (catching : Command → Run m Text) : Nat → Piece → Run m (List Fragment)
  | 0, _ => return []
  | _ + 1, .literal quoted t => return [.text false (!quoted) t]
  | _ + 1, .output quoted body => do
    let t ← catching body
    return [.text (!quoted) (!quoted)
      (Raw.withoutTrailing '\n' (t.filter fun c => c != Char.ofNat 0))]
  | fuel + 1, .arithmetic quoted w => do
    let n ← calculate (joined (← expand catching fuel w))
    return [.text (!quoted) (!quoted) (Raw.decimal n)]
  | fuel + 1, .parameter quoted name use => do
    let p ← Run.process
    let value := p.parameter? name
    let isSet (alsoEmpty : Bool) : Bool := value.any fun v => !(alsoEmpty && v.isEmpty)
    let here := p.fragments quoted name (value.getD [])
    let needed : Run m Unit :=
      if value.isNone && 'u' ∈ p.options && name != ['@'] && name != ['*'] then
        Run.abort (name ++ ": parameter not set".toList)
      else pure ()
    let other (w : Word) : Run m (List Fragment) := do
      let fs ← expand catching fuel w
      return if quoted then fs else fs.map opened
    match use with
    | .value => do
      needed
      return here
    | .length => do
      needed
      let t := if name = ['@'] ∨ name = ['*'] then Text.joinWith [' '] p.arguments
        else value.getD []
      let n := t.length
      return [.text (!quoted) (!quoted) (Raw.decimal n)]
    | .default alsoEmpty w => if isSet alsoEmpty then return here else other w
    | .alternative alsoEmpty w => if isSet alsoEmpty then other w else return []
    | .assign alsoEmpty w =>
      if isSet alsoEmpty then return here
      else do
        let t := joined (← expand catching fuel w)
        if Raw.isName name then
          assign name t
          return [.text (!quoted) (!quoted) t]
        else Run.abort (name ++ ": bad variable name".toList)
    | .demand alsoEmpty w =>
      if isSet alsoEmpty then return here
      else do
        let t := joined (← expand catching fuel w)
        let message := if !w.isEmpty then t
          else if alsoEmpty then "parameter not set or null".toList
          else "parameter not set".toList
        Run.abort (name ++ ": ".toList ++ message)
    | .trim atEnd longest w => do
      needed
      let pattern := Glob.ofMarked (marked (← expand catching fuel w))
      let t := value.getD []
      return [.text (!quoted) (!quoted)
        (if atEnd then Glob.trimEnd longest pattern t else Glob.trimStart longest pattern t)]
    | .invalid => Run.abort "Bad substitution".toList

end

/-! ### Files that match -/

/-- The names in a directory that match a pattern. A leading dot must be written out. -/
def matching (directory : Text) (pattern : Marked) : Run m (List Text) := do
  let path ← Run.pathOf (if directory.isEmpty then ['.'] else directory)
  match ← Run.onHost (·.list path) with
  | .error _ => return []
  | .ok names =>
    let items := Glob.ofMarked pattern
    let isHidden := items.head? = some (.char '.')
    let all := (names.map Raw.ofText) ++ if isHidden then [['.'], ['.', '.']] else []
    return (all.filter fun name =>
      (isHidden || name.head? != some '.') && Glob.isMatch items name).mergeSort Text.le

/-- The text of a part of a path that is no pattern. -/
def partText (part : Marked) : Text :=
  (Glob.ofMarked part).filterMap fun
    | .char c => some c
    | _ => none

/-- The parts of a path between its slashes. -/
def pathParts : Marked → List Marked
  | [] => [[]]
  | (c, hasMeaning) :: rest =>
    if c = '/' then [] :: pathParts rest
    else
      match pathParts rest with
      | [] => [[(c, hasMeaning)]]
      | part :: more => ((c, hasMeaning) :: part) :: more

/-- Goes on from paths with the parts of a pattern. -/
def expandParts : List Text → List Marked → Run m (List Text)
  | found, [] => return found
  | found, part :: rest => do
    let next ← found.flatMapM fun path => do
      let names ← if Glob.isPattern part then matching path part else pure [partText part]
      return names.map (path ++ ·)
    if rest.isEmpty then
      next.filterM fun path => do return (← Run.kindOf path).toOption.isSome
    else expandParts (next.map (· ++ ['/'])) rest

/-- The files that a pattern matches; if there are none, or if it is no pattern, its own text. -/
def expandPath (t : Marked) : Run m (List Text) := do
  if !Glob.isPattern t || (← Run.hasOption 'f') then return [Glob.text t]
  match ← expandParts [[]] (pathParts t) with
  | [] => return [Glob.text t]
  | found => return found

/-! ### Results -/

/-- A word that begins with a tilde, with the home directory in its place. -/
def tilde (w : Word) : Run m Word := do
  match w with
  | .literal false ('~' :: t) :: rest =>
    if t.head?.all (· == '/') ∧ (t ≠ [] ∨ rest = []) then
      match ← Run.valueOf? "HOME".toList with
      | some home => return .literal true home :: .literal false t :: rest
      | none => return w
    else return w
  | _ => return w

/-- The fields that a word stands for. -/
def expandFields (catching : Command → Run m Text) (fuel : Nat) (w : Word) : Run m (List Text) := do
  let fs ← expand catching fuel (← tilde w)
  (fields (← Run.process).separators fs).flatMapM expandPath

/-- The one text that a word stands for. -/
def expandJoined (catching : Command → Run m Text) (fuel : Nat) (w : Word) : Run m Text := do
  return joined (← expand catching fuel (← tilde w))

/-- The pattern that a word stands for. -/
def expandPattern (catching : Command → Run m Text) (fuel : Nat) (w : Word) : Run m Marked := do
  return marked (← expand catching fuel (← tilde w))

end Retint.Shell
