import Retint.Shell.State

/-!
# Options of tools

A tool is called with options and operands. A short option is a letter after a hyphen, a long one a
word after two; either can have a value.

## Main definitions

* `Tool.Usage` — the options that a tool has
* `Tool.Arguments` — the options and operands that a tool is called with
* `Tool.Usage.read` — reading arguments
* `Tool`, `Tool.withOptions` — a tool, and one that reads its arguments first

## Main results

* `Tool.Usage.read_of_operands` — arguments without a hyphen are operands
-/

namespace Retint.Shell

/-- A tool: what it does with its arguments, and its status. -/
abbrev Tool (m : Type → Type) := List Text → Run m Nat

namespace Tool

/-- The options of a tool: letters without a value, letters with one, and long names of letters. -/
structure Usage where
  flags : Text
  valued : Text := []
  long : List (Text × Char) := []

/-- What a tool is called with. -/
structure Arguments where
  options : List (Char × Text) := []
  operands : List Text := []
deriving DecidableEq, Repr

namespace Arguments

def has (a : Arguments) (letter : Char) : Bool := a.options.any (·.1 == letter)

/-- The last value of an option. -/
def value? (a : Arguments) (letter : Char) : Option Text :=
  (a.options.reverse.find? (·.1 == letter)).map Prod.snd

/-- All values of an option. -/
def values (a : Arguments) (letter : Char) : List Text :=
  (a.options.filter (·.1 == letter)).map Prod.snd

/-- The arguments with one more option. -/
def add (a : Arguments) (letter : Char) (value : Text) : Arguments :=
  { a with options := (letter, value) :: a.options }

end Arguments

namespace Usage

/-- Usage with long names given as texts. -/
def of (flags : String) (valued : String := "") (long : List (String × Char) := []) : Usage :=
  ⟨flags.toList, valued.toList, long.map fun (name, c) => (name.toList, c)⟩

/-- The letters after a hyphen: the options they are, and whether the last one waits for its
value. -/
def letters (u : Usage) : Text → Except Text (List (Char × Text) × Option Char)
  | [] => .ok ([], none)
  | c :: rest =>
    if c ∈ u.valued then if rest.isEmpty then .ok ([], some c) else .ok ([(c, rest)], none)
    else if c ∈ u.flags then
      (u.letters rest).map fun (found, waiting) => ((c, []) :: found, waiting)
    else .error ("invalid option -- '".toList ++ [c, '\''])

/-- The letter of a long name, which may be cut short. -/
def long? (u : Usage) (name : Text) : Option Char :=
  (u.long.lookup name).or ((u.long.find? fun entry => Text.startsWith name entry.1).map Prod.snd)

/-- A long option: its letter, and its value if there is one. -/
def longOption (u : Usage) (t : Text) : Except Text (Char × Option Text) :=
  let name := t.takeWhile (· != '=')
  match u.long? name with
  | some c => .ok (c, if name.length < t.length then some (t.drop (name.length + 1)) else none)
  | none => .error ("unrecognized option '--".toList ++ t ++ ['\''])

/-- Reads arguments. The first operand ends the options if `strict`; `waiting` is an option whose
value comes next. -/
def readFrom (u : Usage) (strict : Bool) : Option Char → List Text → Except Text Arguments
  | none, [] => .ok {}
  | some c, [] => .error ("option requires an argument -- '".toList ++ [c, '\''])
  | some c, value :: rest => (readFrom u strict none rest).map (·.add c value)
  | none, a :: rest =>
    match a with
    | ['-', '-'] => .ok { operands := rest }
    | '-' :: '-' :: name =>
      match u.longOption name with
      | .error message => .error message
      | .ok (c, some value) => (readFrom u strict none rest).map (·.add c value)
      | .ok (c, none) =>
        if c ∈ u.valued then readFrom u strict (some c) rest
        else (readFrom u strict none rest).map (·.add c [])
    | '-' :: c :: more =>
      match u.letters (c :: more) with
      | .error message => .error message
      | .ok (found, waiting) =>
        (readFrom u strict waiting rest).map fun a => { a with options := found ++ a.options }
    | a =>
      if strict then .ok { operands := a :: rest }
      else (readFrom u strict none rest).map fun r => { r with operands := a :: r.operands }

/-- Reads the arguments of a tool, of which options and operands may come in any order. -/
def read (u : Usage) (arguments : List Text) : Except Text Arguments :=
  u.readFrom false none arguments

/-- Reads the arguments of a tool, of which the options come first. -/
def readStrict (u : Usage) (arguments : List Text) : Except Text Arguments :=
  u.readFrom true none arguments

theorem read_of_operands (u : Usage) (arguments : List Text)
    (h : ∀ a ∈ arguments, a.head? ≠ some '-') :
    u.read arguments = .ok { operands := arguments } := by
  unfold read
  induction arguments with
  | nil => rfl
  | cons a rest ih =>
    have ha : a.head? ≠ some '-' := h a (by simp)
    have ih := ih fun b hb => h b (by simp [hb])
    unfold readFrom
    split
    · simp at ha
    · simp at ha
    · simp at ha
    · simp [ih, Except.map]

end Usage

/-! ### Tools -/

variable {m : Type → Type} [Monad m]

/-- Tells of a mistake in the arguments of a tool. -/
def misuse (name : String) (message : Text) : Run m Unit := do
  Run.say name.toList message
  Run.write 2 ("Try '".toList ++ name.toList ++ " --help' for more information.\n".toList)

/-- A tool that reads its options first. -/
def withOptions (name : String) (u : Usage) (badStatus : Nat) (f : Arguments → Run m Nat) :
    Tool m := fun arguments => do
  match u.read arguments with
  | .ok a => f a
  | .error message => do
    misuse name message
    return badStatus

/-- Goes through operands, or the input if there are none. An operand that cannot be read is told
of, and makes the status `badStatus`. -/
def eachOperand (name : String) (badStatus : Nat) (operands : List Text)
    (f : Text → Text → Run m Unit) : Run m Nat := do
  let operands := if operands.isEmpty then [['-']] else operands
  operands.foldlM (fun status operand => do
    match ← Run.readOperand operand with
    | .ok t => do
      f operand t
      return status
    | .error fault => do
      Run.say name.toList (operand ++ ": ".toList ++ reason fault)
      return badStatus) 0

/-- The contents of all operands put together, and a status. -/
def readOperands (name : String) (badStatus : Nat) (operands : List Text) :
    Run m (Text × Nat) := do
  let operands := if operands.isEmpty then [['-']] else operands
  operands.foldlM (fun (all, status) operand => do
    match ← Run.readOperand operand with
    | .ok t => return (all ++ t, status)
    | .error fault => do
      Run.say name.toList (operand ++ ": ".toList ++ reason fault)
      return (all, badStatus)) ([], 0)

/-- A tool that makes its output of its input line by line or as a whole. -/
def filter (name : String) (f : Text → Text) (operands : List Text) : Run m Nat := do
  let (t, status) ← readOperands name 1 operands
  Run.put (f t)
  return status

end Tool

end Retint.Shell
