import Retint.Digest
import Retint.Shell.Condition
import Retint.Shell.Print
import Retint.Shell.Tool.Base64
import Retint.Shell.Tool.Copy
import Retint.Shell.Tool.Edit
import Retint.Shell.Tool.Expr
import Retint.Shell.Tool.Files
import Retint.Shell.Tool.Grep
import Retint.Shell.Tool.Lines
import Retint.Shell.Tool.Sort
import Retint.Shell.Tool.Translate

/-!
# The tools by name

## Main definitions

* `Tool.echo`, `Tool.printenv`, `Tool.sha256sum` and other tools that are a line or two
* `Tool.ofName?` — the tool with a name
* `Tool.directories` — where tools are found
-/

namespace Retint.Shell.Tool

variable {m : Type → Type} [Monad m]

/-! ### Small tools -/

/-- A tool that does nothing, with a status. -/
def nothing (status : Nat) : Tool m := fun _ => return status

/-- Arguments with spaces between them. Options say whether a line end follows and whether escapes
have a meaning. -/
def echo : Tool m := fun arguments => do
  let isOption (a : Text) : Bool :=
    match a with
    | '-' :: c :: rest => (c :: rest).all ("neE".toList.contains ·)
    | _ => false
  let letters := (arguments.takeWhile isOption).flatten
  let t := Text.joinWith [' '] (arguments.dropWhile isOption)
  let hasEscapes := (letters.filter fun c => c == 'e' || c == 'E').getLast? = some 'e'
  let (t, goesOn) := if hasEscapes then Format.unescape 0 t else (t, true)
  Run.put (if goesOn && 'n' ∉ letters then t ++ ['\n'] else t)
  return 0

def printf : Tool m := Print.printf (Run.say "printf".toList)

/-- A test under one of its two names. -/
def test (name : String) : Tool m :=
  Condition.test (Run.say name.toList) name.toList

/-- A number for a name that decides where a shell keeps the variable. -/
def hash (name : Text) : Nat :=
  name.foldl (fun n c => n + c.toNat) ((name.headD ' ').toNat * 16) % 39

/-- The variables that other programs see, in the order in which a shell hands them on. -/
def exported : Run m (List (Text × Text)) := do
  let all := (← Run.process).bindings.entries.mergeSort fun x y => hash x.1 ≤ hash y.1
  return all.filterMap fun (name, v) =>
    if v.isExported then v.value.map fun value => (name, value) else none

def printenv : Tool m := fun arguments => do
  let all ← exported
  if arguments.isEmpty then
    Run.put (all.flatMap fun (name, value) => name ++ '=' :: value ++ ['\n'])
    return 0
  else
    arguments.foldlM (fun status name => do
      match all.lookup name with
      | some value => do
        Run.put (value ++ ['\n'])
        return status
      | none => return 1) 0

def sha256sum : Tool m := withOptions "sha256sum" (.of "bt") 1 fun a =>
  eachOperand "sha256sum" 1 a.operands fun name t =>
    Run.put (Raw.ofText (Digest.ofBytes (Raw.bytes t)) ++ "  ".toList ++ name ++ ['\n'])

def uname : Tool m := withOptions "uname" (.of "s") 1 fun _ => do
  Run.put "Linux\n".toList
  return 0

def whoami : Tool m := fun _ => do
  Run.put "root\n".toList
  return 0

def pwd : Tool m := fun _ => do
  Run.put ((← Run.process).directory ++ ['\n'])
  return 0

/-! ### The table -/

/-- The tool with a name. -/
def ofName? (name : Text) : Option (Tool m) :=
  match String.ofList name with
  | "[" => some (test "[")
  | "base64" => some base64
  | "basename" => some basename
  | "cat" => some cat
  | "chmod" => some chmod
  | "cmp" => some cmp
  | "comm" => some comm
  | "cp" => some cp
  | "cut" => some cut
  | "dirname" => some dirname
  | "echo" => some echo
  | "egrep" => some (grepIn (some .extended))
  | "expand" => some expand
  | "expr" => some expr
  | "false" => some (nothing 1)
  | "fgrep" => some (grepIn none)
  | "fold" => some fold
  | "grep" => some grep
  | "head" => some head
  | "ls" => some ls
  | "mkdir" => some mkdir
  | "mktemp" => some mktemp
  | "mv" => some mv
  | "nl" => some nl
  | "paste" => some paste
  | "printenv" => some printenv
  | "printf" => some printf
  | "pwd" => some pwd
  | "readlink" => some readlink
  | "realpath" => some realpath
  | "rev" => some rev
  | "rm" => some rm
  | "rmdir" => some rmdir
  | "sed" => some sed
  | "seq" => some seq
  | "sha256sum" => some sha256sum
  | "sleep" | "sync" | "true" => some (nothing 0)
  | "sort" => some sort
  | "tac" => some tac
  | "tail" => some tail
  | "tee" => some tee
  | "test" => some (test "test")
  | "touch" => some touch
  | "tr" => some tr
  | "uname" => some uname
  | "uniq" => some uniq
  | "wc" => some wc
  | "whoami" => some whoami
  | "yes" => some yes
  | _ => none

/-- The directories in which tools are found. -/
def directories : List Text := ["/usr/bin", "/bin"].map String.toList

end Retint.Shell.Tool
