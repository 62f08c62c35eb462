import Retint.Shell.Expand

/-!
# Redirections

Before a command is run, its streams can be made to lead elsewhere: to files, to texts, or to where
other streams lead.

## Main definitions

* `Shell.redirectAll` — makes streams lead where redirections say
* `Shell.keepingStreams` — a step after which the streams are as before
-/

namespace Retint.Shell

variable {m : Type → Type} [Monad m]

/-- What is said when a file cannot be opened. -/
def openMistake (creates : Bool) (name : Text) (fault : FileFault) : Text :=
  let isAway := fault matches .notFound | .notDirectory
  let reason := if isAway then (if creates then "Directory nonexistent" else "No such file").toList
    else reason fault
  (if creates then "cannot create " else "cannot open ").toList ++ name ++ ": ".toList ++ reason

/-- A redirection whose word has been replaced by what it stands for. -/
inductive Ready
  | file (stream : Nat) (access : Access) (name : Text)
  | copy (stream : Nat) (source : Option Nat)
  | text (stream : Nat) (content : Text)

/-- Replaces the word of a redirection by what it stands for. -/
def Redirection.ready (catching : Command → Run m Text) (fuel : Nat) :
    Redirection → Run m Ready
  | .file stream access w => do return .file stream access (← expandJoined catching fuel w)
  | .text stream w => do return .text stream (joined (← expand catching fuel w))
  | .copy stream w => do
    match ← expandJoined catching fuel w with
    | ['-'] => return .copy stream none
    | [c] => if c.isDigit then return .copy stream (some (c.toNat - '0'.toNat)) else bad
    | _ => bad
where
  bad : Run m Ready := Run.abort "Syntax error: Bad fd number".toList

/-- Makes a stream lead where a redirection says. The answer says whether that works. -/
def Ready.apply : Ready → Run m Bool
  | .file stream access name => do
    match ← open? access name with
    | .ok k => do
      Run.connect stream (some k)
      return true
    | .error fault => do
      Run.report (openMistake (access != .read) name fault)
      return false
  | .text stream content => do
    Run.connect stream (some (← Run.addChannel (.source content)))
    return true
  | .copy stream none => do
    Run.connect stream none
    return true
  | .copy stream (some source) => do
    match ← Run.channelOf source with
    | some k => do
      Run.connect stream (some k)
      return true
    | none => do
      Run.report (Raw.decimal source ++ ": Bad file descriptor".toList)
      return false

/-- Does one after the other until something does not work. -/
def applyAll : List Ready → Run m Bool
  | [] => return true
  | r :: rest => do
    if ← r.apply then applyAll rest else return false

/-- Makes streams lead where redirections say. The answer says whether that works. -/
def redirectAll (catching : Command → Run m Text) (fuel : Nat) (rs : List Redirection) :
    Run m Bool := do
  applyAll (← rs.mapM (·.ready catching fuel))

/-- A step after which the streams are as before. -/
def keepingStreams {α : Type} (body : Run m α) : Run m α := do
  let old := (← Run.process).streams
  Run.ensuring body (Run.modifyProcess fun p => { p with streams := old })

end Retint.Shell
