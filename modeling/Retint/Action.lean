import Retint.Failure

/-!
# Work that asks its surroundings

The generation of a theme reads and writes files, runs a compiler and remembers results. It is
described here as an action: a tree of requests, each followed by what is done with the reply. An
action does nothing by itself; what the replies are is up to whoever runs it. So the same action
can be run on a file tree in memory, in the real world, or step by step among others.

Two actions can be run together. Which of them takes the next step is itself a request, so a law
that holds for all replies holds for every order in which their steps can come.

## Main definitions

* `Request`, `Request.Reply` — what can be asked for, and what comes back
* `Action` — a tree of requests
* `Action.both`, `Action.all` — running actions together
* `Stage` — an action that can fail

## Main results

* `Action.bind_assoc` — actions compose as a monad
-/

namespace Retint

/-- How much a log message matters, from the most to the least. -/
inductive Level
  | error | warn | info | debug | trace
deriving DecidableEq, Repr

namespace Level

def rank : Level → Nat
  | error => 1
  | warn => 2
  | info => 3
  | debug => 4
  | trace => 5

def name : Level → Text
  | error => "ERROR".toList
  | warn => "WARN".toList
  | info => "INFO".toList
  | debug => "DEBUG".toList
  | trace => "TRACE".toList

end Level

/-- What an action can ask for. -/
inductive Request
  | readText (p : Path)
  | canonical (p : Path)
  | list (p : Path)
  | isFile (p : Path)
  | walk (p : Path)
  | createDirs (p : Path)
  | writeText (p : Path) (t : Text)
  | compile (source : Text) (includes : List Path)
  | remembered (digest : Text)
  | remember (digest theme : Text)
  | openLog (p : Path) (detail : Nat)
  | log (level : Level) (message : Text)
  | print (t : Text)
  | printError (t : Text)
  /-- Whether the first of two actions takes the next step. -/
  | turn
deriving DecidableEq, Repr

/-- What comes back for a request. -/
abbrev Request.Reply : Request → Type
  | readText _ => Except FileFault Text
  | canonical _ => Except FileFault Path
  | list _ => Except FileFault (List Text)
  | isFile _ => Bool
  | walk _ => Except FileFault (List Path)
  | createDirs _ => Except FileFault Unit
  | writeText _ _ => Except FileFault Unit
  | compile _ _ => Except Failure Text
  | remembered _ => Option Text
  | remember _ _ => Unit
  | openLog _ _ => Except FileFault Unit
  | log _ _ => Unit
  | print _ => Unit
  | printError _ => Unit
  | turn => Bool

/-- Work that asks its surroundings and comes to an answer. -/
inductive Action (α : Type) : Type
  | done (answer : α)
  | ask (r : Request) (next : r.Reply → Action α)

namespace Action

variable {α β γ : Type}

def bind : Action α → (α → Action β) → Action β
  | done a, f => f a
  | ask r next, f => ask r fun reply => bind (next reply) f

instance : Monad Action where
  pure := done
  bind := bind

theorem done_bind (a : α) (f : α → Action β) : bind (done a) f = f a := rfl

theorem bind_done (p : Action α) : bind p done = p := by
  induction p with
  | done => rfl
  | ask r next ih => simp [bind, ih]

theorem bind_assoc (p : Action α) (f : α → Action β) (g : β → Action γ) :
    bind (bind p f) g = bind p fun a => bind (f a) g := by
  induction p with
  | done => rfl
  | ask r next ih => simp [bind, ih]

instance : LawfulMonad Action :=
  LawfulMonad.mk' Action (fun p => bind_done p) (fun a f => done_bind a f)
    (fun p f g => bind_assoc p f g)

/-- The action that asks for one thing. -/
def request (r : Request) : Action r.Reply := ask r done

def log (level : Level) (message : Text) : Action Unit := request (.log level message)

/-! ### Running actions together -/

/-- Goes on with the second of two actions while the first waits for the reply to `r`. What is to
be done when that reply is there and so much is left of the second action is `next`. -/
def besides (r : Request) (next : r.Reply → Action β → Action γ) : Action β → Action γ
  | done b => ask r fun reply => next reply (done b)
  | ask s more => ask .turn fun first =>
    if first then ask r fun reply => next reply (ask s more)
    else ask s fun reply => besides r next (more reply)

/-- Runs two actions together. Their steps may come in any order. -/
def both : Action α → Action β → Action (α × β)
  | done a => fun q => bind q fun b => done (a, b)
  | ask r next => besides r fun reply => both (next reply)

/-- Runs all actions together and collects their answers in the order of the actions. -/
def all : List (Action α) → Action (List α)
  | [] => done []
  | p :: ps => bind (both p (all ps)) fun (a, as) => done (a :: as)

end Action

/-- An action that can fail. -/
abbrev Stage := ExceptT Failure Action

namespace Stage

variable {α : Type}

/-- An action as a stage that does not fail. -/
def of (p : Action α) : Stage α := ExceptT.lift p

/-- Makes the fault of a file access a failure that says what the access was for. -/
def orFail (doing : Text) (p : Action (Except FileFault α)) : Stage α :=
  ExceptT.mk (Action.bind p fun
    | .ok a => .done (.ok a)
    | .error fault => .done (.error (.file doing fault)))

end Stage

end Retint
