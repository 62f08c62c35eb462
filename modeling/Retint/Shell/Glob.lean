import Retint.Shell.Raw

/-!
# Patterns of the shell

A pattern matches a text as a whole: a star stands for any characters, a question mark for any one,
and brackets for one of a set. A character that has been quoted stands for itself.

## Main definitions

* `Glob.Marked` — a text whose characters may have a meaning
* `Glob.ofMarked` — the pattern that a marked text is
* `Glob.isMatch` — whether a pattern matches
* `Glob.trim` — a text without what a pattern matches at one of its ends

## Main results

* `Glob.isMatch_literal` — a pattern without special items matches its own text only
-/

namespace Retint.Shell.Glob

/-- A text, each character with whether it can have a meaning in a pattern. -/
abbrev Marked := List (Char × Bool)

/-- The characters of a marked text. -/
def text (t : Marked) : Text := t.map Prod.fst

/-- An item of a pattern. -/
inductive Item
  | char (c : Char)
  | any
  /-- Any number of characters. -/
  | run
  | set (isNegated : Bool) (members : List (Char × Char)) (classes : List Text)
deriving DecidableEq, Repr

/-- Whether a character is in a set. -/
def contains (members : List (Char × Char)) (classes : List Text) (c : Char) : Bool :=
  members.any (fun (low, high) => low ≤ c && c ≤ high) ||
    classes.any fun name => (Raw.class? name).any (· c)

/-! ### Reading patterns -/

/-- The name of a class at the start of a set, and the number of its characters with its signs. -/
def className? (t : Marked) : Option (Text × Nat) :=
  match text t with
  | '[' :: ':' :: rest =>
    let name := rest.takeWhile Char.isAlpha
    if Text.startsWith ":]".toList (rest.drop name.length) then some (name, name.length + 4)
    else none
  | _ => none

/-- The members of a set up to the bracket that closes it, and the number of characters up to and
including that bracket. The first number counts the characters still to be skipped. -/
def members? (isFirst : Bool) : Nat → Marked → Option (List (Char × Char) × List Text × Nat)
  | _, [] => none
  | skip + 1, _ :: rest => (members? false skip rest).map fun (ms, cs, n) => (ms, cs, n + 1)
  | 0, (c, hasMeaning) :: rest =>
    if c = ']' ∧ hasMeaning ∧ !isFirst then some ([], [], 1)
    else
      match if hasMeaning then className? ((c, hasMeaning) :: rest) else none with
      | some (name, n) =>
        (members? false (n - 1) rest).map fun (ms, cs, k) => (ms, name :: cs, k + 1)
      | none =>
        match c, hasMeaning, rest with
        | '\\', true, (d, _) :: _ =>
          (members? false 1 rest).map fun (ms, cs, k) => ((d, d) :: ms, cs, k + 1)
        | _, _, ('-', true) :: (d, hasMeaning') :: _ =>
          if d = ']' ∧ hasMeaning' then
            (members? false 0 rest).map fun (ms, cs, k) => ((c, c) :: ms, cs, k + 1)
          else (members? false 2 rest).map fun (ms, cs, k) => ((c, d) :: ms, cs, k + 1)
        | _, _, _ => (members? false 0 rest).map fun (ms, cs, k) => ((c, c) :: ms, cs, k + 1)

/-- A set after its opening bracket, and the number of characters that belong to it. -/
def set? (t : Marked) : Option (Item × Nat) :=
  match t with
  | ('!', true) :: rest => (members? true 0 rest).map fun (ms, cs, n) => (.set true ms cs, n + 1)
  | t => (members? true 0 t).map fun (ms, cs, n) => (.set false ms cs, n)

/-- The pattern that a marked text is. The first number counts the characters still to be
skipped. -/
def ofMarkedFrom : Nat → Marked → List Item
  | _, [] => []
  | skip + 1, _ :: rest => ofMarkedFrom skip rest
  | 0, (c, hasMeaning) :: rest =>
    if hasMeaning then
      match c with
      | '*' => .run :: ofMarkedFrom 0 rest
      | '?' => .any :: ofMarkedFrom 0 rest
      | '\\' =>
        match rest with
        | (d, _) :: _ => .char d :: ofMarkedFrom 1 rest
        | [] => [.char c]
      | '[' =>
        match set? rest with
        | some (item, n) => item :: ofMarkedFrom n rest
        | none => .char c :: ofMarkedFrom 0 rest
      | c => .char c :: ofMarkedFrom 0 rest
    else .char c :: ofMarkedFrom 0 rest

def ofMarked (t : Marked) : List Item := ofMarkedFrom 0 t

/-- Whether a marked text has a character that makes it a pattern. -/
def isPattern (t : Marked) : Bool :=
  t.any fun (c, hasMeaning) => hasMeaning && "*?[".toList.contains c

/-! ### Matching -/

/-- Whether a test holds for some end of a text. -/
def holdsForEnd (test : Text → Bool) : Text → Bool
  | [] => test []
  | c :: rest => test (c :: rest) || holdsForEnd test rest

/-- Whether a pattern matches all of a text. -/
def isMatch : List Item → Text → Bool
  | [], t => t.isEmpty
  | .run :: rest, t => holdsForEnd (isMatch rest) t
  | _ :: _, [] => false
  | .any :: rest, _ :: t => isMatch rest t
  | .char c :: rest, d :: t => c == d && isMatch rest t
  | .set isNegated ms cs :: rest, d :: t => contains ms cs d != isNegated && isMatch rest t

theorem isMatch_literal (t u : Text) : isMatch (t.map .char) u = (t == u) := by
  induction t generalizing u with
  | nil => cases u <;> rfl
  | cons c t ih =>
    cases u with
    | nil => rfl
    | cons d u => simp [isMatch, ih]

/-- The numbers up to `n`, from the smallest or from the largest on. -/
def upTo (n : Nat) (fromSmallest : Bool) : List Nat :=
  if fromSmallest then List.range (n + 1) else (List.range (n + 1)).reverse

/-- A text without the shortest or longest start that a pattern matches. -/
def trimStart (longest : Bool) (pattern : List Item) (t : Text) : Text :=
  match (upTo t.length !longest).find? fun n => isMatch pattern (t.take n) with
  | some n => t.drop n
  | none => t

/-- A text without the shortest or longest end that a pattern matches. -/
def trimEnd (longest : Bool) (pattern : List Item) (t : Text) : Text :=
  match (upTo t.length longest).find? fun n => isMatch pattern (t.drop n) with
  | some n => t.take n
  | none => t

end Retint.Shell.Glob
