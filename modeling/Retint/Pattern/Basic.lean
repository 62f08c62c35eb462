import Retint.Text

/-!
# Patterns

A pattern describes places in a text from which on something can be found: single characters that
pass a test, conditions on the characters around a place, and their sequences, choices and
repetitions. Whether a repetition is greedy plays no role here, because the only question asked is
whether a pattern is found at all.

## Main definitions

* `Pattern`, `Pattern.Place` — patterns, and places in a text
* `Pattern.Matches` — what it means that a pattern leads from one place to another
* `Pattern.opt`, `Pattern.many`, `Pattern.seqs`, `Pattern.alts` — patterns built from others
-/

namespace Retint

/-- What can be looked for in a text. -/
inductive Pattern
  /-- Found everywhere, covering nothing. -/
  | empty
  /-- One character that passes the test. -/
  | one (test : Char → Bool)
  /-- A condition on the characters before and after a place, `none` at an end of the text. -/
  | around (test : Option Char → Option Char → Bool)
  | seq (first second : Pattern)
  | alt (left right : Pattern)
  /-- At least `least` rounds, and at most `most` if that is given. -/
  | rep (body : Pattern) (least : Nat) (most : Option Nat)

namespace Pattern

/-- A place in a text: the character before it, if there is one, and the text after it. -/
structure Place where
  before : Option Char
  rest : Text
deriving DecidableEq

/-- All places of a text from the given one on. -/
def Place.onward (before : Option Char) : Text → List Place
  | [] => [⟨before, []⟩]
  | c :: rest => ⟨before, c :: rest⟩ :: onward (some c) rest

/-! ### Meaning -/

mutual

/-- `Matches p a b`: the pattern `p` is found at the place `a` and covers the text up to `b`. -/
inductive Matches : Pattern → Place → Place → Prop
  | empty (a : Place) : Matches .empty a a
  | one {test : Char → Bool} {before : Option Char} {c : Char} {rest : Text} (h : test c) :
      Matches (.one test) ⟨before, c :: rest⟩ ⟨some c, rest⟩
  | around {test : Option Char → Option Char → Bool} {a : Place}
      (h : test a.before a.rest.head?) : Matches (.around test) a a
  | seq {p q : Pattern} {a b c : Place} (h : Matches p a b) (k : Matches q b c) :
      Matches (.seq p q) a c
  | left {p q : Pattern} {a b : Place} (h : Matches p a b) : Matches (.alt p q) a b
  | right {p q : Pattern} {a b : Place} (h : Matches q a b) : Matches (.alt p q) a b
  | rep {p : Pattern} {least : Nat} {most : Option Nat} {a b : Place} (rounds : Nat)
      (hl : least ≤ rounds) (hm : ∀ m ∈ most, rounds ≤ m) (h : Rounds p rounds a b) :
      Matches (.rep p least most) a b

/-- `Rounds p n a b`: `n` finds of `p` in a row lead from `a` to `b`. -/
inductive Rounds : Pattern → Nat → Place → Place → Prop
  | zero (p : Pattern) (a : Place) : Rounds p 0 a a
  | succ {p : Pattern} {n : Nat} {a b c : Place} (h : Matches p a b) (k : Rounds p n b c) :
      Rounds p (n + 1) a c

end

/-! ### Building patterns -/

def opt (p : Pattern) : Pattern := .rep p 0 (some 1)

def many (p : Pattern) : Pattern := .rep p 0 none

def some₁ (p : Pattern) : Pattern := .rep p 1 none

def seqs : List Pattern → Pattern
  | [] => .empty
  | [p] => p
  | p :: ps => .seq p (seqs ps)

/-- A choice between the patterns; no pattern to choose from is found nowhere. -/
def alts : List Pattern → Pattern
  | [] => .one fun _ => false
  | [p] => p
  | p :: ps => .alt p (alts ps)

/-- The start of the text. -/
def atStart : Pattern := .around fun before _ => before.isNone

/-- The end of the text. -/
def atEnd : Pattern := .around fun _ next => next.isNone

def char (c : Char) : Pattern := .one (· == c)

def word (t : Text) : Pattern := seqs (t.map char)

end Pattern

end Retint
