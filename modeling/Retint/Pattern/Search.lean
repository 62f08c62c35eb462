import Retint.Pattern.Basic

/-!
# Looking for patterns

A pattern is looked for by following all its ways at once. The places of a text are numbered by
the characters before them, and a set of places is the number whose bits tell which are in it. So
each step of a pattern, taken from all places of a set together, is an operation on numbers, and
a search takes polynomial time.

## Main definitions

* `Pattern.Overlay` — a pattern laid over a text
* `Pattern.Overlay.reach` — the places that a pattern leads to from a set of places
* `Pattern.isFound` — whether a pattern is found somewhere in a text

## Implementation notes

Rounds of a repetition beyond one more than there are characters lead to no new place: one of them
covers no character and could be left out or done twice. Both counts are cut off there.
-/

namespace Retint.Pattern

/-- A pattern laid over a text: its tests are replaced by the sets of places where they hold. -/
inductive Overlay
  /-- Stays at the places of the set. -/
  | stay (places : Nat)
  /-- Goes from the places of the set to the next ones. -/
  | step (places : Nat)
  | seq (first second : Overlay)
  | alt (left right : Overlay)
  /-- Exactly `least` rounds, and then at most `more` further ones. -/
  | rep (body : Overlay) (least more : Nat)

/-- The set of the places that have a mark, from the first place on. -/
def marked (marks : List Bool) : Nat := marks.foldr (fun mark n => 2 * n + mark.toNat) 0

/-- All places of a text. -/
def everywhere (t : Text) : Nat := marked (true :: t.map fun _ => true)

/-- Lays a pattern over a text. -/
def overlay (t : Text) : Pattern → Overlay
  | .empty => .stay (everywhere t)
  | .one test => .step (marked (t.map test))
  | .around test =>
    .stay (marked ((Place.onward none t).map fun a => test a.before a.rest.head?))
  | .seq p q => .seq (overlay t p) (overlay t q)
  | .alt p q => .alt (overlay t p) (overlay t q)
  | .rep p least most =>
    let bound := t.length + 1
    if most.any (· < least) then .stay 0
    else .rep (overlay t p) (least.min bound) (((most.map (· - least)).getD bound).min bound)

/-- The places that exactly `n` steps lead to. -/
def afterExactly (step : Nat → Nat) : Nat → Nat → Nat
  | 0, places => places
  | n + 1, places => if places = 0 then 0 else afterExactly step n (step places)

/-- The places that at most `n` steps lead to from `newest`, together with those in `known`, among
which `newest` and all that has been left behind are. -/
def afterAtMost (step : Nat → Nat) : Nat → Nat → Nat → Nat
  | 0, known, _ => known
  | n + 1, known, newest =>
    let found := step newest
    let fresh := found ^^^ (found &&& known)
    if fresh = 0 then known else afterAtMost step n (known ||| fresh) fresh

/-- The places that a pattern leads to from any place of a set. -/
def Overlay.reach : Overlay → Nat → Nat
  | .stay here, places => places &&& here
  | .step here, places => 2 * (places &&& here)
  | .seq p q, places => q.reach (p.reach places)
  | .alt p q, places => p.reach places ||| q.reach places
  | .rep p least more, places =>
    let first := afterExactly (fun s => p.reach s) least places
    afterAtMost (fun s => p.reach s) more first first

/-- Whether the pattern is found somewhere in the text. -/
def isFound (p : Pattern) (t : Text) : Bool := (overlay t p).reach (everywhere t) != 0

end Retint.Pattern
