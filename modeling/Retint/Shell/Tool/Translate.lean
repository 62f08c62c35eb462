import Retint.Shell.Format
import Retint.Shell.Tool.Options

/-!
# Translating characters

Characters of one set become those of another, or go, or are kept once where they stand together.

## Main definitions

* `Tool.CharSeq`, `CharSeq.read?` — a set as it is written
* `Tool.translated` — what a character becomes
* `Tool.squeeze` — characters that stand together kept once
* `Tool.tr`

## Main results

* `Tool.mem_squeeze` — squeezing loses no character altogether
-/

namespace Retint.Shell.Tool

variable {m : Type → Type} [Monad m]

/-- A part of a set as it is written. -/
inductive CharSeq
  | chars (t : Text)
  | class (name : Text)
  /-- A character so many times, or as often as it takes. -/
  | fill (c : Char) (count : Option Nat)
deriving DecidableEq, Repr

namespace CharSeq

/-- The character at the start of a text, and how many characters it takes. -/
def char (t : Text) : Char × Nat :=
  match t with
  | '\\' :: c :: rest =>
    match Format.escape? false (c :: rest) with
    | some (value, n) => if c = 'e' then (c, 2) else (value, n + 1)
    | none => (c, 2)
  | c :: _ => (c, 1)
  | [] => (' ', 0)

/-- The characters from one to another. -/
def range (low high : Char) : Text :=
  (List.range (high.toNat + 1 - low.toNat)).map fun i => Char.ofNat (low.toNat + i)

/-- A class or a repeated character in brackets at the start of a text. -/
def bracketed? (t : Text) : Option (CharSeq × Nat) :=
  match t with
  | '[' :: ':' :: rest =>
    let name := rest.takeWhile Char.isAlpha
    if Text.startsWith ":]".toList (rest.drop name.length) ∧ (Raw.class? name).isSome then
      some (.class name, name.length + 4)
    else none
  | '[' :: '=' :: c :: '=' :: ']' :: _ => some (.chars [c], 5)
  | '[' :: rest =>
    let (c, n) := char rest
    match rest.drop n with
    | '*' :: more =>
      let digits := more.takeWhile Char.isDigit
      if (more.drop digits.length).head? = some ']' then
        let base := if digits.head? = some '0' then 8 else 10
        let count := (Raw.digits base digits).1
        some (.fill c (if count = 0 then none else some count), n + digits.length + 3)
      else none
    | _ => none
  | _ => none

/-- A set as it is written; a range that goes backwards is a mistake. The first number bounds the
steps. -/
def read? : Nat → Text → Except Text (List CharSeq)
  | 0, _ | _ + 1, [] => .ok []
  | fuel + 1, t =>
    match bracketed? t with
    | some (s, n) => (read? fuel (t.drop n)).map (s :: ·)
    | none =>
      let (low, n) := char t
      match t.drop n with
      | '-' :: d :: rest =>
        let (high, k) := char (d :: rest)
        if high < low then
          .error ("range-endpoints of '".toList ++ t.take (n + 1 + k) ++
            "' are in reverse collating sequence order".toList)
        else (read? fuel (t.drop (n + 1 + k))).map (.chars (range low high) :: ·)
      | rest => (read? fuel rest).map (.chars [low] :: ·)

/-- The characters of a set; a character that fills up counts as often as is missing to the given
number. -/
def members (wanted : Nat) (s : List CharSeq) : Text :=
  let size : CharSeq → Nat
    | chars t => t.length
    | .class name => (Raw.all.filter fun c => (Raw.class? name).any (· c)).length
    | fill _ count => count.getD 0
  let known := (s.map size).foldl (· + ·) 0
  s.flatMap fun
    | chars t => t
    | .class name => Raw.all.filter fun c => (Raw.class? name).any (· c)
    | fill c count => List.replicate (count.getD (wanted - known)) c

end CharSeq

/-- The character in the second set at the place of `c` in the first one; the last character of the
second set stands for those that are not there. -/
def translated (source target : Text) (c : Char) : Char :=
  match (source.zipIdx.reverse.find? fun (d, _) => d == c) with
  | some (_, i) => (target[i]?.or target.getLast?).getD c
  | none => c

/-- The text with characters of a set that stand together kept once. -/
def squeeze (set : Text) : Text → Text
  | [] => []
  | c :: rest =>
    if c ∈ set ∧ rest.head? = some c then squeeze set rest else c :: squeeze set rest

theorem mem_squeeze {set t : Text} {d : Char} : d ∈ squeeze set t ↔ d ∈ t := by
  induction t with
  | nil => rfl
  | cons c t ih =>
    unfold squeeze
    split
    · rename_i h
      have hc : c ∈ t := List.mem_of_mem_head? h.2
      rw [ih, List.mem_cons]
      exact ⟨.inr, fun h => h.elim (fun h => h ▸ hc) id⟩
    · simp [ih]

/-- The characters that two sets together make of each other, letters in both cases pairing up. -/
def casePairs (first second : List CharSeq) : Option (Text × Text) :=
  match first, second with
  | [.class a], [.class b] =>
    if a = "lower".toList ∧ b = "upper".toList then
      some (CharSeq.range 'a' 'z', CharSeq.range 'A' 'Z')
    else if a = "upper".toList ∧ b = "lower".toList then
      some (CharSeq.range 'A' 'Z', CharSeq.range 'a' 'z')
    else none
  | _, _ => none

/-- Writes the whole input after `f`. -/
def translate (f : Text → Text) : Run m Nat := do
  Run.put (f (← Run.readInput))
  return 0

def tr : Tool m := fun arguments => do
  match (Usage.of "cCdst" "" [("complement", 'c'), ("delete", 'd'), ("squeeze-repeats", 's'),
      ("truncate-set1", 't')]).readStrict arguments with
  | .error message => do
    misuse "tr" message
    return 1
  | .ok a =>
    let sets := a.operands.mapM fun t => CharSeq.read? (t.length + 1) t
    match sets with
    | .error message => do
      Run.say "tr".toList message
      return 1
    | .ok sets =>
      let needsOne := (a.has 'd' || a.has 's') && !(a.has 'd' && a.has 's')
      let complement := a.has 'c' || a.has 'C'
      let source (s : List CharSeq) : Text :=
        let set := CharSeq.members 0 s
        if complement then List.filter (fun c => !decide (c ∈ set)) Raw.all else set
      match sets with
      | [] => do
        misuse "tr" "missing operand".toList
        return 1
      | [first] =>
        if a.has 'd' && !a.has 's' then
          let set := source first
          translate fun t => List.filter (fun c => !decide (c ∈ set)) t
        else if a.has 's' && !a.has 'd' then
          let set := source first
          translate (squeeze set)
        else do
          Run.say "tr".toList
            ("missing operand after '".toList ++ a.operands.headD [] ++ ['\''])
          let purpose := if a.has 'd' then "both deleting and squeezing repeats" else "translating"
          Run.write 2 ("Two strings must be given when " ++ purpose ++ ".\n").toList
          Run.write 2 "Try 'tr --help' for more information.\n".toList
          return 1
      | [first, second] =>
        if needsOne && a.has 'd' then
          misuse "tr" ("extra operand '".toList ++ a.operands.getD 1 [] ++ ['\''])
          return 1
        else
          let set := source first
          let target := CharSeq.members set.length second
          if a.has 'd' then
            translate fun t => squeeze target (List.filter (fun c => !decide (c ∈ set)) t)
          else if target.isEmpty then
            Run.say "tr".toList
              "when not truncating set1, string2 must be non-empty".toList
            return 1
          else
            let (set, target) := ((casePairs first second).filter fun _ => !complement).getD
              (set, if a.has 't' then target.take set.length else target)
            let set := if a.has 't' then set.take target.length else set
            let table := (Raw.all.map (translated set target)).toArray
            let f (t : Text) : Text := t.map fun c => table.getD c.toNat c
            translate fun t => if a.has 's' then squeeze target (f t) else f t
      | _ => do
        misuse "tr" ("extra operand '".toList ++ a.operands.getD 2 [] ++ ['\''])
        return 1

end Retint.Shell.Tool
