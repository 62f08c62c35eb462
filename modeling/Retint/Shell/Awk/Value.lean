import Retint.Shell.Awk.Syntax
import Retint.Shell.Format
import Retint.Shell.Number

/-!
# Values of record programs

A value is a number or a text, and each can be taken for the other. A text that comes from the input
counts as a number if it looks like one.

## Main definitions

* `Awk.Value` — values
* `Awk.Value.toNumber`, `toText`, `isTrue`, `relate` — what values count as, and comparing them
* `Awk.written` — values written by a format
* `Awk.Table` — arrays

## Main results

* `Awk.Table.get?_set` — the law of look-up after a change
* `Awk.Table.keys_perm` — every name comes up once in the order of places
-/

namespace Retint.Shell.Awk

inductive Value
  | unset
  | number (x : Float)
  | text (t : Text)
  /-- A text of the input. -/
  | input (t : Text)
deriving Inhabited, Repr

/-! ### Numbers in texts -/

/-- A special number that a text starts with. -/
def special? (t : Text) : Option (Float × Text) :=
  let start (name : String) : Option Text :=
    if (t.take name.length).map Char.toLower = name.toList then some (t.drop name.length) else none
  let infinity : Float := 1 / 0
  match start "infinity", start "inf", start "nan" with
  | some rest, _, _ => some (infinity, rest)
  | none, some rest, _ => some (infinity, rest)
  | none, none, some rest => some (0 / 0, rest)
  | none, none, none => none

/-- A number in base 16 that a text starts with. -/
def hexadecimal? : Text → Option (Float × Text)
  | '0' :: x :: c :: rest =>
    if (x = 'x' ∨ x = 'X') ∧ (Text.hexDigit? c).isSome then
      let (n, after) := Raw.digits 16 (c :: rest)
      some (Float.ofNat n, after)
    else none
  | _ => none

/-- The number that a text starts with, and what follows it. -/
def leadingNumber? (t : Text) : Option (Float × Text) :=
  let t := t.dropWhile Raw.isSpace
  let (isNegative, unsigned) := match t with
    | '-' :: rest => (true, rest)
    | '+' :: rest => (false, rest)
    | t => (false, t)
  match (hexadecimal? unsigned).or (special? unsigned) with
  | some (x, rest) => some (if isNegative then -x else x, rest)
  | none => Number.read? t

/-- The number that a text as a whole is, with white space around it. -/
def wholeNumber? (t : Text) : Option Float :=
  match leadingNumber? t with
  | some (x, rest) => if rest.all Raw.isSpace then some x else none
  | none => none

/-! ### Numbers -/

/-- The numbers from which on a whole number does not fit into 64 bits. -/
def wholeLimit : Nat := 18446744073709551616

/-- A whole number near to a number, so that it fits into 64 bits. -/
def fitting (x : Float) : Int :=
  if x.isNaN then -9223372036854775808
  else if x.isFinite then max (-9223372036854775807) (min (wholeLimit - 1) (Number.truncate x))
  else if x < 0 then -9223372036854775807
  else wholeLimit - 1

/-- The remainder of a division, with the sign of the first number. -/
def remainder (x y : Float) : Float :=
  if !x.isFinite || y.isNaN || y == 0 then 0 / 0
  else if !y.isFinite then x
  else
    let (m, e) := Number.parts x
    let (n, f) := Number.parts y
    let low := min e f
    let r := m * Nat.pow 2 (e - low).toNat % (n * Nat.pow 2 (f - low).toNat)
    let z := (Float.ofNat r).scaleB low
    if Number.isNegative x then -z else z

/-- The number without its places. -/
def wholePart (x : Float) : Float := if x.isFinite then Number.ofInt (Number.truncate x) else x

def BinaryOp.apply : BinaryOp → Float → Float → Float
  | add, x, y => x + y
  | sub, x, y => x - y
  | mul, x, y => x * y
  | div, x, y => x / y
  | mod, x, y => remainder x y
  | power, x, y => x.pow y

/-- A number in a field. -/
def writeNumber (f : Format.Field) (x : Float) : Text :=
  if x.isNaN then f.pad "-nan".toList else f.writeFloat x

/-- Letters before a conversion that have no meaning here. -/
def sizes : Text := "hlLqjzt".toList

/-- A number as text. A whole number has no places; for others a format says how they are
written. -/
def numberText (format : Text) (x : Float) : Text :=
  if Number.isWhole x ∧ -9223372036854775808 ≤ Number.truncate x ∧
      Number.truncate x ≤ wholeLimit then
    Raw.decimal (min (wholeLimit - 1) (Number.truncate x))
  else
    ((Format.parts "eEfFgG".toList sizes false 0 format).map fun part =>
      match part with
      | .literal t | .bad t => t
      | .place s =>
        let size : Format.Size → Nat
          | .given n => n
          | .argument => 0
        writeNumber ⟨s.flags, size s.width, s.precision.map size, s.conversion⟩ x).flatten

/-! ### Values as other values -/

namespace Value

def ofBool (b : Bool) : Value := number (if b then 1 else 0)

def ofNat (n : Nat) : Value := number (Float.ofNat n)

def toNumber : Value → Float
  | unset => 0
  | number x => x
  | text t | input t => ((leadingNumber? t).map Prod.fst).getD 0

/-- The value as text; numbers are written by a format. -/
def toText (format : Text) : Value → Text
  | unset => []
  | number x => numberText format x
  | text t | input t => t

/-- The number that a value is on its own account. -/
def number? : Value → Option Float
  | unset => some 0
  | number x => some x
  | text _ => none
  | input t => wholeNumber? t

def isTrue (v : Value) : Bool :=
  match v with
  | text t => !t.isEmpty
  | input t =>
    match wholeNumber? t with
    | some x => x != 0
    | none => !t.isEmpty
  | v => v.toNumber != 0

/-- Whether a relation holds for numbers. -/
def relateNumbers (r : Relation) (x y : Float) : Bool :=
  match r with
  | .less => x < y
  | .lessEqual => x ≤ y
  | .equal => x == y
  | .unequal => x != y
  | .greater => x > y
  | .greaterEqual => x ≥ y

/-- Whether a relation holds for texts. -/
def relateTexts (r : Relation) (s t : Text) : Bool :=
  match r with
  | .less => !t.le s
  | .lessEqual => s.le t
  | .equal => s == t
  | .unequal => s != t
  | .greater => !s.le t
  | .greaterEqual => t.le s

/-- Whether a relation holds: between numbers if both values are numbers, else between texts. -/
def relate (format : Text) (r : Relation) (v w : Value) : Bool :=
  match v.number?, w.number? with
  | some x, some y => relateNumbers r x y
  | _, _ => relateTexts r (v.toText format) (w.toText format)

end Value

/-! ### Formats -/

/-- Why values cannot be written by a format. -/
inductive Trouble
  | missing
  /-- The place with this number says nothing that can be done. -/
  | improper (place : Nat)
deriving DecidableEq, Repr

/-- A size, and the values that are left. -/
def sizeOf : Format.Size → List Value → Option (Int × List Value)
  | .given n, vs => some (n, vs)
  | .argument, v :: vs => some (fitting v.toNumber, vs)
  | .argument, [] => none

/-- A value in a field. -/
def writeValue (format : Text) (f : Format.Field) (v : Value) : Text :=
  match f.conversion with
  | 'c' =>
    match v with
    | .number x => f.pad [Char.ofNat ((fitting x % 256).toNat)]
    | .input t =>
      match wholeNumber? t with
      | some x => f.pad [Char.ofNat ((fitting x % 256).toNat)]
      | none => f.pad (if t.isEmpty then [Char.ofNat 0] else t.take 1)
    | v =>
      let t := v.toText format
      f.pad (if t.isEmpty then [Char.ofNat 0] else t.take 1)
  | 's' => f.writeText (v.toText format)
  | 'd' | 'i' => f.writeInteger (fitting v.toNumber)
  | 'o' | 'x' | 'X' | 'u' => f.writeNatural (fitting v.toNumber % wholeLimit).toNat
  | _ => writeNumber f v.toNumber

/-- Values written by the parts of a format, as far as that can be done. The number counts the
places so far. -/
def writeParts (format : Text) : Nat → List Format.Part → List Value → Text × Option Trouble
  | _, [], _ => ([], none)
  | n, .literal t :: parts, vs =>
    let (more, trouble) := writeParts format n parts vs
    (t ++ more, trouble)
  | n, .bad _ :: _, vs => ([], some (if vs.isEmpty then .missing else .improper (n + 1)))
  | n, .place s :: parts, vs =>
    match sizeOf s.width vs with
    | none => ([], some .missing)
    | some (width, vs) =>
      match s.precision.elim (some (none, vs)) fun p =>
          (sizeOf p vs).map fun (p, vs) => (some p, vs) with
      | some (precision, v :: vs) =>
        let f : Format.Field := {
          flags := if width < 0 then '-' :: s.flags else s.flags
          width := width.natAbs
          precision := (precision.filter (0 ≤ ·)).map Int.toNat
          conversion := s.conversion }
        let (more, trouble) := writeParts format (n + 1) parts vs
        (writeValue format f v ++ more, trouble)
      | _ => ([], some .missing)

/-- Values written by a format, as far as that can be done; `format` is for numbers as texts. -/
def written (format form : Text) (vs : List Value) : Text × Option Trouble :=
  writeParts format 0 (Format.parts "cdiouxXeEfFgGs".toList sizes false 0 form) vs

/-! ### Arrays -/

/-- An array: values by their names, the one that was used last first. -/
abbrev Table := List (Text × Value)

namespace Table

def get? (a : Table) (key : Text) : Option Value := a.lookup key

def erase (a : Table) (key : Text) : Table := a.filter (·.1 != key)

/-- Puts a value under a name, which has been used last then. -/
def set (a : Table) (key : Text) (v : Value) : Table := (key, v) :: a.erase key

theorem get?_set (a : Table) (key other : Text) (v : Value) :
    (a.set key v).get? other = if other = key then some v else a.get? other := by
  unfold get? set
  by_cases h : other = key
  · simp [h]
  · have he : ∀ b : Table, (b.erase key).lookup other = b.lookup other := by
      intro b
      induction b with
      | nil => rfl
      | cons e b ih =>
        obtain ⟨n, w⟩ := e
        by_cases hn : n = key
        · subst hn
          simp only [erase, List.filter_cons, bne_self_eq_false, Bool.false_eq_true, if_false,
            List.lookup_cons, beq_eq_false_iff_ne.2 h]
          exact ih
        · simp only [erase, List.filter_cons, bne_iff_ne.2 hn, if_true, List.lookup_cons]
          cases other == n
          · exact ih
          · rfl
    simp only [List.lookup_cons, beq_eq_false_iff_ne.2 h, h, if_false]
    exact he a

/-- A number for a name that decides where it is kept. -/
def hash (key : Text) : Nat :=
  key.foldl (fun h c => (h.xor c.toNat) * 16777619 % 4294967296) 2166136261

/-- How many places there are for so many names, from a number on. -/
def places : Nat → Nat → Nat → Nat
  | 0, _, n => n
  | fuel + 1, size, n => if 12 * n < size then places fuel size (2 * n) else n

/-- The names in the order of their places. -/
def keys (a : Table) : List Text :=
  let n := places a.length a.length 64
  let placed := a.map fun (key, _) => (hash key % n, key)
  (placed.mergeSort fun x y => x.1 ≤ y.1).map Prod.snd

theorem keys_perm (a : Table) : a.keys.Perm (a.map Prod.fst) := by
  unfold keys
  have h := ((a.map fun e => (hash e.1 % places a.length a.length 64, e.1)).mergeSort_perm
    fun x y => x.1 ≤ y.1).map Prod.snd
  simpa [Function.comp_def] using h

end Table

end Retint.Shell.Awk
