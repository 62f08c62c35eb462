import Retint.Shell.Raw

/-!
# Decimal text of floating-point numbers

A floating-point number is exactly a whole number times a power of two. Its text is that number
rounded to so many decimal digits, a tie going to the even digit.

## Main definitions

* `Number.parts` — the whole number and the power of two
* `Number.roundRatio` — the nearest whole number to a fraction
* `Number.fixed`, `scientific`, `general` — the three ways to write a number
* `Number.read?` — the number that a text starts with

## Main results

* `Number.roundRatio_mul` — a whole number is not changed by rounding
-/

namespace Retint.Shell.Number

/-! ### Rounding -/

/-- The nearest whole number to a fraction; of two that are as near the even one. -/
def roundRatio (num den : Nat) : Nat :=
  let q := num / den
  let r := num % den
  if 2 * r < den then q
  else if den < 2 * r then q + 1
  else if q % 2 = 0 then q else q + 1

theorem roundRatio_mul (n den : Nat) (h : 0 < den) : roundRatio (n * den) den = n := by
  simp [roundRatio, Nat.mul_div_cancel n h, Nat.mul_mod_left, h]

/-- A power of ten. -/
def tenTo (n : Nat) : Nat := Nat.pow 10 n

/-- A finite number without its sign as `m * 2 ^ e`. -/
def parts (x : Float) : Nat × Int :=
  let bits := x.toBits.toNat
  let exponent := bits / 4503599627370496 % 2048
  let fraction := bits % 4503599627370496
  if exponent = 0 then (fraction, -1074) else (fraction + 4503599627370496, exponent - 1075)

def isNegative (x : Float) : Bool := 9223372036854775808 ≤ x.toBits.toNat

/-- The number without its sign as a fraction. -/
def ratio (x : Float) : Nat × Nat :=
  let (m, e) := parts x
  if 0 ≤ e then (m * Nat.pow 2 e.toNat, 1) else (m, Nat.pow 2 (-e).toNat)

/-! ### Digits -/

/-- The digits of a number, filled up with zeros at the start. -/
def digitsOf (width n : Nat) : Text :=
  let digits := Nat.toDigits 10 n
  List.replicate (width - digits.length) '0' ++ digits

/-- Digits with a point before the last `places` of them. -/
def withPoint (places n : Nat) : Text :=
  let digits := digitsOf (places + 1) n
  let whole := digits.take (digits.length - places)
  if places = 0 then whole else whole ++ '.' :: digits.drop (digits.length - places)

/-- The text with so many places, without a sign. -/
def fixed (places : Nat) (x : Float) : Text :=
  let (num, den) := ratio x
  withPoint places (roundRatio (num * tenTo places) den)

/-- The exponent of the first digit of a positive fraction, searched from a guess on. -/
def exponentFrom (num den : Nat) : Nat → Int → Int
  | 0, e => e
  | fuel + 1, e =>
    let above := if 0 ≤ e then num < den * tenTo e.toNat else num * tenTo (-e).toNat < den
    if above then exponentFrom num den fuel (e - 1) else e

/-- The digits of a number, so many after the first one, and the exponent of the first one. -/
def significant (places : Nat) (x : Float) : Nat × Int :=
  let (num, den) := ratio x
  if num = 0 then (0, 0)
  else
    let e := exponentFrom num den 1000 (Nat.toDigits 10 (num / den)).length
    let shift := places - e
    let n := if 0 ≤ shift then roundRatio (num * tenTo shift.toNat) den
      else roundRatio num (den * tenTo (-shift).toNat)
    if n = tenTo (places + 1) then (tenTo places, e + 1) else (n, e)

/-- An exponent, with its sign and at least two digits. -/
def exponentText (e : Int) : Text :=
  'e' :: (if e < 0 then '-' else '+') :: digitsOf 2 e.natAbs

/-- The text with one digit before the point, so many after it, and an exponent. -/
def scientific (places : Nat) (x : Float) : Text :=
  let (n, e) := significant places x
  withPoint places n ++ exponentText e

/-- The text without zeros at the end of its places. -/
def withoutZeros (t : Text) : Text :=
  if '.' ∈ t then
    let t := Raw.withoutTrailing '0' t
    if t.getLast? = some '.' then t.dropLast else t
  else t

/-- The text with so many digits, in the shorter way, without zeros at the end unless they are
kept. -/
def general (keepZeros : Bool) (digits : Nat) (x : Float) : Text :=
  let digits := max 1 digits
  let (n, e) := significant (digits - 1) x
  if e < -4 ∨ (digits : Int) ≤ e then
    let t := withPoint (digits - 1) n
    (if keepZeros then t else withoutZeros t) ++ exponentText e
  else
    let t := fixed (digits - 1 - e).toNat x
    if keepZeros then t else withoutZeros t

/-! ### Reading -/

/-- The number that a text starts with, and what follows it. -/
def read? (t : Text) : Option (Float × Text) :=
  let t := t.dropWhile Raw.isSpace
  let (isNegative, t) := match t with
    | '-' :: rest => (true, rest)
    | '+' :: rest => (false, rest)
    | t => (false, t)
  let whole := t.takeWhile Char.isDigit
  let rest := t.drop whole.length
  let places := match rest with
    | '.' :: more => more.takeWhile Char.isDigit
    | _ => []
  let rest := match rest with
    | '.' :: more =>
      if whole.isEmpty && places.isEmpty then rest else more.drop places.length
    | rest => rest
  if whole.isEmpty && places.isEmpty then none
  else
    let (exponent, rest) : Int × Text := match rest with
      | c :: more =>
        if c = 'e' ∨ c = 'E' then
          let (sign, more) : Int × Text := match more with
            | '-' :: more => (-1, more)
            | '+' :: more => (1, more)
            | more => (1, more)
          let digits := more.takeWhile Char.isDigit
          if digits.isEmpty then (0, rest)
          else (sign * Text.ofDecimal digits, more.drop digits.length)
        else (0, rest)
      | [] => (0, [])
    let exponent := exponent - places.length
    let x := Float.ofScientific (Text.ofDecimal (whole ++ places)) (exponent < 0)
      (min 5000 exponent.natAbs)
    some (if isNegative then -x else x, rest)

/-- The number that a text starts with; zero if there is none. -/
def read (t : Text) : Float := ((read? t).map Prod.fst).getD 0

/-- The whole part of a number. -/
def truncate (x : Float) : Int :=
  let (num, den) := ratio x
  if isNegative x then -((num / den : Nat) : Int) else ((num / den : Nat) : Int)

/-- Whether a number is a whole number. -/
def isWhole (x : Float) : Bool := x.isFinite && (ratio x).1 % (ratio x).2 == 0

def ofInt (n : Int) : Float := if n < 0 then -(Float.ofNat n.natAbs) else Float.ofNat n.natAbs

end Retint.Shell.Number
