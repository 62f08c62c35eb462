import Retint.Shell.Tool.Options

/-!
# Bytes as printable characters

Three bytes are written as four digits in base 64. At the end, signs of equality stand for digits
that would say nothing.

## Main definitions

* `Tool.digit64`, `Tool.value64?` — the digits
* `Tool.encode64`, `Tool.decode64` — bytes as digits and back
* `Tool.base64`

## Main results

* `Tool.value64?_digit64` — a digit has the value that it is written for
* `Tool.decode64_encode64` — nothing is lost on the way there and back
-/

namespace Retint.Shell.Tool

variable {m : Type → Type} [Monad m]

/-! ### Digits -/

/-- The digit with a value. -/
def digit64 (n : Nat) : Char :=
  if n < 26 then Char.ofNat (n + 65)
  else if n < 52 then Char.ofNat (n + 71)
  else if n < 62 then Char.ofNat (n - 4)
  else if n = 62 then '+'
  else '/'

/-- The value of a digit. -/
def value64? (c : Char) : Option Nat :=
  if c.isUpper then some (c.toNat - 65)
  else if c.isLower then some (c.toNat - 71)
  else if c.isDigit then some (c.toNat + 4)
  else if c = '+' then some 62
  else if c = '/' then some 63
  else none

theorem value64?_digit64 : ∀ n < 64, value64? (digit64 n) = some n := by decide

theorem digit64_ne_equals : ∀ n < 64, digit64 n ≠ '=' := by decide

/-! ### Bytes -/

/-- Bytes as digits. -/
def encode64 : Text → Text
  | [] => []
  | [a] => [digit64 (a.toNat / 4), digit64 (a.toNat % 4 * 16), '=', '=']
  | [a, b] =>
    [digit64 (a.toNat / 4), digit64 (a.toNat % 4 * 16 + b.toNat / 16),
      digit64 (b.toNat % 16 * 4), '=']
  | a :: b :: c :: rest =>
    digit64 (a.toNat / 4) :: digit64 (a.toNat % 4 * 16 + b.toNat / 16) ::
      digit64 (b.toNat % 16 * 4 + c.toNat / 64) :: digit64 (c.toNat % 64) :: encode64 rest

/-- The bytes that digits stand for, and whether all of the text could be read. -/
def decode64 : Text → Text × Bool
  | [] => ([], true)
  | [a, b, '=', '='] =>
    match value64? a, value64? b with
    | some x, some y => ([Char.ofNat ((x * 4 + y / 16) % 256)], true)
    | _, _ => ([], false)
  | [a, b, c, '='] =>
    match value64? a, value64? b, value64? c with
    | some x, some y, some z =>
      ([Char.ofNat (x * 4 + y / 16), Char.ofNat (y % 16 * 16 + z / 4)], true)
    | _, _, _ => ([], false)
  | a :: b :: c :: d :: rest =>
    match value64? a, value64? b, value64? c, value64? d with
    | some x, some y, some z, some w =>
      let (more, isWhole) := decode64 rest
      (Char.ofNat (x * 4 + y / 16) :: Char.ofNat (y % 16 * 16 + z / 4) ::
        Char.ofNat (z % 4 * 64 + w) :: more, isWhole)
    | _, _, _, _ => ([], false)
  | _ => ([], false)

theorem ofNat_of_eq (c : Char) {n : Nat} (h : n = c.toNat) : Char.ofNat n = c := by
  rw [h, Char.ofNat_toNat]

theorem decode64_encode64 :
    ∀ t : Text, (∀ c ∈ t, c.toNat < 256) → decode64 (encode64 t) = (t, true)
  | [], _ => rfl
  | [a], h => by
    have ha : a.toNat < 256 := h a (by simp)
    rw [encode64, decode64, value64?_digit64 _ (by omega), value64?_digit64 _ (by omega)]
    simp only
    rw [ofNat_of_eq a (by omega)]
  | [a, b], h => by
    have ha : a.toNat < 256 := h a (by simp)
    have hb : b.toNat < 256 := h b (by simp)
    rw [encode64, decode64, value64?_digit64 _ (by omega), value64?_digit64 _ (by omega),
      value64?_digit64 _ (by omega)]
    · simp only
      rw [ofNat_of_eq a (by omega), ofNat_of_eq b (by omega)]
    · exact digit64_ne_equals _ (by omega)
  | a :: b :: c :: rest, h => by
    have ha : a.toNat < 256 := h a (by simp)
    have hb : b.toNat < 256 := h b (by simp)
    have hc : c.toNat < 256 := h c (by simp)
    have ih := decode64_encode64 rest fun d hd => h d (by simp [hd])
    rw [encode64, decode64, value64?_digit64 _ (by omega), value64?_digit64 _ (by omega),
      value64?_digit64 _ (by omega), value64?_digit64 _ (by omega)]
    · simp only [ih]
      rw [ofNat_of_eq a (by omega), ofNat_of_eq b (by omega), ofNat_of_eq c (by omega)]
    · exact fun _ h => absurd h (digit64_ne_equals _ (by omega))
    · exact fun h => absurd h (digit64_ne_equals _ (by omega))

/-! ### The tool -/

/-- A text in lines of so many characters. -/
def wrapped (width : Nat) : Nat → Text → Text
  | 0, _ | _, [] => []
  | fuel + 1, t => t.take width ++ '\n' :: wrapped width fuel (t.drop width)

def base64 : Tool m := withOptions "base64" (.of "di" "w" [("decode", 'd'), ("wrap", 'w'),
    ("ignore-garbage", 'i')]) 1 fun a => do
  let (t, status) ← readOperands "base64" 1 (a.operands.take 1)
  if status ≠ 0 then return status
  if a.has 'd' then
    let digits := t.filter fun c =>
      if a.has 'i' then (value64? c).isSome || c == '=' else c != '\n'
    let (bytes, isWhole) := decode64 digits
    Run.put bytes
    if isWhole then return 0
    Run.say "base64".toList "invalid input".toList
    return 1
  else
    let digits := encode64 t
    match ((a.value? 'w').bind Raw.natural?).getD 76 with
    | 0 => Run.put digits
    | width => Run.put (wrapped width digits.length digits)
    return 0

end Retint.Shell.Tool
