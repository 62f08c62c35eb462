import Retint.Text

/-!
# Bytes of a text

## Main definitions

* `Text.utf8` — the bytes of a text
* `Text.ofUtf8?` — the text with given bytes, if there is one
* `Text.ofUtf8Lossy` — the same with replacement characters where bytes make no character

## Implementation notes

Decoding goes from byte to byte. A character's first byte tells how many follow and which second
bytes are allowed; that rules out overlong forms, surrogates and code points out of range. A row of
bytes that begins like a character but breaks off becomes one replacement character.
-/

namespace Retint.Text

/-- The UTF-8 bytes of a character. -/
def utf8Char (c : Char) : List UInt8 :=
  let n := c.toNat
  if n < 0x80 then [n.toUInt8]
  else if n < 0x800 then [(0xC0 + n / 64).toUInt8, (0x80 + n % 64).toUInt8]
  else if n < 0x10000 then
    [(0xE0 + n / 4096).toUInt8, (0x80 + n / 64 % 64).toUInt8, (0x80 + n % 64).toUInt8]
  else
    [(0xF0 + n / 262144).toUInt8, (0x80 + n / 4096 % 64).toUInt8, (0x80 + n / 64 % 64).toUInt8,
      (0x80 + n % 64).toUInt8]

/-- The UTF-8 bytes of a text. -/
def utf8 (t : Text) : List UInt8 := t.flatMap utf8Char

/-- What a character's first byte promises: how many bytes follow, the bits it brings, and the
range in which the second byte must lie. -/
def leadByte? (b : UInt8) : Option (Nat × Nat × Nat × Nat) :=
  let n := b.toNat
  if 0xC2 ≤ n ∧ n ≤ 0xDF then some (1, n - 0xC0, 0x80, 0xBF)
  else if n = 0xE0 then some (2, 0, 0xA0, 0xBF)
  else if n = 0xED then some (2, 0xD, 0x80, 0x9F)
  else if 0xE1 ≤ n ∧ n ≤ 0xEF then some (2, n - 0xE0, 0x80, 0xBF)
  else if n = 0xF0 then some (3, 0, 0x90, 0xBF)
  else if 0xF1 ≤ n ∧ n ≤ 0xF3 then some (3, n - 0xF0, 0x80, 0xBF)
  else if n = 0xF4 then some (3, 4, 0x80, 0x8F)
  else none

/-- The decoder's state between two bytes: nothing open, or a character that waits for `more`
bytes, the next of them between `low` and `high`. -/
inductive Utf8State
  | idle
  | inside (more value low high : Nat)

/-- Decodes bytes; `none` stands for bytes that make no character. -/
def decode : Utf8State → List UInt8 → List (Option Char)
  | .idle, [] => []
  | .inside .., [] => [none]
  | .idle, b :: rest => start b rest
  | .inside more value low high, b :: rest =>
    if low ≤ b.toNat ∧ b.toNat ≤ high then
      let value := 64 * value + (b.toNat - 0x80)
      if more = 1 then some (Char.ofNat value) :: decode .idle rest
      else decode (.inside (more - 1) value 0x80 0xBF) rest
    else none :: start b rest
where
  /-- Decodes bytes of which the first begins a character. -/
  start (b : UInt8) (rest : List UInt8) : List (Option Char) :=
    if b.toNat < 0x80 then some (Char.ofNat b.toNat) :: decode .idle rest
    else
      match leadByte? b with
      | some (more, value, low, high) => decode (.inside more value low high) rest
      | none => none :: decode .idle rest

/-- The text with these bytes, if there is one. -/
def ofUtf8? (bytes : List UInt8) : Option Text := (decode .idle bytes).mapM id

/-- The text with these bytes, with the replacement character for bytes that make no character. -/
def ofUtf8Lossy (bytes : List UInt8) : Text :=
  (decode .idle bytes).map fun c => c.getD '\uFFFD'

end Retint.Text
