/-!
# Text

Everything this library reads and writes is text: a list of Unicode characters. Keeping it a list
makes every scanner a structural recursion, so that a law about it is an induction.

## Main definitions

* `Text.isBlank`, `Text.trim` — Unicode white space, and cutting it off both ends
* `Text.lines` — the lines of a text, without their terminators
* `Text.cut?` — a text split at the first occurrence of a character
* `Text.contains`, `Text.replace` — searching for a text and replacing it, from left to right
* `Text.size`, `Text.drop?`, `Text.slice?` — measuring and cutting by UTF-8 length

## Main results

* `Text.joinWith_splitOn` — splitting at a character loses nothing
* `Text.length_of_cut?` — what follows the cut is shorter than the text
-/

namespace Retint

/-- A text is the list of its characters. -/
abbrev Text := List Char

namespace Text

/-- Whether something holds of all characters of a text is decided by going through the text. -/
instance decidableForallMem (t : Text) (p : Char → Prop) [DecidablePred p] :
    Decidable (∀ c ∈ t, p c) :=
  List.decidableBAll p t

/-- Whether there is a character in a text is decided by going through the text. -/
instance decidableExistsMem (t : Text) (p : Char → Prop) [DecidablePred p] :
    Decidable (∃ c ∈ t, p c) :=
  List.decidableBEx p t

/-! ### White space and lines -/

/-- The characters with the Unicode property `White_Space`. -/
def isBlank (c : Char) : Bool :=
  (0x09 ≤ c.val && c.val ≤ 0x0D) || c.val == 0x20 || c.val == 0x85 || c.val == 0xA0 ||
    c.val == 0x1680 || (0x2000 ≤ c.val && c.val ≤ 0x200A) || c.val == 0x2028 ||
    c.val == 0x2029 || c.val == 0x202F || c.val == 0x205F || c.val == 0x3000

def trimStart (t : Text) : Text := t.dropWhile isBlank

def trimEnd (t : Text) : Text := (t.reverse.dropWhile isBlank).reverse

/-- The text without the white space at either end. -/
def trim (t : Text) : Text := trimEnd (trimStart t)

/-- The lines of a text. A line ends at a line feed, and a carriage return right before the line
feed belongs to the line's end; the last line need not be terminated. -/
def lines : Text → List Text
  | [] => []
  | '\n' :: rest => [] :: lines rest
  | '\r' :: '\n' :: rest => [] :: lines rest
  | c :: rest =>
    match lines rest with
    | [] => [[c]]
    | line :: more => (c :: line) :: more

/-! ### Splitting and joining -/

/-- The parts before and after the first occurrence of `c`. -/
def cut? (c : Char) : Text → Option (Text × Text)
  | [] => none
  | d :: rest => if d = c then some ([], rest) else (cut? c rest).map fun (l, r) => (d :: l, r)

theorem length_of_cut? {c : Char} {t l r : Text} (h : cut? c t = some (l, r)) :
    r.length < t.length := by
  induction t generalizing l with
  | nil => simp [cut?] at h
  | cons d t ih =>
    by_cases hd : d = c
    · simp_all [cut?]
    · simp only [cut?, hd, if_false, Option.map_eq_some_iff, Prod.exists, Prod.mk.injEq] at h
      obtain ⟨a, b, hab, -, rfl⟩ := h
      exact Nat.lt_succ_of_lt (ih hab)

/-- The parts before and after the last occurrence of `c`. -/
def cutLast? (c : Char) : Text → Option (Text × Text)
  | [] => none
  | d :: rest =>
    match cutLast? c rest with
    | some (l, r) => some (d :: l, r)
    | none => if d = c then some ([], rest) else none

/-- The parts between the occurrences of `c`; there is always at least one. -/
def splitOn (c : Char) : Text → List Text
  | [] => [[]]
  | d :: rest =>
    if d = c then [] :: splitOn c rest
    else
      match splitOn c rest with
      | [] => [[d]]
      | part :: more => (d :: part) :: more

/-- The runs of characters that are not white space. -/
def words : Text → List Text
  | [] => []
  | c :: rest =>
    if isBlank c then words rest
    else if rest.head?.all isBlank then [c] :: words rest
    else
      match words rest with
      | [] => [[c]]
      | word :: more => (c :: word) :: more

/-- The texts in order, with `sep` between neighbours. -/
def joinWith (sep : Text) : List Text → Text
  | [] => []
  | [t] => t
  | t :: u :: rest => t ++ sep ++ joinWith sep (u :: rest)

theorem splitOn_ne_nil (c : Char) (t : Text) : splitOn c t ≠ [] := by
  cases t with
  | nil => simp [splitOn]
  | cons d t =>
    rw [splitOn]
    split
    · simp
    · split <;> simp

theorem joinWith_cons_cons (sep : Text) (d : Char) (part : Text) (more : List Text) :
    joinWith sep ((d :: part) :: more) = d :: joinWith sep (part :: more) := by
  cases more <;> simp [joinWith]

theorem joinWith_splitOn (c : Char) (t : Text) : joinWith [c] (splitOn c t) = t := by
  induction t with
  | nil => rfl
  | cons d t ih =>
    rw [splitOn]
    split
    · obtain ⟨p, ps, h⟩ := List.exists_cons_of_ne_nil (splitOn_ne_nil c t)
      simp_all [joinWith]
    · split
      · exact absurd ‹_› (splitOn_ne_nil c t)
      · rename_i h
        rw [joinWith_cons_cons, ← h, ih]

/-! ### Searching and replacing -/

/-- What follows `lead` in a text that starts with it. -/
def dropLead? : Text → Text → Option Text
  | [], t => some t
  | _ :: _, [] => none
  | p :: ps, c :: rest => if p = c then dropLead? ps rest else none

theorem dropLead?_eq_some_iff {lead t r : Text} : dropLead? lead t = some r ↔ t = lead ++ r := by
  induction lead generalizing t with
  | nil => simp [dropLead?, eq_comm]
  | cons p ps ih =>
    cases t with
    | nil => simp [dropLead?]
    | cons c t => by_cases h : p = c <;> simp [dropLead?, h, ih, eq_comm]

def startsWith (lead t : Text) : Bool := (dropLead? lead t).isSome

def endsWith (tail t : Text) : Bool := startsWith tail.reverse t.reverse

/-- Whether `needle` occurs in the text as a block. -/
def contains (needle : Text) : Text → Bool
  | [] => needle.isEmpty
  | c :: rest => startsWith needle (c :: rest) || contains needle rest

/-- Replaces the leftmost non-overlapping finds of `find`, which answers with the text to put in
the place of a find that starts here and with the number of characters it covers. The first
argument counts the characters of the current find that are still to be skipped. -/
def replaceWithFrom (find : Text → Option (Text × Nat)) : Nat → Text → Text
  | _, [] => []
  | skip + 1, _ :: rest => replaceWithFrom find skip rest
  | 0, c :: rest =>
    match find (c :: rest) with
    | some (new, size) => new ++ replaceWithFrom find (size - 1) rest
    | none => c :: replaceWithFrom find 0 rest

/-- Replaces the leftmost non-overlapping finds of `find`, each of which covers a character. -/
def replaceWith (find : Text → Option (Text × Nat)) (t : Text) : Text := replaceWithFrom find 0 t

/-- Every occurrence of `old`, which is not empty, becomes `new`. -/
def replace (old new : Text) : Text → Text :=
  replaceWith fun t => if startsWith old t then some (new, old.length) else none

/-- All characters `c` of the text become `d`. -/
def replaceChar (c d : Char) (t : Text) : Text := t.map fun x => if x = c then d else x

/-- The text without those of its first characters that are `c`. -/
def dropChar (c : Char) (t : Text) : Text := t.dropWhile (· == c)

/-! ### UTF-8 lengths -/

/-- The number of bytes that the text takes in UTF-8. -/
def size (t : Text) : Nat := t.foldr (fun c n => c.utf8Size + n) 0

/-- The text after its first `n` bytes, if a character ends there. -/
def drop? : Nat → Text → Option Text
  | 0, t => some t
  | _ + 1, [] => none
  | n + 1, c :: rest => if c.utf8Size ≤ n + 1 then drop? (n + 1 - c.utf8Size) rest else none

/-- The first `n` bytes of the text, if a character ends there. -/
def take? : Nat → Text → Option Text
  | 0, _ => some []
  | _ + 1, [] => none
  | n + 1, c :: rest =>
    if c.utf8Size ≤ n + 1 then (take? (n + 1 - c.utf8Size) rest).map (c :: ·) else none

/-- The bytes from `start` up to `stop`, if both are in range and between characters. -/
def slice? (start stop : Nat) (t : Text) : Option Text :=
  if start ≤ stop then (drop? start t).bind (take? (stop - start)) else none

/-! ### Digits and order -/

/-- The value of a hexadecimal digit. -/
def hexDigit? (c : Char) : Option Nat :=
  if '0' ≤ c ∧ c ≤ '9' then some (c.toNat - 48)
  else if 'a' ≤ c ∧ c ≤ 'f' then some (c.toNat - 87)
  else if 'A' ≤ c ∧ c ≤ 'F' then some (c.toNat - 55)
  else none

/-- The character with a code point, if there is one. -/
def charOf? (n : Nat) : Option Char := if n.isValidChar then some (Char.ofNat n) else none

/-- The number that decimal digits make. -/
def ofDecimal (digits : Text) : Nat := digits.foldl (fun n c => 10 * n + (c.toNat - 48)) 0

/-- The order of texts by code points, which is also that of their UTF-8 bytes. -/
def le : Text → Text → Bool
  | [], _ => true
  | _ :: _, [] => false
  | c :: t, d :: u => c.val < d.val || (c.val == d.val && le t u)

end Text

end Retint
