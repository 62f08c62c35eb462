import Retint.Shell.Awk.Value

/-!
# Records and fields

An input is taken apart into records, and a record into fields. What is between fields is white
space or something else, each time with a meaning of its own. Substitutions replace what an
expression matches.

## Main definitions

* `Awk.regexOf` — the regular expression that a text is
* `Awk.Separator`, `Awk.fields` — what is between fields, and the fields of a text
* `Awk.record` — the first record of a text
* `Awk.substitute` — replacing matches
* `Awk.part` — a part of a text by its place

## Main results

* `Awk.joinWith_fields` — fields put together again are the text
-/

namespace Retint.Shell.Awk

/-! ### Regular expressions -/

/-- A regular expression, or what is wrong with the text of it. -/
def regexOf (t : Text) : Except Text Regex :=
  match Regex.read .script t with
  | .ok (r, _) => .ok r
  | .error e =>
    let reason :=
      if Text.startsWith "Unmatched (".toList e.toList then "missing ')'"
      else if e = "missing operand" then e
      else "bad class -- [], [^] or ["
    .error ("regular expression compile failed (".toList ++ reason.toList ++ ")\n".toList ++ t)

/-- The first match in a text. -/
def found? (r : Regex) (t : Text) : Option Regex.Match := r.find? ⟨t.toArray, false, false⟩ 0

/-- The matches in a text that have characters. -/
def separators (r : Regex) (t : Text) : List Regex.Match :=
  (r.matchesIn ⟨t.toArray, false, false⟩).filter fun m => m.start < m.stop

/-! ### Fields -/

/-- What is between fields. -/
inductive Separator
  | blanks
  /-- Nothing: every character is a field. -/
  | nothing
  | char (c : Char)
  | regex (r : Regex)
deriving DecidableEq, Repr

/-- The separator that a text is. -/
def Separator.ofText (t : Text) : Except Text Separator :=
  match t with
  | [] => .ok .nothing
  | [c] => .ok (if c = ' ' then .blanks else .char c)
  | t => (regexOf t).map .regex

/-- Whether a character is white space between fields. -/
def isBetween (c : Char) : Bool := Raw.isBlank c || c == '\n'

/-- The parts of a text that satisfy `p`, in whole runs. The current one is held in reverse. -/
def runs (p : Char → Bool) : Text → Text → List Text
  | [], [] => []
  | w, [] => [w.reverse]
  | w, c :: rest =>
    if p c then runs p (c :: w) rest
    else if w.isEmpty then runs p [] rest
    else w.reverse :: runs p [] rest

/-- The parts of a text around matches, from a place on. -/
def around (t : Text) : Nat → List Regex.Match → List Text
  | i, [] => [t.drop i]
  | i, m :: ms => (t.drop i).take (m.start - i) :: around t m.stop ms

/-- The fields of a text. -/
def fields (s : Separator) (t : Text) : List Text :=
  if t.isEmpty then []
  else
    match s with
    | .blanks => runs (! isBetween ·) [] t
    | .nothing => t.map ([·])
    | .char c => Text.splitOn c t
    | .regex r => around t 0 (separators r t)

theorem joinWith_fields (c : Char) {t : Text} (h : t ≠ []) :
    Text.joinWith [c] (fields (.char c) t) = t := by
  simp [fields, h, Text.joinWith_splitOn]

/-! ### Records -/

/-- The first paragraph of a text and what follows the empty lines after it. -/
def paragraph : Text → Text × Text
  | [] => ([], [])
  | '\n' :: '\n' :: rest => ([], rest.dropWhile (· == '\n'))
  | ['\n'] => ([], [])
  | c :: rest =>
    let (p, after) := paragraph rest
    (c :: p, after)

/-- The first record of a text and what follows it; `separator` is what is between records, and
nothing at all if they are paragraphs. -/
def record (separator t : Text) : Except Text (Option (Text × Text)) :=
  match separator with
  | [] =>
    let t := t.dropWhile (· == '\n')
    if t.isEmpty then .ok none
    else
      .ok (some (paragraph t))
  | [c] =>
    if t.isEmpty then .ok none
    else
      let r := t.takeWhile (· != c)
      .ok (some (r, t.drop (r.length + 1)))
  | s =>
    if t.isEmpty then .ok none
    else
      match regexOf s with
      | .error message => .error message
      | .ok r =>
        match separators r t with
        | m :: _ => .ok (some (t.take m.start, t.drop m.stop))
        | [] => .ok (some (t, []))

/-! ### Substitutions -/

/-- What a match is replaced by: `none` stands for the match itself. Of backslashes before an
ampersand, two stand for one, and a single one takes its meaning away. -/
def replacement : Nat → Text → List (Option Char)
  | _, [] => []
  | skip + 1, _ :: rest => replacement skip rest
  | 0, c :: rest =>
    if c = '&' then none :: replacement 0 rest
    else if c = '\\' then
      let n := (rest.takeWhile (· == '\\')).length + 1
      if rest[n - 1]? = some '&' then
        List.replicate (n / 2) (some '\\') ++
          (if n % 2 = 1 then some '&' :: replacement n rest else replacement (n - 1) rest)
      else List.replicate n (some '\\') ++ replacement (n - 1) rest
    else some c :: replacement 0 rest

/-- A text in which matches are replaced, from a place on. -/
def replaceAround (t : Text) (new : List (Option Char)) : Nat → List Regex.Match → Text
  | i, [] => t.drop i
  | i, m :: ms =>
    let here := (t.drop m.start).take (m.stop - m.start)
    (t.drop i).take (m.start - i) ++ new.flatMap (fun c => c.elim here ([·])) ++
      replaceAround t new m.stop ms

/-- The text with the first match or all of them replaced, and the number of those. -/
def substitute (isGlobal : Bool) (r : Regex) (new t : Text) : Text × Nat :=
  let ms := if isGlobal then r.matchesIn ⟨t.toArray, false, false⟩ else (found? r t).toList
  (replaceAround t (replacement 0 new) 0 ms, ms.length)

/-! ### Parts -/

/-- The part of a text from a place on, with so many characters if that is said. A start before the
first place makes the part longer. -/
def part (t : Text) (start : Int) (count : Option Int) : Text :=
  match count with
  | none => t.drop (start - 1).toNat
  | some n => (t.drop (start - 1).toNat).take (if start < 1 then n - start else n).toNat

end Retint.Shell.Awk
