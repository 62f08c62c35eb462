import Retint.Path

/-!
# Import statements

A sheet of variables can import other sheets, each import on lines of its own. Reading a sheet
splits it into import statements and the text between them.

## Main definitions

* `Import.statement?` — the import statement that starts at the start of a line
* `Import.pieces` — a sheet split into statements and the text between them
* `Import.localPath?` — the file that an import means, if it is to be inlined

## Main results

* `Import.flatMap_piecesFrom` — the pieces put together are the sheet
-/

namespace Retint.Import

/-- A part of a sheet: text, or an import statement with what it imports. -/
inductive Piece
  | verbatim (t : Text)
  | statement (t target : Text)
deriving DecidableEq, Repr

def Piece.text : Piece → Text
  | verbatim t => t
  | statement t _ => t

def isLineBlank (c : Char) : Bool := c == ' ' || c == '\t'

def isQuote (c : Char) : Bool := c == '"' || c == '\''

/-- The text after a keyword that only spaces and tabs stand before. -/
def keyword? (t : Text) : Option Text := Text.dropLead? "@import".toList (t.dropWhile isLineBlank)

/-- A target in quotes, which may be of either kind, and the text after it. -/
def target? : Text → Option (Text × Text)
  | q :: rest =>
    if isQuote q then
      match rest.takeWhile (! isQuote ·), rest.dropWhile (! isQuote ·) with
      | [], _ => none
      | target, _ :: after => some (target, after)
      | _, [] => none
    else none
  | [] => none

/-- The text after a semicolon if only spaces and tabs stand between it and the end of the line. -/
def lineEnd? : Text → Option Text
  | ';' :: rest =>
    match rest.dropWhile isLineBlank with
    | [] => some []
    | '\n' :: after => some ('\n' :: after)
    | _ => none
  | _ => none

/-- The text after options in parentheses and the white space after them. -/
def dropOptions (t : Text) : Text :=
  match t with
  | '(' :: rest =>
    match Text.cut? ')' rest with
    | some (_, after) => Text.trimStart after
    | none => t
  | t => t

/-- The import statement at the start of a text: its target and its length. White space, options in
parentheses and the target may go over several lines; after the target the statement ends with the
first semicolon of the line, and nothing else may follow on that line. -/
def statement? (t : Text) : Option (Text × Nat) := do
  let rest ← keyword? t
  let (target, rest) ← target? (dropOptions (Text.trimStart rest))
  let after ← lineEnd? (rest.dropWhile fun c => c != ';' && c != '\n')
  some (target, t.length - after.length)

/-- Puts a character in front of the pieces. -/
def consChar (c : Char) : List Piece → List Piece
  | .verbatim t :: rest => .verbatim (c :: t) :: rest
  | rest => .verbatim [c] :: rest

/-- The pieces of a text, where `find?` recognizes statements at the start of a line. The number
counts the characters of the current statement that are still to be skipped. -/
def piecesFrom (find? : Text → Option (Text × Nat)) (atStart : Bool) : Nat → Text → List Piece
  | _, [] => []
  | skip + 1, c :: rest => piecesFrom find? (c == '\n') skip rest
  | 0, c :: rest =>
    match if atStart then find? (c :: rest) else none with
    | some (target, n) =>
      .statement ((c :: rest).take n) target :: piecesFrom find? (c == '\n') (n - 1) rest
    | none => consChar c (piecesFrom find? (c == '\n') 0 rest)

/-- A sheet split into its import statements and the text between them. -/
def pieces (t : Text) : List Piece := piecesFrom statement? true 0 t

theorem flatMap_consChar (c : Char) (ps : List Piece) :
    (consChar c ps).flatMap Piece.text = c :: ps.flatMap Piece.text := by
  cases ps with
  | nil => simp [consChar, Piece.text]
  | cons p ps => cases p <;> simp [consChar, Piece.text]

theorem flatMap_piecesFrom (find? : Text → Option (Text × Nat)) (atStart : Bool) (skip : Nat)
    (t : Text) (h : ∀ u target n, find? u = some (target, n) → 0 < n) :
    (piecesFrom find? atStart skip t).flatMap Piece.text = t.drop skip := by
  induction t generalizing atStart skip with
  | nil => cases skip <;> simp [piecesFrom]
  | cons c t ih =>
    cases skip with
    | succ skip => simp [piecesFrom, ih]
    | zero =>
      rw [piecesFrom]
      split
      · rename_i target n hf
        have hn : 0 < n := by
          cases atStart <;> simp at hf
          exact h _ _ _ hf
        obtain ⟨n, rfl⟩ := Nat.exists_eq_succ_of_ne_zero (Nat.pos_iff_ne_zero.1 hn)
        simp [Piece.text, ih]
      · simp [flatMap_consChar, ih]

/-! ### What an import means -/

def extension : Text := "less".toList

/-- Imports that are left to the compiler: of packages, of addresses, and of plain stylesheets. -/
def isForeign (target : Text) : Bool :=
  target.head? == some '~' || Text.contains "://".toList target ||
    Text.endsWith ".css".toList target

/-- The file that an import in a directory means, if it is to be inlined. -/
def localPath? (dir : Path) (target : Text) : Option Path :=
  if isForeign target then none
  else
    let path := dir.join ⟨target⟩
    some (if path.extension? = some extension then path else path.append ('.' :: extension))

end Retint.Import
