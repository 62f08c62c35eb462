import Retint.Sheet.Node
import Retint.Sheet.Token

/-!
# Reading stylesheets

Makes a syntax tree of any text. The items of a sheet or block are declarations, rule sets,
at-rules and comments; text that is none of these becomes a stray part of its own and reading goes
on after it. What is wrong inside an item stays inside it. A brace that is missing at the end is
taken as given.

## Main definitions

* `Sheet.runFrom` — the tokens up to the end of a declaration, selector list or at-rule head
* `Sheet.items` — the items up to a closing brace or the end
* `Sheet.read` — the tree of a whole text
-/

namespace Retint.Sheet

/-! ### Runs of tokens -/

/-- What the tokens at a place belong to, which decides how a text is taken apart into them. -/
inductive Context
  /-- The selectors of a rule set. -/
  | selector
  /-- An attribute in brackets, up to its operator. -/
  | bracketed
  /-- The head of an at-rule. -/
  | query
  /-- A condition in parentheses, up to its colon. -/
  | feature
  /-- A value. -/
  | value
  /-- The arguments of a function. -/
  | call
  /-- The start of an argument of a pseudo-class, which is a selector or values. -/
  | argument
  /-- An argument of a pseudo-class that is a selector. -/
  | argumentSelector
  /-- An argument of a pseudo-class that is made of values. -/
  | argumentValue
deriving DecidableEq

namespace Context

/-- Whether plain values, numbers and colors are tokens here. -/
def holdsValues : Context → Bool
  | value | call | argument | argumentValue => true
  | _ => false

/-- The token at the start of a text, unless it is a bracket, a sign or a line comment. -/
def word? (ctx : Context) (t : Text) : Option Nat :=
  if ctx.holdsValues then valueWord? t else nameWord? t

/-- What stands in parentheses that are opened here. -/
def inParens : Context → Context
  | selector | argumentSelector => argument
  | query | feature => feature
  | _ => call

/-- What stands in square brackets that are opened here. -/
def inBrackets : Context → Context
  | selector | argumentSelector => bracketed
  | _ => value

/-- The context once it is known with which character the next token starts. -/
def settle (ctx : Context) (c : Char) : Context :=
  if ctx = argument then
    if ".#*&:[>~+|".toList.contains c then argumentSelector else argumentValue
  else ctx

/-- The context after a sign. -/
def afterSign (ctx : Context) (c : Char) : Context :=
  match ctx with
  | bracketed => if c = '=' then value else bracketed
  | feature => if c = ':' then value else feature
  | argumentSelector | argumentValue => if c = ',' then argument else ctx
  | _ => ctx

end Context

/-- What a run of tokens is: the selectors of a rule set, the value of a declaration, or the head
of an at-rule. -/
inductive Run
  | selectors | value | head
deriving DecidableEq

/-! ### At-rules in values -/

/-- The name of an at-rule, with its sign. -/
def atKeyword? : Text → Option Nat
  | '@' :: c :: rest =>
    let isKey (d : Char) : Bool := d.isAlpha || d == '-' || d == '_'
    if isKey c then some (2 + (rest.takeWhile isKey).length) else none
  | _ => none

/-- The most bytes between a value and the end of the name of an at-rule that can be passed over as
a mistake in the value. -/
def slip : Nat := 10

/-- Whether an at-rule starts here that ends a declaration without a semicolon, given the end of the
value before it. The name of an at-rule has no place in a value. If it is short and on the same line
it is a mistake in the value, else the semicolon before it is missing. -/
def interrupts (last p : Place) : Bool :=
  match atKeyword? p.rest with
  | some n => slip < p.offset + n - last.offset || (last.rest.takeWhile isSpace).contains '\n'
  | none => false

/-- Whether an at-rule starts here after white space. -/
def startsAtRule (p : Place) : Bool := (atKeyword? (p.rest.dropWhile isSpace)).isSome

/-! ### Going over runs -/

/-- Whether the character ends a run, given the contexts of the brackets that are open. -/
def Run.ends (run : Run) (inner : List Context) (c : Char) : Bool :=
  match run with
  | .selectors => c == '\x7d' || c == '\x7b' || (c == ';' && inner.head? != some .call)
  | .value => c == '\x7d' || (c == ';' && inner.isEmpty)
  | .head => c == '\x7d' || c == '\x7b' || (c == ';' && inner.isEmpty)

/-- Goes over tokens up to a character that ends the run, and tells where the last token ended and
where the run did. The contexts of the brackets that are open come innermost first; `outer` is that
of the run itself. -/
def runTo (run : Run) (outer : Context) : Nat → List Context → Place → Place → Place × Place
  | 0, _, last, p => (last, p)
  | fuel + 1, inner, last, p =>
    match p.rest with
    | [] => (last, p)
    | c :: rest =>
      if run.ends inner c || (run = .value && inner.isEmpty && interrupts last p) then (last, p)
      else if isSpace c then runTo run outer fuel inner last (p.advance 1)
      else
        match blockComment? p.rest with
        | some n => runTo run outer fuel inner last (p.advance n)
        | none =>
          let ctx := (inner.headD outer).settle c
          let inner := if inner.isEmpty then [] else ctx :: inner.tail
          match ctx.word? p.rest with
          | some n =>
            let next := p.advance n
            if ctx = .query ∧ p.rest.take n = "selector".toList ∧ next.rest.head? = some '(' then
              runTo run outer fuel (.argumentSelector :: inner) (next.advance 1) (next.advance 1)
            else runTo run outer fuel inner next next
          | none =>
            match lineComment? p.rest with
            | some n => runTo run outer fuel inner last (p.advance n)
            | none =>
              let next : Place := ⟨p.offset + c.utf8Size, rest⟩
              let inner :=
                if c = '(' then ctx.inParens :: inner
                else if c = '[' then ctx.inBrackets :: inner
                else if c = ')' ∨ c = ']' then inner.tail
                else if inner.isEmpty then []
                else ctx.afterSign c :: inner.tail
              runTo run outer fuel inner next next

/-- The run of tokens that starts here, in at most so many steps. -/
def runFrom (run : Run) (outer : Context) (fuel : Nat) (p : Place) : Place × Place :=
  runTo run outer fuel [] p p

/-! ### Items -/

/-- The name before the colon of a declaration, and the place after the colon. -/
def property? (fuel : Nat) (p : Place) : Option (Place × Place) :=
  match identifier? p.rest with
  | none => none
  | some n =>
    let name := p.advance n
    match colonAfter fuel 0 name.rest with
    | .declaration before => some (name, name.advance (before + 1))
    | .none => none

/-- The end of an item that a run has come to the end of: after a semicolon, else after the last
token. -/
def finish (last p : Place) : Place :=
  match p.rest with
  | ';' :: _ => p.advance 1
  | _ => last

def spanTo (p q : Place) : Span := ⟨p.offset, q.offset⟩

/-- A declaration, given the ends of its name and of its colon. If an at-rule takes the place of its
value, its name and colon belong to nothing. -/
def declaration (fuel : Nat) (p name colon : Place) : Node × Place :=
  if startsAtRule colon then (.leaf .stray (spanTo p colon), colon)
  else
    let (last, stop) := runFrom .value .value fuel colon
    let stop := finish last stop
    (.mk .declaration (spanTo p stop) [.leaf .propertyName (spanTo p name)], stop)

/-- The opening and the closing mark of a comment that hides a sheet from old browsers. -/
def hidingMark : Text := "<!--".toList

/-- The stray characters at the start of a text that begins no item: a hiding mark, a universal or
nesting selector with a name right after it, or everything up to white space or a brace. -/
def stray? : Text → Option Nat
  | [] => none
  | c :: rest =>
    if c = ';' ∨ c = '\x7d' then some 1
    else if c = '*' ∨ c = '&' then (identifier? rest).map fun _ => 1
    else if Text.startsWith hidingMark (c :: rest) then some hidingMark.length
    else if isNameStart c ∨ "-.#:[>+~|\"'@\x7b".toList.contains c then none
    else some (1 + (rest.takeWhile fun d => !(isSpace d || ";\x7b\x7d".toList.contains d)).length)

/-- Whether an at-rule has keyframes. -/
def isKeyframes (keyword : Text) : Bool := Text.endsWith "keyframes".toList keyword

/-- How the tokens between the name of an at-rule and its end are read. Some at-rules take values,
and in a block every at-rule without a meaning of its own does. -/
def headContext (inBlock : Bool) (keyword : Text) : Context :=
  if ["@import", "@charset", "@namespace"].any (·.toList = keyword) then .value
  else if ["@media", "@supports"].any (·.toList = keyword) || isKeyframes keyword then .query
  else if inBlock then .value else .query

mutual

/-- The items from a place on, up to a closing brace in a block and up to the end in a sheet; also
the end of the last one and the place that is reached. -/
def items (inBlock : Bool) : Nat → Place → Place → List Node × Place × Place
  | 0, last, p => ([], last, p)
  | fuel + 1, last, p =>
    match p.rest with
    | [] => ([], last, p)
    | c :: rest =>
      if isSpace c then items inBlock fuel last (p.advance 1)
      else if inBlock && c == '\x7d' then ([], last, p)
      else
        match comment? (c :: rest) with
        | some n =>
          let q := p.advance n
          let (more, last, stop) := items inBlock fuel q q
          (.leaf .comment (spanTo p q) :: more, last, stop)
        | none =>
          let (item, q) := item inBlock fuel p
          let (more, last, stop) := items inBlock fuel q q
          (item :: more, last, stop)

/-- One item, and the place after it. -/
def item (inBlock : Bool) : Nat → Place → Node × Place
  | 0, p => (.leaf .stray (spanTo p p), p)
  | fuel + 1, p =>
    match stray? p.rest with
    | some n => (.leaf .stray (spanTo p (p.advance n)), p.advance n)
    | none =>
      match atKeyword? p.rest with
      | some n => atRule inBlock fuel p n
      | none =>
        match property? fuel p with
        | some (name, colon) => declaration fuel p name colon
        | none => ruleSet fuel p

/-- An at-rule, given the length of its name. -/
def atRule (inBlock : Bool) : Nat → Place → Nat → Node × Place
  | 0, p, n => (.leaf .atRule (spanTo p (p.advance n)), p.advance n)
  | fuel + 1, p, n =>
    let keyword := p.rest.take n
    let (last, stop) := runFrom .head (headContext inBlock keyword) fuel (p.advance n)
    match stop.rest with
    | '\x7b' :: _ =>
      let stop := if isKeyframes keyword then keyframes fuel (stop.advance 1)
        else (block fuel stop).2
      (.leaf .atRule (spanTo p stop), stop)
    | _ =>
      let stop := finish last stop
      (.leaf .atRule (spanTo p stop), stop)

/-- The place after the blocks of keyframes and the brace that closes them. -/
def keyframes : Nat → Place → Place
  | 0, p => p
  | fuel + 1, p =>
    let (last, stop) := runFrom .head .query fuel p
    match stop.rest with
    | '\x7b' :: _ => keyframes fuel (block fuel stop).2
    | '\x7d' :: _ => stop.advance 1
    | ';' :: _ => keyframes fuel (stop.advance 1)
    | _ => last

/-- A rule set; without a block it is stray text. -/
def ruleSet : Nat → Place → Node × Place
  | 0, p => (.leaf .stray (spanTo p p), p)
  | fuel + 1, p =>
    let (last, stop) := runFrom .selectors .selector fuel p
    match stop.rest with
    | '\x7b' :: _ =>
      let (block, after) := block fuel stop
      (.mk .ruleSet (spanTo p after) [.leaf .selectors (spanTo p last), block], after)
    | _ =>
      let stop := finish last stop
      (.leaf .stray (spanTo p stop), stop)

/-- A block, which starts with its opening brace. -/
def block : Nat → Place → Node × Place
  | 0, p => (.leaf .block (spanTo p p), p)
  | fuel + 1, p =>
    let (children, last, stop) := items true fuel (p.advance 1) (p.advance 1)
    let stop := match stop.rest with
      | '\x7d' :: _ => stop.advance 1
      | _ => last
    (.mk .block (spanTo p stop) children, stop)

end

/-- The place where the items of a text start. A byte order mark before them is nothing. -/
def start (source : Text) : Place :=
  match source with
  | '\uFEFF' :: rest => ⟨Char.utf8Size '\uFEFF', rest⟩
  | _ => ⟨0, source⟩

/-- The syntax tree of a text. No chain of steps takes more than four for a character. -/
def read (source : Text) : Node :=
  let p := start source
  let (children, _, stop) := items false (4 * source.length + 4) p p
  .mk .sheet ⟨0, stop.offset⟩ children

end Retint.Sheet
