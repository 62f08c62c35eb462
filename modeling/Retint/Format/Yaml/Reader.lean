import Retint.Dict
import Retint.Format.Data
import Retint.Format.Yaml.Source

/-!
# Reading YAML

Makes data of a YAML text. A scalar without quotes stays open for what it is taken for. An alias
stands for the value that was given its name.

Names have numbers: a name that is given gets the number of names that there are by then. A name
that is given again thus gets a new number, which the next new name gets as well; a number stands
for the value that it was given to last.

## Main definitions

* `Yaml.Node` — a value as it is written
* `Yaml.node` — reads a value of any kind
* `Yaml.read` — a whole text, and whether it is a single document without errors after it
-/

namespace Retint.Yaml

/-- A value as it is written. -/
inductive Node
  | scalar (t : Text) (style : Style) (tag : Option Text)
  | list (items : List Node)
  | record (entries : List (Node × Node))
  /-- The value with a number. -/
  | alias (number : Nat)
  /-- The text goes wrong here. -/
  | broken
deriving Repr

/-- The value that is not written down. -/
def Node.absent : Node := .scalar [] .plain none

/-! ### What is still to be read -/

/-- What is still to be read, and the names that have been given. -/
structure Rest where
  /-- There is no source any more once the text has gone wrong. -/
  source : Option Source
  /-- What the handles of tags stand for. -/
  handles : List (Text × Text) := []
  /-- The numbers of names. -/
  numbers : Dict Nat := .empty
  /-- The numbers that have been given, the latest first; each is for one value. -/
  given : List Nat := []
  /-- The values that have been given a name: how many had been before, and the value. -/
  values : List (Nat × Node) := []

namespace Rest

/-- What is left where the text goes wrong. -/
def fail (r : Rest) : Rest := { r with source := none }

def failed (r : Rest) : Bool := r.source.isNone

/-- The next token. -/
def peek (r : Rest) : Option Token × Rest :=
  match r.source.bind (·.peek?) with
  | some (t, s) => (some t, { r with source := some s })
  | none => (none, r.fail)

/-- What follows the next token. -/
def next (r : Rest) : Rest := { r with source := r.source.map (·.next) }

/-- Gives a name to the value that begins here; the answer tells which value that is. -/
def name (r : Rest) : Option Text → Option Nat × Rest
  | none => (none, r)
  | some name =>
    let number := r.numbers.entries.length
    (some r.given.length,
      { r with numbers := r.numbers.insert name number, given := number :: r.given })

/-- Keeps the value that was given a name. -/
def keep (r : Rest) (which : Option Nat) (n : Node) : Rest :=
  match which with
  | some i => { r with values := (i, n) :: r.values }
  | none => r

/-- The value with a number. -/
def value? (r : Rest) (number : Nat) : Option Node :=
  let later := r.given.takeWhile (· != number)
  if later.length < r.given.length then
    let which := r.given.length - later.length - 1
    (r.values.find? (·.1 == which)).map (·.2)
  else none

end Rest

/-! ### Tags -/

/-- What stands before a value: an anchor with a name, and a tag in its two parts. -/
structure Properties where
  anchor : Option Text := none
  tag : Option (Text × Text) := none

/-- Whether there are any properties. -/
def Properties.areGiven (ps : Properties) : Bool := ps.anchor.isSome || ps.tag.isSome

/-- Reads an anchor and a tag in either order. -/
def properties (r : Rest) : Properties × Rest :=
  match r.peek with
  | (some (.anchor name), r) =>
    match r.next.peek with
    | (some (.tag handle ending), r) => (⟨some name, some (handle, ending)⟩, r.next)
    | (_, r) => (⟨some name, none⟩, r)
  | (some (.tag handle ending), r) =>
    match r.next.peek with
    | (some (.anchor name), r) => (⟨some name, some (handle, ending)⟩, r.next)
    | (_, r) => (⟨none, some (handle, ending)⟩, r)
  | (_, r) => ({}, r)

/-- The whole tag; none if its handle stands for nothing. -/
def Rest.tag? (r : Rest) (tag : Text × Text) : Option Text :=
  if tag.1.isEmpty then some tag.2
  else (r.handles.find? (·.1 = tag.1)).map fun h => h.2 ++ tag.2

/-- The handles that need no declaration. -/
def standardHandles : List (Text × Text) :=
  [("!".toList, "!".toList), ("!!".toList, "tag:yaml.org,2002:".toList)]

/-- Reads the directives before a document; the flag tells that there has been a version. -/
def directives : Nat → Bool → Rest → Rest
  | 0, _, r => r.fail
  | fuel + 1, versioned, r =>
    match r.peek with
    | (some (.version major minor), r) =>
      if versioned || major != 1 || (minor != 1 && minor != 2) then r.fail
      else directives fuel true r.next
    | (some (.tagPrefix handle lead), r) =>
      if r.handles.any (·.1 = handle) then r.fail
      else directives fuel versioned { r.next with handles := r.handles ++ [(handle, lead)] }
    | (_, r) => { r with handles := r.handles ++ standardHandles }

/-! ### Values -/

/-- Where a value stands; that decides which collections can begin. -/
inductive Position
  /-- In a block list or as a document. -/
  | block
  /-- In a block mapping, where a list need not be indented. -/
  | entry
  | flow
deriving DecidableEq

mutual

/-- A value. -/
def node : Nat → Position → Rest → Node × Rest
  | 0, _, r => (.broken, r.fail)
  | fuel + 1, position, r =>
    match r.peek with
    | (none, r) => (.broken, r)
    | (some (.alias name), r) =>
      match r.numbers.get? name with
      | some number => (.alias number, r.next)
      | none => (.broken, r.fail)
    | (some _, r) =>
      let (ps, r) := properties r
      match r.peek with
      | (none, r) => (.broken, r)
      | (some t, r) =>
        match ps.tag.map r.tag? with
        | some none => (.broken, r.fail)
        | tag =>
          let (which, r) := r.name ps.anchor
          let (n, r) := content fuel position ps (tag.bind id) t r
          (n, r.keep which n)

/-- A value after its properties, given the token that is next. -/
def content : Nat → Position → Properties → Option Text → Token → Rest → Node × Rest
  | 0, _, _, _, _, r => (.broken, r.fail)
  | fuel + 1, position, ps, tag, t, r =>
    match position, t with
    | .entry, .blockItem => list (looseItems fuel r)
    | _, .scalar t style => (.scalar t style tag, r.next)
    | _, .flowList => list (flowItems fuel true r.next)
    | _, .flowMap => record (flowEntries fuel true r.next)
    | .block, .blockList | .entry, .blockList => list (blockItems fuel r.next)
    | .block, .blockMap | .entry, .blockMap => record (blockEntries fuel r.next)
    | _, _ => if ps.areGiven then (.scalar [] .plain tag, r) else (.broken, r.fail)
where
  list : List Node × Rest → Node × Rest
    | (items, r) => (.list items, r)
  record : List (Node × Node) × Rest → Node × Rest
    | (entries, r) => (.record entries, r)

/-- A value unless one of some tokens is next; then the value is not written down. -/
def part : Nat → Position → List Token → Rest → Node × Rest
  | 0, _, _, r => (.broken, r.fail)
  | fuel + 1, position, ends, r =>
    match r.peek with
    | (none, r) => (.broken, r)
    | (some t, r) => if ends.contains t then (.absent, r) else node fuel position r

/-- The items of a block list up to its end. -/
def blockItems : Nat → Rest → List Node × Rest
  | 0, r => ([.broken], r.fail)
  | fuel + 1, r =>
    match r.peek with
    | (some .blockItem, r) =>
      let (n, r) := part fuel .block [.blockItem, .blockEnd] r.next
      if r.failed then ([n], r)
      else
        let (more, r) := blockItems fuel r
        (n :: more, r)
    | (some .blockEnd, r) => ([], r.next)
    | (_, r) => ([.broken], r.fail)

/-- The items of a list that is indented no further than the mapping it is in. -/
def looseItems : Nat → Rest → List Node × Rest
  | 0, r => ([.broken], r.fail)
  | fuel + 1, r =>
    match r.peek with
    | (none, r) => ([.broken], r)
    | (some .blockItem, r) =>
      let (n, r) := part fuel .block [.blockItem, .key, .value, .blockEnd] r.next
      if r.failed then ([n], r)
      else
        let (more, r) := looseItems fuel r
        (n :: more, r)
    | (some _, r) => ([], r)

/-- The entries of a block mapping up to its end. -/
def blockEntries : Nat → Rest → List (Node × Node) × Rest
  | 0, r => ([(.broken, .broken)], r.fail)
  | fuel + 1, r =>
    match r.peek with
    | (some .blockEnd, r) => ([], r.next)
    | (some .key, r) =>
      let (k, r) := part fuel .entry [.key, .value, .blockEnd] r.next
      let (v, r) := valueOf fuel .entry [.key, .value, .blockEnd] r
      if r.failed then ([(k, v)], r)
      else
        let (more, r) := blockEntries fuel r
        ((k, v) :: more, r)
    | (_, r) => ([(.broken, .broken)], r.fail)

/-- The value after a key, which need not be written down. -/
def valueOf : Nat → Position → List Token → Rest → Node × Rest
  | 0, _, _, r => (.broken, r.fail)
  | fuel + 1, position, ends, r =>
    match r.peek with
    | (none, r) => (.broken, r)
    | (some .value, r) => part fuel position ends r.next
    | (some _, r) => (.absent, r)

/-- The items of a flow list. An item can be an entry, which makes a mapping of its own. -/
def flowItems : Nat → Bool → Rest → List Node × Rest
  | 0, _, r => ([.broken], r.fail)
  | fuel + 1, first, r =>
    match r.peek with
    | (none, r) => ([.broken], r)
    | (some .flowListEnd, r) => ([], r.next)
    | (some t, r) =>
      if !first && t != .flowItem then ([.broken], r.fail)
      else
        match (if first then r else r.next).peek with
        | (none, r) => ([.broken], r)
        | (some .flowListEnd, r) => ([], r.next)
        | (some t, r) =>
          let (n, r) := if t = .key then pair fuel r.next else node fuel .flow r
          if r.failed then ([n], r)
          else
            let (more, r) := flowItems fuel false r
            (n :: more, r)

/-- An entry that is an item of a flow list, after the sign of its key. A key that is not written
down takes the next token with it. -/
def pair : Nat → Rest → Node × Rest
  | 0, r => (.broken, r.fail)
  | fuel + 1, r =>
    let ends : List Token := [.flowItem, .flowListEnd]
    let (k, r) := match r.peek with
      | (none, r) => (.broken, r)
      | (some t, r) =>
        if t = .value ∨ t ∈ ends then (.absent, r.next) else node fuel .flow r
    let (v, r) := valueOf fuel .flow ends r
    (.record [(k, v)], r)

/-- The entries of a flow mapping. -/
def flowEntries : Nat → Bool → Rest → List (Node × Node) × Rest
  | 0, _, r => ([(.broken, .broken)], r.fail)
  | fuel + 1, first, r =>
    match r.peek with
    | (none, r) => ([(.broken, .broken)], r)
    | (some .flowMapEnd, r) => ([], r.next)
    | (some t, r) =>
      if !first && t != .flowItem then ([(.broken, .broken)], r.fail)
      else
        match (if first then r else r.next).peek with
        | (none, r) => ([(.broken, .broken)], r)
        | (some .flowMapEnd, r) => ([], r.next)
        | (some t, r) =>
          let ends : List Token := [.flowItem, .flowMapEnd]
          let (e, r) := if t = .key then
              let (k, r) := part fuel .flow (.value :: ends) r.next
              let (v, r) := valueOf fuel .flow ends r
              ((k, v), r)
            else
              let (k, r) := node fuel .flow r
              ((k, if r.failed then .broken else .absent), r)
          if r.failed then ([e], r)
          else
            let (more, r) := flowEntries fuel false r
            (e :: more, r)

end

/-- The first document. A text without a document has the value that is not written down. -/
def document (fuel : Nat) (r : Rest) : Node × Rest :=
  match r.peek with
  | (none, r) => (.broken, r)
  | (some .streamEnd, r) => (.absent, r)
  | (some t, r) =>
    let isExplicit := match t with
      | .version .. | .tagPrefix .. | .docStart => true
      | _ => false
    let r := directives fuel false r
    if isExplicit then
      match r.peek with
      | (some .docStart, r) =>
        match r.next.peek with
        | (none, r) => (.broken, r)
        | (some t, r) =>
          match t with
          | .version .. | .tagPrefix .. | .docStart | .docEnd | .streamEnd => (.absent, r)
          | _ => node fuel .block r
      | (_, r) => (.broken, r.fail)
    else node fuel .block r

/-- Whether nothing but ends of documents follows. -/
def Rest.isOver : Nat → Rest → Bool
  | 0, _ => false
  | fuel + 1, r =>
    match r.peek with
    | (some .docEnd, r) => isOver fuel r.next
    | (some .streamEnd, _) => true
    | _ => false

/-! ### Data -/

/-- What a tag says about a scalar. -/
def marking (tag : Text) : Data.Marking :=
  if tag = "tag:yaml.org,2002:null".toList then .nothing
  else if tag = "tag:yaml.org,2002:bool".toList then .truth
  else .other

mutual

/-- The data of a node, given that of the numbers that aliases have. -/
def Node.data (look : Nat → Data) : Node → Data
  | .scalar t .plain tag => .plain t (tag.map marking)
  | .scalar t .literal tag => .text t (tag.map marking == some .truth)
  | .scalar t _ _ => .text t false
  | .list items => .list (itemsData look items)
  | .record entries => .record (entriesData look entries)
  | .alias number => look number
  | .broken => .broken

def itemsData (look : Nat → Data) : List Node → List Data
  | [] => []
  | n :: rest => n.data look :: itemsData look rest

def entriesData (look : Nat → Data) : List (Node × Node) → List (Data × Data)
  | [] => []
  | (k, v) :: rest => (k.data look, v.data look) :: entriesData look rest

end

/-- The data of the value with a number. Aliases within aliases are followed so many times; what is
further in is wanted nowhere. -/
def Rest.look (r : Rest) : Nat → Nat → Data
  | 0, _ => .other
  | depth + 1, number =>
    match r.value? number with
    | some n => n.data (r.look depth)
    | none => .broken

/-- The data of a text, and whether nothing but ends of documents follows it. A value that is
looked at is at most a list of scalars in a record, so three aliases within each other are
enough. -/
def read (t : Text) : Data × Bool :=
  let (n, r) := document (8 * t.length + 16) { source := Source.ofText? t }
  (n.data (r.look 3), !r.failed && r.isOver (t.length + 2))

end Retint.Yaml
