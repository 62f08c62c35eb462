import Retint.Text.Source

/-!
# Syntax trees of stylesheets

A tree tells what the parts of a stylesheet are and where they lie. It does not hold their text:
a span is a range of bytes in the source, so that what is not touched keeps its formatting.

## Main definitions

* `Span` — a range of bytes
* `Sheet.Node` — a part of a stylesheet with its own parts
* `Sheet.Node.child?` — the first part of a kind
-/

namespace Retint

/-- The bytes from `start` up to `stop`. -/
structure Span where
  start : Nat
  stop : Nat
deriving DecidableEq, Repr

/-- The text of a span; nothing if an end of the span lies outside or inside a character. -/
def Span.text (s : Span) (source : Source) : Text := (source.slice? s.start s.stop).getD []

namespace Sheet

/-- What a part of a stylesheet is. -/
inductive Kind
  | sheet | comment | atRule | ruleSet | selectors | block | declaration | propertyName
  /-- Text that belongs to nothing. -/
  | stray
deriving DecidableEq, Repr

/-- A part of a stylesheet: what it is, where it lies, and its own parts in order. -/
inductive Node
  | mk (kind : Kind) (span : Span) (children : List Node)
deriving Repr

namespace Node

def kind : Node → Kind
  | mk kind _ _ => kind

def span : Node → Span
  | mk _ span _ => span

def children : Node → List Node
  | mk _ _ children => children

/-- The first part of a kind. -/
def child? (n : Node) (kind : Kind) : Option Node := n.children.find? (·.kind = kind)

/-- A part without parts of its own. -/
def leaf (kind : Kind) (span : Span) : Node := mk kind span []

end Node

end Sheet

end Retint
