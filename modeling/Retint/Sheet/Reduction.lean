import Retint.Sheet.Reader
import Retint.Sheet.Removal

/-!
# Reduction to colors

A theme switch needs only what has to do with color. The reduction cuts out of a stylesheet
at-rules and comments, declarations of other properties, rule sets that are left without a
declaration, rule sets of the library's preview page, and text that belongs to nothing.

## Main definitions

* `Sheet.isColorDeclaration`, `Sheet.isPreview` — what is kept and what is not
* `Sheet.hasColor` — the look-ahead: whether a rule set will keep a declaration
* `Sheet.removals` — what is cut out of a tree
* `Sheet.reduce` — a stylesheet reduced to colors
-/

namespace Retint.Sheet

/-- A declaration is kept if its property contains one of these. -/
def colorMarkers : List Text :=
  ["color".toList, "background".toList, "border".toList, "box-shadow".toList]

/-- What the selectors of the preview page start with. -/
def previewLead : Text := ".main-color .palatte-".toList

def isColorDeclaration (source : Source) (n : Node) : Bool :=
  match n.child? .propertyName with
  | some name => colorMarkers.any (Text.contains · (name.span.text source))
  | none => false

def isPreview (source : Source) (n : Node) : Bool :=
  match n.child? .selectors with
  | some selectors => Text.startsWith previewLead (selectors.span.text source)
  | none => false

mutual

/-- Whether the part is a declaration that is kept or a rule set that keeps one. -/
def hasColor (source : Source) : Node → Bool
  | .mk kind span children =>
    match kind with
    | .declaration => isColorDeclaration source (.mk kind span children)
    | .ruleSet => !isPreview source (.mk kind span children) && blockHasColor source children
    | _ => false

/-- Whether one of the parts keeps a declaration. -/
def anyHasColor (source : Source) : List Node → Bool
  | [] => false
  | n :: rest => hasColor source n || anyHasColor source rest

/-- Whether the first block among the parts keeps a declaration. -/
def blockHasColor (source : Source) : List Node → Bool
  | [] => false
  | .mk kind _ children :: rest =>
    if kind = .block then anyHasColor source children else blockHasColor source rest

end

/-- A span to be cut out, and whether that is because it belongs to nothing. -/
structure Removal where
  span : Span
  isStray : Bool
deriving DecidableEq, Repr

mutual

/-- What is cut out on account of one item of a sheet or block. -/
def removalsOf (source : Source) : Node → List Removal
  | .mk kind span children =>
    match kind with
    | .comment | .atRule => [⟨span, false⟩]
    | .stray => [⟨span, true⟩]
    | .declaration =>
      if isColorDeclaration source (.mk kind span children) then [] else [⟨span, false⟩]
    | .ruleSet =>
      if hasColor source (.mk kind span children) then blockRemovals source children
      else [⟨span, false⟩]
    | _ => []

/-- What is cut out of the items of a sheet or block. -/
def removals (source : Source) : List Node → List Removal
  | [] => []
  | n :: rest => removalsOf source n ++ removals source rest

/-- What is cut out of the first block among the parts of a rule set. -/
def blockRemovals (source : Source) : List Node → List Removal
  | [] => []
  | .mk kind _ children :: rest =>
    if kind = .block then removals source children else blockRemovals source rest

end

/-- A stylesheet reduced by means of a given tree of it. -/
def reduceWith (tree : Node) (source : Source) : Text :=
  (source.without? ((removals source tree.children).map Removal.span)).getD source.text

/-- A stylesheet reduced to colors. -/
def reduce (css : Text) : Text := reduceWith (read css) (.of css)

/-- The stray parts that the reduction cuts out: the line on which each begins, counted from one,
and its first line. -/
def strayText (css : Text) : List (Nat × Text) :=
  let source := Source.of css
  (removals source (read css).children).filterMap fun r =>
    if r.isStray then
      let before := ((source.cut? r.span.start).map Cut.before).getD []
      some (before.count '\n' + 1, ((Text.lines (r.span.text source)).head?).getD [])
    else none

end Retint.Sheet
