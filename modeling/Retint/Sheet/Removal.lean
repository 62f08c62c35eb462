import Retint.Sheet.Node

/-!
# Cutting spans out of a text

A span that is cut out takes some of the white space around it along. If it is alone on its lines,
the whole lines go; else the spaces and tabs after it do.

## Main definitions

* `Span.expand` — a span with the white space that goes along
* `Source.without?` — a text without some spans

## Implementation notes

Spans are in bytes, so a span can lie outside of a text or cut a character in two. Then there is
no answer; no tree of a text has such spans.
-/

namespace Retint

/-- The white space that stays within a line. -/
def isGapChar (c : Char) : Bool := c == ' ' || c == '\t'

/-- The span together with the white space that goes along when it is cut out of the source. -/
def Span.expand? (s : Span) (source : Source) : Option Span := do
  let before ← (source.cut? s.start).map Cut.before
  let after ← (source.cut? s.stop).map Cut.after
  let lead := before.takeWhile (· != '\n')
  let stop := s.stop + (after.takeWhile isGapChar).length
  if lead.all isGapChar then
    let start := s.start - lead.length
    match after.dropWhile isGapChar with
    | [] => some ⟨start, stop⟩
    | '\r' :: '\n' :: _ => some ⟨start, stop + 2⟩
    | '\n' :: _ => some ⟨start, stop + 1⟩
    | _ => some ⟨s.start, stop⟩
  else some ⟨s.start, stop⟩

/-- The order of spans: by start, then by end. -/
def Span.le (s t : Span) : Bool := s.start < t.start || (s.start == t.start && s.stop ≤ t.stop)

/-- What is left of the source from `position` on when the spans, which are in order, are cut
out. -/
def keep? (source : Source) (position : Nat) : List Span → Option Text
  | [] => (source.cut? position).map Cut.after
  | s :: rest =>
    if s.stop ≤ position then keep? source position rest
    else if position < s.start then do
      let kept ← source.slice? position s.start
      let more ← keep? source s.stop rest
      some (kept ++ more)
    else keep? source s.stop rest

/-- The text without the spans and the white space that goes along with each. The spans may come
in any order and overlap. -/
def Source.without? (source : Source) (spans : List Span) : Option Text := do
  let spans ← spans.mapM (·.expand? source)
  keep? source 0 (spans.mergeSort Span.le)

end Retint
