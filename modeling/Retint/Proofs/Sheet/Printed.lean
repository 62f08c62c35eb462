import Retint.Proofs.Flat.Blocks
import Retint.Proofs.Sheet.CutOut
import Retint.Proofs.Sheet.Kept

/-!
# The reduction of a printed sheet

The compiler prints a sheet in one layout: a rule with one line for each property, and comments and
at-rules on lines of their own. In this layout the spans that the reduction cuts out, with what they
take along, are whole lines. So what is left of a sheet is another sheet in the same layout.

The tree of a sheet is given by the layout and not by the reader, so nothing is asked of the texts
that the parts of the sheet are printed with.

## Main definitions

* `Sheet.CutsTo` — what is left of a part of a text, if only spans in this part are cut out of it
* `Sheet.Entry` — a rule, a comment or an at-rule of a printed sheet
* `Sheet.printed`, `Sheet.tree` — the text of a sheet, and its tree
* `Sheet.kept` — what the reduction is to keep of a sheet

## Main results

* `Sheet.CutsTo.append` — the parts of a text can be gone through one by one
* `Sheet.cutsTo_entry` — what is left of one rule, comment or at-rule
* `Sheet.reduceWith_printed` — the headline
-/

namespace Retint.Sheet

open Text Flat

variable {source : Source} {before after : Text}

/-! ### Cutting out part by part -/

/-- If the spans are cut out, then `left` is what is left of the part `t` that comes after `before`.
What the spans take along lies in the part. -/
def CutsTo (source : Source) (before t : Text) (spans : List Span) (left : Text) : Prop :=
  ∃ taken, spans.mapM (·.expand? source) = some taken ∧
    (∀ s ∈ taken, s.IsIn source.text ∧ s.Within ⟨size before, size (before ++ t)⟩) ∧
      uncovered (Span.cover taken) (size before) t = left

namespace CutsTo

theorem nil (source : Source) (before t : Text) : CutsTo source before t [] t :=
  ⟨[], rfl, List.forall_mem_nil _, Span.uncovered_of_le_start (List.forall_mem_nil _)⟩

/-- Two parts, one after the other. What is cut out of one does not touch the other. -/
theorem append {a b l r : Text} {spans spans' : List Span} (ha : CutsTo source before a spans l)
    (hb : CutsTo source (before ++ a) b spans' r) :
    CutsTo source before (a ++ b) (spans ++ spans') (l ++ r) := by
  obtain ⟨taken, htaken, hin, hl⟩ := ha
  obtain ⟨taken', htaken', hin', hr⟩ := hb
  have hcover : ∀ i, Span.cover (taken ++ taken') i =
      (Span.cover taken i || Span.cover taken' i) := fun i => List.any_append
  have hfirst : ∀ i, i < size (before ++ a) → Span.cover taken' i = false := fun i hi =>
    Span.cover_eq_false_iff.mpr fun s hs hstart => absurd ((hin' s hs).2.1.trans hstart) (by
      simpa using hi)
  have hsecond : ∀ i, size (before ++ a) ≤ i → Span.cover taken i = false := fun i hi =>
    Span.cover_eq_false_iff.mpr fun s hs _ => (hin s hs).2.2.trans hi
  refine ⟨taken ++ taken', ?_, List.forall_mem_append.mpr ⟨?_, ?_⟩, ?_⟩
  · rw [List.mapM_append, htaken, htaken']
    rfl
  · intro s hs
    obtain ⟨hs, hstart, hstop⟩ := hin s hs
    refine ⟨hs, hstart, hstop.trans ?_⟩
    simp [← Nat.add_assoc]
  · intro s hs
    obtain ⟨hs, hstart, hstop⟩ := hin' s hs
    refine ⟨hs, Nat.le_trans (by simp) hstart, hstop.trans (by simp)⟩
  · rw [uncovered_append, ← hl, ← hr, ← size_append]
    congr 1
    · refine uncovered_congr fun i _ hi => ?_
      rw [hcover, hfirst i (by rwa [size_append]), Bool.or_false]
    · refine uncovered_congr fun i hi _ => ?_
      rw [hcover, hsecond i hi, Bool.false_or]

/-- A span that is alone on its lines goes with the lines. -/
theorem site {p : Site} (h : p.text = source.text) (hp : p.IsProper)
    (hending : p.ending = ['\n'] ∨ p.ending = [] ∧ p.after = [])
    (hbefore : Site.EndsLine p.before) :
    CutsTo source p.before (p.lead ++ p.inside ++ p.gap ++ p.ending) [p.span] [] := by
  have hstop : p.taken.stop = size (p.before ++ (p.lead ++ p.inside ++ p.gap ++ p.ending)) := by
    simp only [Site.taken, List.append_assoc]
  refine ⟨[p.taken], ?_, ?_, ?_⟩
  · rw [List.mapM_cons, Site.expand?_eq h hp hending hbefore]
    rfl
  · rintro s (_ | ⟨_, ⟨⟩⟩)
    exact ⟨h ▸ p.isIn_taken, Nat.le_refl _, hstop.le⟩
  · refine Span.uncovered_of_within (List.mem_singleton_self _) (Nat.le_refl _) ?_
    rw [hstop, ← size_append]

theorem without?_eq {spans : List Span} {left : Text}
    (h : CutsTo source [] source.text spans left) : source.without? spans = some left := by
  obtain ⟨taken, htaken, hin, hleft⟩ := h
  rw [Source.without?_eq htaken fun s hs => (hin s hs).1]
  exact congrArg some hleft

end CutsTo

/-! ### Printed sheets -/

/-- A part of a printed sheet. Comments and at-rules are on lines of their own, with white space
around comments, and the last of these lines may not be ended. -/
inductive Entry
  | rule (b : Block)
  | comment (lead text gap : Text) (ended : Bool)
  | atRule (text : Text) (ended : Bool)

/-- The end of a line, if it has one. -/
def lineFeed (ended : Bool) : Text := if ended then ['\n'] else []

/-- The rule without the line feed after it. -/
def body (b : Block) : Text :=
  b.selector ++ " \x7b\n".toList ++
    (b.properties.flatMap fun p => propertyLine p.1 p.2) ++ "\x7d".toList

/-- The declarations of properties that are printed after so many bytes. -/
def declarations (start : Nat) : List (Text × Text) → List Node
  | [] => []
  | p :: rest =>
    .mk .declaration ⟨start + 2, start + size (Block.row p)⟩
      [.leaf .propertyName ⟨start + 2, start + 2 + size p.1⟩] ::
    declarations (start + size (propertyLine p.1 p.2)) rest

/-- The rule set that is printed after so many bytes. -/
def ruleSetAt (start : Nat) (b : Block) : Node :=
  .mk .ruleSet ⟨start, start + size (body b)⟩
    [.leaf .selectors ⟨start, start + size b.selector⟩,
      .mk .block ⟨start + size b.selector + 1, start + size (body b)⟩
        (declarations (start + size (b.selector ++ " \x7b\n".toList)) b.properties)]

/-- A property that has to do with color. -/
def isColorName (name : Text) : Bool := colorMarkers.any (Text.contains · name)

namespace Entry

def text : Entry → Text
  | rule b => b.text
  | comment lead text gap ended => lead ++ text ++ gap ++ lineFeed ended
  | atRule text ended => text ++ lineFeed ended

/-- What the text is in the tree, if so many bytes are before it. -/
def node (start : Nat) : Entry → Node
  | rule b => ruleSetAt start b
  | comment lead text _ _ => .leaf .comment ⟨start + size lead, start + size lead + size text⟩
  | atRule text _ => .leaf .atRule ⟨start, start + size text⟩

def isEnded : Entry → Bool
  | rule _ => true
  | comment _ _ _ ended => ended
  | atRule _ ended => ended

/-- Only spaces and tabs are beside a comment. -/
def IsWhole : Entry → Prop
  | comment lead _ gap _ => (∀ c ∈ lead, isGapChar c = true) ∧ ∀ c ∈ gap, isGapChar c = true
  | _ => True

/-- What is to be kept: of a rule the properties that have to do with color, if there is one and
the rule is not of the preview page. -/
def kept? : Entry → Option Entry
  | rule b =>
    let properties := b.properties.filter fun p => isColorName p.1
    if Text.startsWith previewLead b.selector || properties.isEmpty then none
    else some (rule ⟨b.selector, properties⟩)
  | _ => none

/-- The lines of a rule. -/
def lines : Entry → List Text
  | rule b => b.lines
  | _ => []

end Entry

/-- Each line but the last is ended. -/
def IsPrinted : List Entry → Prop
  | [] => True
  | e :: rest => e.IsWhole ∧ (e.isEnded = true ∨ rest = []) ∧ IsPrinted rest

def printed (es : List Entry) : Text := es.flatMap Entry.text

/-- The items that are printed after so many bytes. -/
def itemsAt (start : Nat) : List Entry → List Node
  | [] => []
  | e :: rest => e.node start :: itemsAt (start + size e.text) rest

/-- The tree of a printed sheet. -/
def tree (es : List Entry) : Node := .mk .sheet ⟨0, size (printed es)⟩ (itemsAt 0 es)

def kept (es : List Entry) : List Entry := es.filterMap Entry.kept?

/-! ### Lines -/

theorem endsLine_concat (t : Text) : Site.EndsLine (t ++ ['\n']) := .inr List.getLast?_concat

/-- What is alone on its lines goes with the lines. -/
theorem cutsTo_whole {lead inside gap : Text} {ended : Bool}
    (ht : source.text = before ++ (lead ++ inside ++ gap ++ lineFeed ended ++ after))
    (hbefore : Site.EndsLine before) (hlead : ∀ c ∈ lead, isGapChar c = true)
    (hgap : ∀ c ∈ gap, isGapChar c = true) (hended : ended = true ∨ after = []) :
    CutsTo source before (lead ++ inside ++ gap ++ lineFeed ended)
      [⟨size before + size lead, size before + size lead + size inside⟩] [] := by
  have htext : Site.text ⟨before, lead, inside, gap, lineFeed ended, after⟩ = source.text := by
    rw [ht, Site.text]
    simp only [List.append_assoc]
  have hsite := CutsTo.site htext
    ⟨hlead, hgap, by cases ended <;> simp [lineFeed, Site.IsAlone, Site.lineEnds, hbefore]⟩
    (by cases ended <;> simp_all [lineFeed]) hbefore
  rwa [Site.span, size_append _ inside, size_append] at hsite

/-! ### Rules -/

theorem text_eq_body (b : Block) : b.text = body b ++ ['\n'] := by
  have hclose : "\x7d\n".toList = "\x7d".toList ++ ['\n'] := by decide
  simp only [Block.text, body, hclose, List.append_assoc]

theorem propertyLine_eq_row (p : Text × Text) : propertyLine p.1 p.2 = Block.row p ++ ['\n'] := by
  simp only [propertyLine, Block.row, List.append_assoc]
  rfl

variable {p : Text × Text} {ps : List (Text × Text)}

/-- The property's name is found where it is printed. -/
theorem isColorDeclaration_eq (ht : source.text = before ++ (propertyLine p.1 p.2 ++ after))
    {span : Span} : isColorDeclaration source (.mk .declaration span
      [.leaf .propertyName ⟨size before + 2, size before + 2 + size p.1⟩]) = isColorName p.1 := by
  have hsplit : source.text = (before ++ "  ".toList) ++
      (p.1 ++ (": ".toList ++ p.2 ++ ";\n".toList ++ after)) := by
    rw [ht]
    simp only [propertyLine, List.append_assoc]
  have htwo : size "  ".toList = 2 := rfl
  have hname := Source.slice?_of_eq hsplit
  rw [size_append _ p.1, size_append, htwo] at hname
  have hspan : Span.text ⟨size before + 2, size before + 2 + size p.1⟩ source = p.1 := by
    rw [Span.text, hname, Option.getD_some]
  simp only [isColorDeclaration, Node.child?, Node.children, Node.leaf, Node.kind, Node.span,
    List.find?_cons, decide_true, hspan, isColorName]

/-- The look-ahead sees the properties that are printed. -/
theorem anyHasColor_declarations
    (ht : source.text = before ++ ((ps.flatMap fun p => propertyLine p.1 p.2) ++ after)) :
    anyHasColor source (declarations (size before) ps) = ps.any fun p => isColorName p.1 := by
  induction ps generalizing before with
  | nil => rfl
  | cons p ps ih =>
    rw [List.flatMap_cons, List.append_assoc] at ht
    rw [declarations, anyHasColor, hasColor_of_declaration rfl, isColorDeclaration_eq ht,
      ← size_append, ih (by rw [ht, List.append_assoc]), List.any_cons]

/-- **What is left of properties.** Each of the others goes with its line. -/
theorem cutsTo_declarations
    (ht : source.text = before ++ ((ps.flatMap fun p => propertyLine p.1 p.2) ++ after))
    (hbefore : Site.EndsLine before) :
    CutsTo source before (ps.flatMap fun p => propertyLine p.1 p.2)
      ((removals source (declarations (size before) ps)).map Removal.span)
      ((ps.filter fun p => isColorName p.1).flatMap fun p => propertyLine p.1 p.2) := by
  induction ps generalizing before with
  | nil => exact .nil source before []
  | cons p ps ih =>
    rw [List.flatMap_cons, List.append_assoc] at ht
    have hnext : source.text = (before ++ propertyLine p.1 p.2) ++
        ((ps.flatMap fun p => propertyLine p.1 p.2) ++ after) := by
      rw [ht, List.append_assoc]
    have hrest := ih hnext (by
      rw [propertyLine_eq_row, ← List.append_assoc]
      exact endsLine_concat _)
    rw [size_append] at hrest
    rw [List.flatMap_cons, declarations, removals, List.map_append, removalsOf_declaration rfl,
      isColorDeclaration_eq ht, List.filter_cons]
    by_cases hcolor : isColorName p.1 = true
    · rw [if_pos hcolor, if_pos hcolor, List.flatMap_cons]
      exact (CutsTo.nil source before _).append hrest
    · rw [if_neg hcolor, if_neg hcolor]
      have hpart : propertyLine p.1 p.2 =
          "  ".toList ++ (p.1 ++ ": ".toList ++ p.2 ++ [';']) ++ [] ++ lineFeed true := by
        simp only [propertyLine_eq_row, Block.row, List.append_assoc, List.append_nil, lineFeed,
          if_true]
      have hsize : size (Block.row p) = 2 + size (p.1 ++ ": ".toList ++ p.2 ++ [';']) := by
        simp only [Block.row, List.append_assoc]
        exact size_append "  ".toList _
      have hline := cutsTo_whole (hpart ▸ ht) hbefore (by decide) (List.forall_mem_nil _) (.inl rfl)
      rw [List.map_singleton, Node.span, hsize, ← Nat.add_assoc]
      refine CutsTo.append (l := []) ?_ hrest
      rw [hpart]
      exact hline

/-- What is left of a rule. -/
theorem cutsTo_rule {b : Block} (ht : source.text = before ++ (b.text ++ after))
    (hbefore : Site.EndsLine before) :
    CutsTo source before b.text
      ((removalsOf source (ruleSetAt (size before) b)).map Removal.span)
      ((Entry.rule b).kept?.elim [] Entry.text) := by
  have hselector : Span.text ⟨size before, size before + size b.selector⟩ source = b.selector := by
    have hsplit : source.text = before ++ (b.selector ++ (" \x7b\n".toList ++
        ((b.properties.flatMap fun p => propertyLine p.1 p.2) ++ ("\x7d\n".toList ++ after)))) := by
      rw [ht, Block.text]
      simp only [List.append_assoc]
    have hslice := Source.slice?_of_eq hsplit
    rw [size_append] at hslice
    rw [Span.text, hslice, Option.getD_some]
  have hopen : source.text = (before ++ (b.selector ++ " \x7b\n".toList)) ++
      ((b.properties.flatMap fun p => propertyLine p.1 p.2) ++ ("\x7d\n".toList ++ after)) := by
    rw [ht, Block.text]
    simp only [List.append_assoc]
  have hseen := anyHasColor_declarations hopen
  rw [size_append before] at hseen
  have hcolor : hasColor source (ruleSetAt (size before) b) =
      !(Text.startsWith previewLead b.selector ||
        (b.properties.filter fun p => isColorName p.1).isEmpty) := by
    rw [Bool.eq_iff_iff, hasColor_of_ruleSet rfl]
    simp only [ruleSetAt, isPreview, Node.child?, Node.children, Node.leaf, Node.kind, Node.span,
      List.find?_cons, decide_true, hselector, Bool.not_or, Bool.and_eq_true, Bool.not_eq_true',
      reduceCtorEq, decide_false, Option.some.injEq, exists_eq_left', hseen]
    simp
  rw [removalsOf_ruleSet rfl rfl, hcolor, Entry.kept?]
  cases hgone : Text.startsWith previewLead b.selector ||
      (b.properties.filter fun p => isColorName p.1).isEmpty with
  | true =>
    have hsplit : source.text = before ++ ([] ++ body b ++ [] ++ lineFeed true ++ after) := by
      rw [ht, text_eq_body]
      simp [lineFeed]
    have hwhole := cutsTo_whole hsplit hbefore (List.forall_mem_nil _) (List.forall_mem_nil _)
      (.inl rfl)
    simpa [text_eq_body, lineFeed, ruleSetAt, Node.span] using hwhole
  | false =>
    have hrows := cutsTo_declarations hopen (by
      have hbrace : " \x7b\n".toList = " \x7b".toList ++ ['\n'] := by decide
      rw [hbrace, ← List.append_assoc, ← List.append_assoc]
      exact endsLine_concat _)
    rw [size_append before] at hrows
    have hall := ((CutsTo.nil source before (b.selector ++ " \x7b\n".toList)).append hrows).append
      (CutsTo.nil source _ "\x7d\n".toList)
    simpa [Entry.text, Block.text, ruleSetAt, Node.children] using hall

/-! ### Sheets -/

/-- What is left of a part of a sheet. -/
theorem cutsTo_entry {e : Entry} (ht : source.text = before ++ (e.text ++ after))
    (hbefore : Site.EndsLine before) (he : e.IsWhole) (hended : e.isEnded = true ∨ after = []) :
    CutsTo source before e.text ((removalsOf source (e.node (size before))).map Removal.span)
      (e.kept?.elim [] Entry.text) := by
  cases e with
  | rule b => exact cutsTo_rule ht hbefore
  | comment lead text gap ended => exact cutsTo_whole ht hbefore he.1 he.2 hended
  | atRule text ended =>
    have htext : [] ++ text ++ [] ++ lineFeed ended = text ++ lineFeed ended := by
      rw [List.append_nil, List.nil_append]
    have hprinted : source.text = before ++ (text ++ lineFeed ended ++ after) := ht
    rw [← htext] at hprinted
    have hwhole := cutsTo_whole hprinted hbefore (List.forall_mem_nil _) (List.forall_mem_nil _)
      hended
    rw [htext] at hwhole
    exact hwhole

theorem endsLine_append_text {e : Entry} (h : e.isEnded = true) (before : Text) :
    Site.EndsLine (before ++ e.text) := by
  have hline : ∃ t, e.text = t ++ ['\n'] := by
    cases e with
    | rule b => exact ⟨_, text_eq_body b⟩
    | comment lead text gap ended =>
      obtain rfl : ended = true := h
      exact ⟨_, rfl⟩
    | atRule text ended =>
      obtain rfl : ended = true := h
      exact ⟨_, rfl⟩
  obtain ⟨t, ht⟩ := hline
  rw [ht, ← List.append_assoc]
  exact endsLine_concat _

theorem printed_cons (e : Entry) (es : List Entry) : printed (e :: es) = e.text ++ printed es :=
  List.flatMap_cons

theorem printed_kept_cons (e : Entry) (es : List Entry) :
    printed (kept (e :: es)) = e.kept?.elim [] Entry.text ++ printed (kept es) := by
  rw [kept, List.filterMap_cons]
  cases e.kept? <;> rfl

/-- What is left of a sheet, from any place on. The induction is on the parts of the sheet. -/
theorem cutsTo_printed {es : List Entry} (ht : source.text = before ++ printed es)
    (hbefore : Site.EndsLine before) (hes : IsPrinted es) :
    CutsTo source before (printed es)
      ((removals source (itemsAt (size before) es)).map Removal.span) (printed (kept es)) := by
  induction es generalizing before with
  | nil => exact .nil source before []
  | cons e es ih =>
    obtain ⟨hwhole, hended, hrest⟩ := hes
    rw [printed_cons] at ht
    have hlast : e.isEnded = true ∨ printed es = [] := hended.imp_right fun h => by rw [h]; rfl
    have hfirst := cutsTo_entry ht hbefore hwhole hlast
    have hothers : CutsTo source (before ++ e.text) (printed es)
        ((removals source (itemsAt (size (before ++ e.text)) es)).map Removal.span)
        (printed (kept es)) := by
      rcases hended with hended | rfl
      · exact ih (by rw [ht, List.append_assoc]) (endsLine_append_text hended before) hrest
      · exact .nil source _ []
    rw [printed_cons, itemsAt, removals, List.map_append, printed_kept_cons, ← size_append]
    exact hfirst.append hothers

theorem kept?_kept? {e e' : Entry} (h : e.kept? = some e') : e'.kept? = some e' := by
  cases e with
  | rule b =>
    simp only [Entry.kept?] at h
    split at h
    · exact absurd h nofun
    · rename_i hstays
      obtain rfl := Option.some.inj h
      simp only [Entry.kept?, List.filter_filter, Bool.and_self, if_neg hstays]
  | comment | atRule => exact absurd h nofun

theorem kept_kept (es : List Entry) : kept (kept es) = kept es := by
  have hall : ∀ e ∈ kept es, e.kept? = some e := fun e he => by
    obtain ⟨e', -, h⟩ := List.mem_filterMap.mp he
    exact kept?_kept? h
  exact (List.filterMap_congr hall).trans List.filterMap_some

theorem exists_rule_of_mem_kept {es : List Entry} {e : Entry} (h : e ∈ kept es) :
    ∃ b b', Entry.rule b ∈ es ∧ e = .rule b' ∧ b'.selector = b.selector ∧
      ∀ p ∈ b'.properties, p ∈ b.properties := by
  obtain ⟨e', he', h⟩ := List.mem_filterMap.mp h
  cases e' with
  | rule b =>
    simp only [Entry.kept?] at h
    split at h
    · exact absurd h nofun
    · obtain rfl := Option.some.inj h
      exact ⟨b, _, he', rfl, rfl, fun p hp => List.mem_of_mem_filter hp⟩
  | comment | atRule => exact absurd h nofun

/-- What is kept is a sheet in the same layout. -/
theorem isPrinted_kept (es : List Entry) : IsPrinted (kept es) := by
  have hrules : ∀ l : List Entry, (∀ e ∈ l, ∃ b, e = .rule b) → IsPrinted l := by
    intro l hl
    induction l with
    | nil => trivial
    | cons e l ih =>
      obtain ⟨⟨b, rfl⟩, hrest⟩ := List.forall_mem_cons.mp hl
      exact ⟨trivial, .inl rfl, ih hrest⟩
  refine hrules _ fun e he => ?_
  obtain ⟨-, b', -, h, -⟩ := exists_rule_of_mem_kept he
  exact ⟨b', h⟩

theorem reduceWith_tree {es : List Entry} (hes : IsPrinted es) :
    reduceWith (tree es) (.of (printed es)) = printed (kept es) := by
  have htext : (Source.of (printed es)).text = [] ++ printed es := rfl
  have hcuts := cutsTo_printed htext (.inl rfl) hes
  have hleft : (Source.of (printed es)).without?
      ((removals (.of (printed es)) (itemsAt 0 es)).map Removal.span) = some (printed (kept es)) :=
    hcuts.without?_eq
  rw [reduceWith, tree, Node.children, hleft, Option.getD_some]

/-- The lines of rules whose parts are on one line each. -/
theorem lines_printed {es : List Entry} (h : ∀ e ∈ es, ∃ b, e = .rule b ∧ '\n' ∉ b.selector ∧
    ∀ p ∈ b.properties, '\n' ∉ p.1 ∧ '\n' ∉ p.2) :
    Text.lines (printed es) = es.flatMap Entry.lines := by
  have htext : printed es = (es.flatMap Entry.lines).flatMap (· ++ ['\n']) := by
    rw [printed, List.flatMap_assoc]
    refine List.flatMap_congr fun e he => ?_
    obtain ⟨b, rfl, -⟩ := h e he
    exact b.flatMap_lines.symm
  have hline : ∀ line ∈ es.flatMap Entry.lines, '\n' ∉ line ∧ line.getLast? ≠ some '\r' := by
    intro line hline
    obtain ⟨e, he, hline⟩ := List.mem_flatMap.mp hline
    obtain ⟨b, rfl, hselector, hps⟩ := h e he
    simp only [Entry.lines, Block.lines, List.cons_append, List.mem_cons, List.mem_append,
      List.mem_map, List.not_mem_nil, or_false] at hline
    rcases hline with rfl | ⟨p, hp, rfl⟩ | rfl
    · simp [hselector]
    · refine ⟨by simp [Block.row, hps p hp], ?_⟩
      rw [Block.row, List.getLast?_concat]
      decide
    · decide
  rw [htext, lines_flatMap fun line hl => (hline line hl).1]
  exact (List.map_congr_left fun line hl => chomp_of_getLast?_ne (hline line hl).2).trans
    (List.map_id _)

/-- **The reduction of a printed sheet filters it.** What is left is the sheet in the same layout,
without comments and at-rules, without the properties that have nothing to do with color, and
without rules of the preview page and those that are left without a property. Reducing it again
changes nothing. If no part of a rule has a line feed, then the lines are those of the rules, and
there are no others. -/
theorem reduceWith_printed {es : List Entry} (hes : IsPrinted es) :
    reduceWith (tree es) (.of (printed es)) = printed (kept es) ∧
      reduceWith (tree (kept es)) (.of (printed (kept es))) = printed (kept es) ∧
      ((∀ b, .rule b ∈ es → '\n' ∉ b.selector ∧ ∀ p ∈ b.properties, '\n' ∉ p.1 ∧ '\n' ∉ p.2) →
        Text.lines (printed (kept es)) = (kept es).flatMap Entry.lines) := by
  refine ⟨reduceWith_tree hes, ?_, fun hlines => lines_printed fun e he => ?_⟩
  · rw [reduceWith_tree (isPrinted_kept es), kept_kept]
  · obtain ⟨b, b', hb, rfl, hselector, hps⟩ := exists_rule_of_mem_kept he
    obtain ⟨hone, hall⟩ := hlines b hb
    exact ⟨b', rfl, hselector ▸ hone, fun p hp => hall p (hps p hp)⟩

/-- A sheet with something of everything, the last line of which is not ended. -/
def sampleEntries : List Entry :=
  [.comment "\t".toList "/* é\n */".toList " ".toList true,
    .rule ⟨".a".toList, [("margin".toList, "0".toList), ("border-color".toList, "red".toList),
      ("padding".toList, "1px".toList)]⟩,
    .rule ⟨".main-color .palatte-red".toList, [("color".toList, "red".toList)]⟩,
    .atRule "@media print \x7b\n  .a \x7b\n    color: red;\n  \x7d\n\x7d".toList true,
    .rule ⟨".b".toList, [("margin".toList, "0".toList)]⟩,
    .comment [] "/* */".toList [] false]

/-- The sample is reduced, also by means of the tree that is read. -/
theorem reduceWith_printed_sample :
    IsPrinted sampleEntries ∧
      reduceWith (tree sampleEntries) (.of (printed sampleEntries)) =
        ".a \x7b\n  border-color: red;\n\x7d\n".toList ∧
      reduce (printed sampleEntries) = ".a \x7b\n  border-color: red;\n\x7d\n".toList := by
  have hprinted : IsPrinted sampleEntries :=
    ⟨⟨by decide, by decide⟩, .inl rfl, trivial, .inl rfl, trivial, .inl rfl, trivial, .inl rfl,
      trivial, .inl rfl, ⟨by decide, by decide⟩, .inr rfl, trivial⟩
  have hleft : reduceWith (tree sampleEntries) (.of (printed sampleEntries)) =
      ".a \x7b\n  border-color: red;\n\x7d\n".toList :=
    (reduceWith_printed hprinted).1.trans (by decide +kernel)
  have hread : removals (.of (printed sampleEntries)) (read (printed sampleEntries)).children =
      removals (.of (printed sampleEntries)) (tree sampleEntries).children := by
    decide +kernel
  refine ⟨hprinted, hleft, ?_⟩
  rw [reduce, reduceWith, hread]
  exact hleft

end Retint.Sheet
