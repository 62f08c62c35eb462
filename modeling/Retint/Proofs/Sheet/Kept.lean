import Retint.Proofs.Sheet.Laid
import Retint.Proofs.Text.Replace
import Retint.Sheet.Reduction

/-!
# What the reduction keeps

Two recursions decide what is cut out of a sheet. One looks ahead and asks whether a rule set has
a declaration worth keeping; the other walks the sheet and records spans, and does not go into a
rule set that it records. Here they are compared with a third description that does neither: an
item of the sheet, together with the rule sets on the way to it.

## Main results

* `Sheet.anyHasColor_iff` — the look-ahead finds a declaration exactly if there is one on a way
  without rule sets of the preview page
* `Sheet.gone_or_mem` — an item is cut out with a rule set around it, or what the walk records
  for it is recorded for the sheet
* `Sheet.mem_or_apart` — what is recorded for other items does not touch it
* `Sheet.removals_exact` — which declarations and rule sets are left, for any laid tree
-/

namespace Retint.Sheet

variable {source : Source} {items outer : List Node} {n d rule block : Node} {r : Removal}

/-- Nothing that is cut out touches the node. -/
def Node.Clear (n : Node) (cut : List Removal) : Prop := ∀ r ∈ cut, n.span.Outside r.span

/-- The whole node is cut out. -/
def Node.Gone (n : Node) (cut : List Removal) : Prop := ∃ r ∈ cut, n.span.Within r.span

instance (n : Node) (cut : List Removal) : Decidable (n.Clear cut) :=
  inferInstanceAs (Decidable (∀ r ∈ cut, _))

instance (n : Node) (cut : List Removal) : Decidable (n.Gone cut) :=
  inferInstanceAs (Decidable (∃ r ∈ cut, _))

theorem isColorDeclaration_iff : isColorDeclaration source d = true ↔
    ∃ name, d.child? .propertyName = some name ∧
      ∃ marker ∈ colorMarkers, marker <:+: name.span.text source := by
  unfold isColorDeclaration
  cases d.child? .propertyName <;> simp [Text.contains_iff]

/-- A declaration that is kept has a name, so it is not empty. -/
theorem lt_of_isColorDeclaration (hd : d.isLaid = true) (h : isColorDeclaration source d = true) :
    d.span.start < d.span.stop := by
  obtain ⟨name, hname, marker, hmarker, hin⟩ := isColorDeclaration_iff.1 h
  have marker_ne_nil : ∀ marker ∈ colorMarkers, marker ≠ [] := by decide
  have hne : name.span.text source ≠ [] := fun hnil =>
    marker_ne_nil marker hmarker (List.infix_nil.1 (hnil ▸ hin))
  have hlt := Span.lt_of_text_ne_nil hne
  obtain ⟨hstart, hstop⟩ := (Part.child? hname).within hd
  omega

/-! ### The two recursions by items -/

theorem anyHasColor_eq (source : Source) (l : List Node) :
    anyHasColor source l = l.any (hasColor source) := by
  induction l with
  | nil => rfl
  | cons n l ih => rw [anyHasColor, ih, List.any_cons]

theorem blockHasColor_eq (source : Source) (l : List Node) :
    blockHasColor source l =
      (l.find? (·.kind = .block)).any fun block => anyHasColor source block.children := by
  induction l with
  | nil => rfl
  | cons n l ih =>
    obtain ⟨kind, span, children⟩ := n
    by_cases h : kind = .block <;> simp [blockHasColor, Node.kind, Node.children, h, ih]

theorem removals_eq (source : Source) (l : List Node) :
    removals source l = l.flatMap (removalsOf source) := by
  induction l with
  | nil => rfl
  | cons n l ih => rw [removals, ih, List.flatMap_cons]

theorem mem_removals : r ∈ removals source items ↔ ∃ n ∈ items, r ∈ removalsOf source n := by
  rw [removals_eq, List.mem_flatMap]

theorem blockRemovals_eq (source : Source) (l : List Node) :
    blockRemovals source l =
      ((l.find? (·.kind = .block)).map fun block => removals source block.children).getD [] := by
  induction l with
  | nil => rfl
  | cons n l ih =>
    obtain ⟨kind, span, children⟩ := n
    by_cases h : kind = .block <;> simp [blockRemovals, Node.kind, Node.children, h, ih]

theorem hasColor_of_declaration (h : d.kind = .declaration) :
    hasColor source d = isColorDeclaration source d := by
  obtain ⟨kind, span, children⟩ := d
  obtain rfl : kind = .declaration := h
  rw [hasColor]

theorem hasColor_of_ruleSet (h : rule.kind = .ruleSet) :
    hasColor source rule = true ↔ isPreview source rule = false ∧
      ∃ block, rule.child? .block = some block ∧ anyHasColor source block.children = true := by
  obtain ⟨kind, span, children⟩ := rule
  obtain rfl : kind = .ruleSet := h
  simp only [hasColor, blockHasColor_eq, Node.child?, Node.children, Bool.and_eq_true,
    Bool.not_eq_true', Option.any_eq_true]

theorem removalsOf_declaration (h : d.kind = .declaration) :
    removalsOf source d = if isColorDeclaration source d then [] else [⟨d.span, false⟩] := by
  obtain ⟨kind, span, children⟩ := d
  obtain rfl : kind = .declaration := h
  rw [removalsOf, Node.span]

theorem removalsOf_ruleSet (h : rule.kind = .ruleSet) (hblock : rule.child? .block = some block) :
    removalsOf source rule =
      if hasColor source rule then removals source block.children else [⟨rule.span, false⟩] := by
  obtain ⟨kind, span, children⟩ := rule
  obtain rfl : kind = .ruleSet := h
  have hfind : children.find? (·.kind = .block) = some block := hblock
  rw [removalsOf, blockRemovals_eq, hfind]
  rfl

theorem mem_removalsOf_of_not_hasColor (h : rule.kind = .ruleSet)
    (hc : hasColor source rule = false) : ⟨rule.span, false⟩ ∈ removalsOf source rule := by
  obtain ⟨kind, span, children⟩ := rule
  obtain rfl : kind = .ruleSet := h
  rw [removalsOf, hc]
  exact List.mem_singleton_self _

/-- At-rules, comments and what belongs to nothing are cut out whole. -/
theorem exists_mem_removalsOf (source : Source) (h : n.kind ∈ [Kind.atRule, .comment, .stray]) :
    ∃ r ∈ removalsOf source n, r.span = n.span := by
  obtain ⟨kind, span, children⟩ := n
  simp only [List.mem_cons, List.not_mem_nil, or_false, Node.kind] at h
  rcases h with rfl | rfl | rfl <;> simp [removalsOf, Node.span]

/-! ### The look-ahead -/

theorem isPreview_of_mem_of_hasColor (h : Item items outer n)
    (hc : ∀ rule ∈ outer, hasColor source rule = true) :
    ∀ rule ∈ outer, isPreview source rule = false := by
  induction h with
  | here => simp
  | inside _ hkind _ _ ih =>
    obtain ⟨hrule, hrest⟩ := List.forall_mem_cons.mp hc
    exact List.forall_mem_cons.mpr ⟨((hasColor_of_ruleSet hkind).1 hrule).1, ih hrest⟩

/-- A declaration that is kept is seen from each rule set on the way to it, unless one of them is
of the preview page. -/
theorem hasColor_of_item (h : Item items outer n) (hn : hasColor source n = true)
    (hp : ∀ rule ∈ outer, isPreview source rule = false) :
    anyHasColor source items = true ∧ ∀ rule ∈ outer, hasColor source rule = true := by
  induction h with
  | here hmem =>
    rw [anyHasColor_eq, List.any_eq_true]
    exact ⟨⟨_, hmem, hn⟩, by simp⟩
  | @inside items outer rule block n hr hkind hblock _ ih =>
    obtain ⟨hrule, hrest⟩ := List.forall_mem_cons.mp hp
    obtain ⟨hany, hall⟩ := ih hn hrest
    have hc : hasColor source rule = true := (hasColor_of_ruleSet hkind).2 ⟨hrule, _, hblock, hany⟩
    rw [anyHasColor_eq, List.any_eq_true]
    exact ⟨⟨rule, hr, hc⟩, List.forall_mem_cons.mpr ⟨hc, hall⟩⟩

/-- What the look-ahead sees is there. -/
theorem exists_item_of_hasColor (h : hasColor source n = true) :
    ∃ outer d, Item [n] outer d ∧ d.kind = .declaration ∧ isColorDeclaration source d = true ∧
      ∀ rule ∈ outer, isPreview source rule = false := by
  revert h
  refine Part.induction (P := fun n => hasColor source n = true → ∃ outer d, Item [n] outer d ∧
    d.kind = .declaration ∧ isColorDeclaration source d = true ∧
      ∀ rule ∈ outer, isPreview source rule = false) ?_ n n (.self n)
  intro n ih h
  by_cases hd : n.kind = .declaration
  · rw [hasColor_of_declaration hd] at h
    exact ⟨[], n, .here (List.mem_singleton_self n), hd, h, by simp⟩
  by_cases hr : n.kind = .ruleSet
  · obtain ⟨hp, block, hblock, hany⟩ := (hasColor_of_ruleSet hr).1 h
    rw [anyHasColor_eq, List.any_eq_true] at hany
    obtain ⟨m, hm, hc⟩ := hany
    obtain ⟨outer, d, hi, hkind, hcolor, houter⟩ :=
      ih block (List.mem_of_find?_eq_some hblock) m (.under hm (.self m)) hc
    have hi' : Item block.children outer d := hi.mono fun x hx => by
      rwa [List.mem_singleton.mp hx]
    exact ⟨n :: outer, d, .inside (List.mem_singleton_self n) hr hblock hi', hkind, hcolor,
      List.forall_mem_cons.mpr ⟨hp, houter⟩⟩
  · obtain ⟨kind, span, children⟩ := n
    cases kind <;> simp_all [hasColor, Node.kind]

/-- **The look-ahead is exact.** It finds a declaration in a list of items exactly if a declaration
that is to be kept is reached from them without passing a rule set of the preview page. -/
theorem anyHasColor_iff : anyHasColor source items = true ↔
    ∃ outer d, Item items outer d ∧ d.kind = .declaration ∧ isColorDeclaration source d = true ∧
      ∀ rule ∈ outer, isPreview source rule = false := by
  constructor
  · intro h
    rw [anyHasColor_eq, List.any_eq_true] at h
    obtain ⟨m, hm, hc⟩ := h
    obtain ⟨outer, d, hi, hd⟩ := exists_item_of_hasColor hc
    refine ⟨outer, d, hi.mono fun x hx => ?_, hd⟩
    rwa [List.mem_singleton.mp hx]
  · rintro ⟨outer, d, hi, hkind, hcolor, hp⟩
    exact (hasColor_of_item hi (by rwa [hasColor_of_declaration hkind]) hp).1

/-! ### What is recorded -/

/-- Only parts of an item are recorded on its account. -/
theorem exists_part_of_removalsOf (h : r ∈ removalsOf source n) :
    ∃ p, Part n p ∧ r.span = p.span := by
  revert h
  refine Part.induction (P := fun n => r ∈ removalsOf source n →
    ∃ p, Part n p ∧ r.span = p.span) ?_ n n (.self n)
  intro n ih h
  obtain ⟨kind, span, children⟩ := n
  have itself : ∀ b, r ∈ [(⟨span, b⟩ : Removal)] →
      ∃ p, Part (.mk kind span children) p ∧ r.span = p.span :=
    fun b hr => ⟨_, .self _, by rw [List.mem_singleton.mp hr]; rfl⟩
  cases kind with
  | comment => exact itself _ (by simpa only [removalsOf] using h)
  | atRule => exact itself _ (by simpa only [removalsOf] using h)
  | stray => exact itself _ (by simpa only [removalsOf] using h)
  | declaration =>
    rw [removalsOf] at h
    split at h
    · exact absurd h List.not_mem_nil
    · exact itself _ h
  | ruleSet =>
    rw [removalsOf] at h
    split at h
    · rw [blockRemovals_eq] at h
      cases hb : children.find? (·.kind = .block) with
      | none => simp [hb] at h
      | some block =>
        simp only [hb, Option.map_some, Option.getD_some] at h
        obtain ⟨m, hm, hr⟩ := mem_removals.1 h
        have hblock := List.mem_of_find?_eq_some hb
        obtain ⟨p, hp, hspan⟩ := ih block hblock m (.under hm (.self m)) hr
        exact ⟨p, .under hblock (.under hm hp), hspan⟩
    · exact itself _ h
  | sheet | selectors | block | propertyName => simp [removalsOf] at h

theorem within_of_mem_removalsOf (hn : n.isLaid = true) (h : r ∈ removalsOf source n) :
    r.span.Within n.span := by
  obtain ⟨p, hp, hspan⟩ := exists_part_of_removalsOf h
  exact hspan ▸ hp.within hn

/-- **What is recorded for an item.** Either a rule set around it is recorded whole, or the
look-ahead sees something in each of them and all that the item gives rise to is recorded. -/
theorem gone_or_mem (source : Source) (h : Item items outer n) :
    (∃ rule ∈ outer, hasColor source rule = false ∧ ⟨rule.span, false⟩ ∈ removals source items) ∨
      (∀ rule ∈ outer, hasColor source rule = true) ∧
        ∀ r ∈ removalsOf source n, r ∈ removals source items := by
  induction h with
  | here hn => exact .inr ⟨by simp, fun r hr => mem_removals.2 ⟨_, hn, hr⟩⟩
  | @inside items outer rule block n hr hkind hblock _ ih =>
    by_cases hc : hasColor source rule = true
    · have hsub : ∀ r ∈ removals source block.children, r ∈ removals source items := by
        intro r hr'
        refine mem_removals.2 ⟨rule, hr, ?_⟩
        rwa [removalsOf_ruleSet hkind hblock, if_pos hc]
      rcases ih with ⟨inner, hinner, hno, hmem⟩ | ⟨hall, hmem⟩
      · exact .inl ⟨inner, List.mem_cons_of_mem _ hinner, hno, hsub _ hmem⟩
      · exact .inr ⟨List.forall_mem_cons.mpr ⟨hc, hall⟩, fun r hr => hsub r (hmem r hr)⟩
    · have hno : hasColor source rule = false := by simpa using hc
      have hmem := mem_removals.2 ⟨rule, hr, mem_removalsOf_of_not_hasColor hkind hno⟩
      exact .inl ⟨rule, List.mem_cons_self .., hno, hmem⟩

/-- What is recorded is recorded for the item itself or has no byte in common with it, if nothing
around the item is recorded whole. -/
theorem mem_or_apart {start stop : Nat} (h : Item items outer n)
    (hl : laidFrom start stop items = true) (hc : ∀ rule ∈ outer, hasColor source rule = true)
    (hr : r ∈ removals source items) :
    r ∈ removalsOf source n ∨ n.span.stop ≤ r.span.start ∨ r.span.stop ≤ n.span.start := by
  -- For the items at one level: the record belongs to `m` itself or to one before or after it.
  have level : ∀ {items : List Node} {m : Node} {start stop : Nat}, m ∈ items →
      laidFrom start stop items = true → r ∈ removals source items →
      r ∈ removalsOf source m ∨ m.span.stop ≤ r.span.start ∨ r.span.stop ≤ m.span.start := by
    intro items m start stop hm hl hr
    obtain ⟨before, after, rfl⟩ := List.append_of_mem hm
    obtain ⟨hbefore, -, hafter⟩ := laidFrom_append_cons hl
    obtain ⟨x, hx, hrx⟩ := mem_removals.1 hr
    rcases List.mem_append.mp hx with hx | hx
    · obtain ⟨hlaid, -, hstop⟩ := isLaid_of_mem hbefore hx
      exact .inr (.inr (Nat.le_trans (within_of_mem_removalsOf hlaid hrx).2 hstop))
    rcases List.mem_cons.mp hx with rfl | hx
    · exact .inl hrx
    · obtain ⟨hlaid, hstart, -⟩ := isLaid_of_mem hafter hx
      exact .inr (.inl (Nat.le_trans hstart (within_of_mem_removalsOf hlaid hrx).1))
  induction h generalizing start stop with
  | here hn => exact level hn hl hr
  | @inside items outer rule block n hrule hkind hblock hn ih =>
    obtain ⟨hc₀, hcs⟩ := List.forall_mem_cons.mp hc
    have hlaid := (isLaid_of_mem hl hrule).1
    have hb := Node.laidFrom_children ((Part.child? hblock).isLaid_and_within hlaid).1
    rcases level hrule hl hr with hr | hr
    · rw [removalsOf_ruleSet hkind hblock, if_pos hc₀] at hr
      exact ih hb hcs hr
    · obtain ⟨hstart, hstop⟩ : n.span.Within rule.span :=
        (Item.inside hrule hkind hblock hn).within hl rule (List.mem_cons_self ..)
      omega

/-! ### Main result -/

/-- A declaration is left exactly if it is to be kept and every way to it is. -/
theorem clear_iff {tree : Node} (ht : tree.isLaid = true) (h : Item tree.children outer d)
    (hd : d.kind = .declaration) :
    d.Clear (removals source tree.children) ↔
      isColorDeclaration source d = true ∧ ∀ rule ∈ outer, isPreview source rule = false := by
  have hl := Node.laidFrom_children ht
  constructor
  · intro hclear
    rcases gone_or_mem source h with ⟨rule, hrule, -, hmem⟩ | ⟨hc, hmem⟩
    · exact absurd (h.within hl rule hrule) (hclear _ hmem).2
    · refine ⟨?_, isPreview_of_mem_of_hasColor h hc⟩
      refine Decidable.byContradiction fun hcolor => ?_
      have hself : ⟨d.span, false⟩ ∈ removalsOf source d := by
        rw [removalsOf_declaration hd, if_neg hcolor]
        exact List.mem_singleton_self _
      exact (hclear _ (hmem _ hself)).2 (.refl _)
  · rintro ⟨hcolor, hp⟩ r hr
    have hc := (hasColor_of_item h (by rwa [hasColor_of_declaration hd]) hp).2
    refine Span.outside_of_lt (lt_of_isColorDeclaration (h.isLaid hl) hcolor) ?_
    rcases mem_or_apart h hl hc hr with hr | hr
    · rw [removalsOf_declaration hd, if_pos hcolor] at hr
      exact absurd hr List.not_mem_nil
    · exact hr

/-- What contains a declaration that is left is not cut out whole. -/
theorem not_gone_of_clear {cut : List Removal} (hn : n.isLaid = true) (hp : Part n d)
    (hd : d.Clear cut) : ¬ n.Gone cut := by
  rintro ⟨r, hr, hw⟩
  exact (hd r hr).2 ((hp.within hn).trans hw)

/-- What the look-ahead sees is left, if no rule set on the way is of the preview page. -/
theorem exists_clear_of_hasColor {tree : Node} (ht : tree.isLaid = true)
    (h : Item tree.children outer n) (hn : hasColor source n = true)
    (hp : ∀ above ∈ outer, isPreview source above = false) :
    ∃ d, Part n d ∧ d.kind = .declaration ∧ d.Clear (removals source tree.children) := by
  obtain ⟨inner, d, hi, hd, hcolor, hp'⟩ := exists_item_of_hasColor hn
  refine ⟨d, hi.part_of_singleton, hd, (clear_iff ht (h.append hi) hd).2 ⟨hcolor, ?_⟩⟩
  exact List.forall_mem_append.mpr ⟨hp, hp'⟩

/-- A rule set is cut out whole unless the look-ahead sees something in it and no rule set around
it is of the preview page. -/
theorem hasColor_of_not_gone {tree : Node} (ht : tree.isLaid = true)
    (h : Item tree.children outer rule) (hrule : rule.kind = .ruleSet)
    (hgone : ¬ rule.Gone (removals source tree.children)) :
    hasColor source rule = true ∧ ∀ above ∈ outer, isPreview source above = false := by
  rcases gone_or_mem source h with ⟨above, habove, -, hmem⟩ | ⟨hc, hmem⟩
  · exact absurd ⟨_, hmem, h.within (Node.laidFrom_children ht) above habove⟩ hgone
  · refine ⟨?_, isPreview_of_mem_of_hasColor h hc⟩
    refine Decidable.byContradiction fun hno => hgone ?_
    have hself := mem_removalsOf_of_not_hasColor hrule (Bool.eq_false_iff.mpr hno)
    exact ⟨_, hmem _ hself, .refl _⟩

/-- **The reduction keeps exactly the color declarations.** In a laid tree, and for what is reached
from the sheet through rule sets and their blocks:

* a declaration is untouched exactly if its name contains one of the markers and no rule set around
  it is of the preview page;
* at-rules, comments and what belongs to nothing go with everything in them;
* a rule set is left exactly if a declaration somewhere in it is;
* and this is what the look-ahead says, unless a rule set around it is of the preview page. -/
theorem removals_exact (source : Source) {tree : Node} (ht : tree.isLaid = true) :
    (∀ outer d, Item tree.children outer d → d.kind = .declaration →
      (d.Clear (removals source tree.children) ↔
        (∃ name, d.child? .propertyName = some name ∧
          ∃ marker ∈ ["color".toList, "background".toList, "border".toList, "box-shadow".toList],
            marker <:+: name.span.text source) ∧
        ∀ rule ∈ outer, isPreview source rule = false)) ∧
    (∀ outer n, Item tree.children outer n → n.kind ∈ [Kind.atRule, .comment, .stray] →
      ∃ r ∈ removals source tree.children, ∀ p, Part n p → p.span.Within r.span) ∧
    (∀ outer rule, Item tree.children outer rule → rule.kind = .ruleSet →
      (¬ rule.Gone (removals source tree.children) ↔
        ∃ d, Part rule d ∧ d.kind = .declaration ∧ d.Clear (removals source tree.children)) ∧
      ((∀ above ∈ outer, isPreview source above = false) →
        (hasColor source rule = true ↔ ¬ rule.Gone (removals source tree.children)))) := by
  have hl := Node.laidFrom_children ht
  refine ⟨?_, ?_, ?_⟩
  · intro outer d h hd
    rw [clear_iff ht h hd, isColorDeclaration_iff]
    rfl
  · intro outer n h hn
    rcases gone_or_mem source h with ⟨rule, hrule, -, hmem⟩ | ⟨-, hmem⟩
    · refine ⟨_, hmem, fun p hp => ?_⟩
      exact (hp.within (h.isLaid hl)).trans (h.within hl rule hrule)
    · obtain ⟨r, hr, hspan⟩ := exists_mem_removalsOf source hn
      exact ⟨r, hmem r hr, fun p hp => hspan ▸ hp.within (h.isLaid hl)⟩
  · intro outer rule h hrule
    have hlaid := h.isLaid hl
    refine ⟨⟨fun hgone => ?_, ?_⟩, fun hp => ⟨fun hc => ?_, fun hgone => ?_⟩⟩
    · obtain ⟨hc, hp⟩ := hasColor_of_not_gone ht h hrule hgone
      exact exists_clear_of_hasColor ht h hc hp
    · rintro ⟨d, hpart, -, hclear⟩
      exact not_gone_of_clear hlaid hpart hclear
    · obtain ⟨d, hpart, -, hclear⟩ := exists_clear_of_hasColor ht h hc hp
      exact not_gone_of_clear hlaid hpart hclear
    · exact (hasColor_of_not_gone ht h hrule hgone).1

/-- A rule set with a declaration, an at-rule, and a rule set of the preview page in it. -/
def nestedText : Text := ".a\x7bcolor:b;@x;.main-color .palatte-1\x7bcolor:c\x7d\x7d".toList

/-- The declaration of the outer rule set of `nestedText`. -/
def nestedColor : Node := .mk .declaration ⟨3, 11⟩ [.leaf .propertyName ⟨3, 8⟩]

/-- The inner rule set of `nestedText`. -/
def nestedPreview : Node := .mk .ruleSet ⟨14, 45⟩
  [.leaf .selectors ⟨14, 36⟩,
    .mk .block ⟨36, 45⟩ [.mk .declaration ⟨37, 44⟩ [.leaf .propertyName ⟨37, 42⟩]]]

/-- A tree of `nestedText`. -/
def nestedSheet : Node := .mk .sheet ⟨0, 46⟩
  [.mk .ruleSet ⟨0, 46⟩
    [.leaf .selectors ⟨0, 2⟩,
      .mk .block ⟨2, 46⟩ [nestedColor, .leaf .atRule ⟨11, 14⟩, nestedPreview]]]

theorem removals_exact_nested :
    nestedSheet.isLaid = true ∧
      nestedColor.Clear (removals (.of nestedText) nestedSheet.children) ∧
      nestedPreview.Gone (removals (.of nestedText) nestedSheet.children) := by
  have laid : nestedSheet.isLaid = true := by decide
  obtain ⟨colors, -, rules⟩ := removals_exact (.of nestedText) laid
  have outer : ∀ rule ∈ nestedSheet.children, isPreview (.of nestedText) rule = false := by
    intro rule hrule
    obtain rfl := List.mem_singleton.mp hrule
    show Text.startsWith previewLead (Span.text ⟨0, 2⟩ (.of nestedText)) = false
    rw [Span.text_eq]
    decide
  have reached : ∀ n ∈ [nestedColor, .leaf .atRule ⟨11, 14⟩, nestedPreview],
      Item nestedSheet.children nestedSheet.children n :=
    fun n hn => .inside (List.mem_singleton_self _) rfl rfl (.here hn)
  refine ⟨laid, ?_, ?_⟩
  · refine (colors _ _ (reached _ (by simp)) rfl).2 ⟨⟨.leaf .propertyName ⟨3, 8⟩, rfl, ?_⟩, outer⟩
    have name : (⟨3, 8⟩ : Span).text (.of nestedText) = "color".toList := by
      rw [Span.text_eq]
      decide
    have whole := List.infix_refl "color".toList
    rw [← name] at whole
    exact ⟨(⟨3, 8⟩ : Span).text (.of nestedText), by rw [name]; simp, whole⟩
  · have seen := (rules _ nestedPreview (reached _ (by simp)) rfl).2 outer
    have preview : isPreview (.of nestedText) nestedPreview = true := by
      show Text.startsWith previewLead (Span.text ⟨14, 36⟩ (.of nestedText)) = true
      rw [Span.text_eq]
      decide
    refine Decidable.byContradiction fun hgone => ?_
    have hp := ((hasColor_of_ruleSet rfl).1 (seen.2 hgone)).1
    rw [preview] at hp
    exact absurd hp (by decide)

end Retint.Sheet
