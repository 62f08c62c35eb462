import Retint.Sheet.Node

/-!
# Where the parts of a sheet lie

A tree that a parser hands over puts each part inside the one it belongs to, and the parts of one
part one after the other. That is all that is asked of a tree here: what the parts are, how deep
they go, and whether they cover the text is left open.

## Main definitions

* `Span.Within`, `Span.Outside` — a span inside of another, and a span that another does not touch
* `Sheet.Node.isLaid` — parts in order, each inside the part it belongs to
* `Sheet.Part` — a part of a part, at any depth
* `Sheet.Item` — an item of a sheet, reached through rule sets and their blocks

## Main results

* `Sheet.Part.within` — a part lies within what it is a part of
* `Sheet.Item.within` — an item lies within each rule set passed on the way to it
-/

namespace Retint

namespace Span

/-- All of `s` lies in `t`. -/
def Within (s t : Span) : Prop := t.start ≤ s.start ∧ s.stop ≤ t.stop

/-- The two spans have no byte in common. An empty span in the middle of `t` or at one of its ends
counts as lying in it, so it is not outside. -/
def Outside (s t : Span) : Prop := (s.stop ≤ t.start ∨ t.stop ≤ s.start) ∧ ¬ s.Within t

instance (s t : Span) : Decidable (s.Within t) := inferInstanceAs (Decidable (_ ∧ _))

instance (s t : Span) : Decidable (s.Outside t) := inferInstanceAs (Decidable (_ ∧ ¬ _))

variable {s t u : Span}

theorem Within.refl (s : Span) : s.Within s := ⟨Nat.le_refl _, Nat.le_refl _⟩

theorem Within.trans (h : s.Within t) (h' : t.Within u) : s.Within u :=
  ⟨Nat.le_trans h'.1 h.1, Nat.le_trans h.2 h'.2⟩

/-- What is not empty and has no byte in common with `t` is outside of it. -/
theorem outside_of_lt (hs : s.start < s.stop) (h : s.stop ≤ t.start ∨ t.stop ≤ s.start) :
    s.Outside t := by
  refine ⟨h, fun hw => ?_⟩
  obtain ⟨hw₁, hw₂⟩ := hw
  omega

theorem text_eq (s : Span) (source : Source) :
    s.text source = (Text.slice? s.start s.stop source.text).getD [] := by
  rw [text, Source.slice?_eq]

/-- A span with a character in its text is not empty. -/
theorem lt_of_text_ne_nil {source : Source} (h : s.text source ≠ []) : s.start < s.stop := by
  refine Decidable.byContradiction fun hs => h ?_
  rw [text_eq, Text.slice?]
  split
  · have hsub : s.stop - s.start = 0 := by omega
    cases Text.drop? s.start source.text <;> simp [hsub, Text.take?]
  · rfl

end Span

namespace Sheet

/-! ### Order and nesting -/

mutual

/-- The parts of the node lie in it one after the other, and so on down. -/
def Node.isLaid : Node → Bool
  | .mk _ span children => laidFrom span.start span.stop children

/-- The nodes lie one after the other between two places. -/
def laidFrom (start stop : Nat) : List Node → Bool
  | [] => start ≤ stop
  | n :: rest => decide (start ≤ n.span.start) && n.isLaid && laidFrom n.span.stop stop rest

end

mutual

theorem Node.start_le_stop : ∀ {n : Node}, n.isLaid = true → n.span.start ≤ n.span.stop
  | .mk _ _ _, h => le_of_laidFrom (by simpa only [Node.isLaid, Node.span] using h)

theorem le_of_laidFrom : ∀ {l : List Node} {start stop : Nat},
    laidFrom start stop l = true → start ≤ stop
  | [], _, _, h => by simpa [laidFrom] using h
  | n :: l, start, stop, h => by
    simp only [laidFrom, Bool.and_eq_true, decide_eq_true_eq] at h
    obtain ⟨⟨hstart, hn⟩, hrest⟩ := h
    calc
      start ≤ n.span.start := hstart
      _ ≤ n.span.stop := n.start_le_stop hn
      _ ≤ stop := le_of_laidFrom hrest

end

theorem Node.laidFrom_children {n : Node} (h : n.isLaid = true) :
    laidFrom n.span.start n.span.stop n.children = true := by
  cases n
  simpa [Node.isLaid, Node.span, Node.children] using h

/-- Each of the nodes is laid, lies between the two places, and has the nodes before it on its
one side and those after it on its other. -/
theorem laidFrom_append_cons {l r : List Node} {n : Node} {start stop : Nat}
    (h : laidFrom start stop (l ++ n :: r) = true) :
    laidFrom start n.span.start l = true ∧ n.isLaid = true ∧
      laidFrom n.span.stop stop r = true := by
  induction l generalizing start with
  | nil => simpa [laidFrom, and_assoc] using h
  | cons m l ih =>
    simp only [List.cons_append, laidFrom, Bool.and_eq_true, decide_eq_true_eq] at h ⊢
    obtain ⟨⟨hstart, hm⟩, hrest⟩ := h
    obtain ⟨hl, hn, hr⟩ := ih hrest
    exact ⟨⟨⟨hstart, hm⟩, hl⟩, hn, hr⟩

theorem isLaid_of_mem {l : List Node} {n : Node} {start stop : Nat}
    (h : laidFrom start stop l = true) (hn : n ∈ l) :
    n.isLaid = true ∧ start ≤ n.span.start ∧ n.span.stop ≤ stop := by
  obtain ⟨l, r, rfl⟩ := List.append_of_mem hn
  obtain ⟨hl, hn, hr⟩ := laidFrom_append_cons h
  exact ⟨hn, le_of_laidFrom hl, le_of_laidFrom hr⟩

/-! ### Parts of parts -/

/-- The node itself, a part of it, a part of one of these, and so on down. -/
inductive Part : Node → Node → Prop
  | self (n : Node) : Part n n
  | under {n m p : Node} (hm : m ∈ n.children) (hp : Part m p) : Part n p

variable {n m p : Node}

theorem Part.trans (h : Part n m) (h' : Part m p) : Part n p := by
  induction h with
  | self => exact h'
  | under hm _ ih => exact .under hm (ih h')

theorem Part.isLaid_and_within (h : Part n p) (hn : n.isLaid = true) :
    p.isLaid = true ∧ p.span.Within n.span := by
  induction h with
  | self => exact ⟨hn, .refl _⟩
  | under hm _ ih =>
    obtain ⟨hm, hstart, hstop⟩ := isLaid_of_mem (Node.laidFrom_children hn) hm
    obtain ⟨hp, hw⟩ := ih hm
    exact ⟨hp, hw.trans ⟨hstart, hstop⟩⟩

/-- A part lies within what it is a part of. -/
theorem Part.within (h : Part n p) (hn : n.isLaid = true) : p.span.Within n.span :=
  (h.isLaid_and_within hn).2

theorem Part.child? {kind : Kind} (h : n.child? kind = some m) : Part n m :=
  .under (List.mem_of_find?_eq_some h) (.self m)

mutual

/-- What holds of a node whenever it holds of all parts of its children holds of every node. -/
theorem Part.induction {P : Node → Prop}
    (step : ∀ n, (∀ m ∈ n.children, ∀ p, Part m p → P p) → P n) : ∀ n p, Part n p → P p
  | .mk _ _ children, p, hp => by
    have below := Part.induction_list step children
    cases hp with
    | self => exact step _ below
    | under hm hp => exact below _ hm _ hp

theorem Part.induction_list {P : Node → Prop}
    (step : ∀ n, (∀ m ∈ n.children, ∀ p, Part m p → P p) → P n) :
    ∀ l : List Node, ∀ m ∈ l, ∀ p, Part m p → P p
  | [], _, hm, _, _ => absurd hm List.not_mem_nil
  | n :: l, m, hm, p, hp => by
    rcases List.mem_cons.mp hm with hm | hm
    · exact Part.induction step n p (hm ▸ hp)
    · exact Part.induction_list step l m hm p hp

end

/-! ### Items -/

/-- `n` is one of the items, or an item of the block of a rule set among them, and so on down.
`outer` are the rule sets passed on the way, the outermost first. -/
inductive Item : List Node → List Node → Node → Prop
  | here {items : List Node} {n : Node} (hn : n ∈ items) : Item items [] n
  | inside {items outer : List Node} {rule block n : Node} (hr : rule ∈ items)
      (hkind : rule.kind = .ruleSet) (hblock : rule.child? .block = some block)
      (hn : Item block.children outer n) : Item items (rule :: outer) n

variable {items items' outer : List Node} {start stop : Nat}

theorem Item.mono (h : Item items outer n) (hsub : ∀ m ∈ items, m ∈ items') :
    Item items' outer n := by
  cases h with
  | here hn => exact .here (hsub _ hn)
  | inside hr hkind hblock hn => exact .inside (hsub _ hr) hkind hblock hn

/-- Ways down put together. -/
theorem Item.append {inner : List Node} (h : Item items outer n) (h' : Item [n] inner p) :
    Item items (outer ++ inner) p := by
  induction h with
  | here hn => exact h'.mono fun x hx => List.mem_singleton.mp hx ▸ hn
  | inside hr hkind hblock _ ih => exact .inside hr hkind hblock (ih h')

theorem Item.isLaid (h : Item items outer n) (hl : laidFrom start stop items = true) :
    n.isLaid = true := by
  induction h generalizing start stop with
  | here hn => exact (isLaid_of_mem hl hn).1
  | inside hr _ hblock _ ih =>
    have hb := ((Part.child? hblock).isLaid_and_within (isLaid_of_mem hl hr).1).1
    exact ih (Node.laidFrom_children hb)

/-- An item is a part of each rule set passed on the way to it. -/
theorem Item.part (h : Item items outer n) : ∀ rule ∈ outer, Part rule n := by
  induction h with
  | here => simp
  | @inside items outer rule block n _ _ hblock hn ih =>
    have part_of_block : Part block n := by
      cases hn with
      | here hn => exact .under hn (.self n)
      | inside hr => exact .under hr (ih _ (List.mem_cons_self ..))
    intro r hr
    rcases List.mem_cons.mp hr with rfl | hr
    · exact (Part.child? hblock).trans part_of_block
    · exact ih r hr

/-- What is reached from one node alone is a part of it. -/
theorem Item.part_of_singleton (h : Item [n] outer p) : Part n p := by
  cases h with
  | here hp => exact List.mem_singleton.mp hp ▸ .self p
  | inside hr hkind hblock hp =>
    have := (Item.inside hr hkind hblock hp).part _ (List.mem_cons_self ..)
    rwa [List.mem_singleton.mp hr] at this

theorem Item.isLaid_outer (h : Item items outer n) (hl : laidFrom start stop items = true) :
    ∀ rule ∈ outer, rule.isLaid = true := by
  induction h generalizing start stop with
  | here => simp
  | inside hr _ hblock _ ih =>
    have hrule := (isLaid_of_mem hl hr).1
    have hb := ((Part.child? hblock).isLaid_and_within hrule).1
    exact List.forall_mem_cons.mpr ⟨hrule, ih (Node.laidFrom_children hb)⟩

/-- An item lies within each rule set passed on the way to it. -/
theorem Item.within (h : Item items outer n) (hl : laidFrom start stop items = true) :
    ∀ rule ∈ outer, n.span.Within rule.span :=
  fun rule hr => (h.part rule hr).within (h.isLaid_outer hl rule hr)

end Sheet

end Retint
