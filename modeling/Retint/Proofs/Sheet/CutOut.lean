import Mathlib.Data.List.TakeWhile
import Retint.Proofs.Text.Places
import Retint.Sheet.Removal

/-!
# What is left when spans are cut out

Spans are made larger before they are cut out, so spans that lie apart can come to touch or overlap.
The sweep over them goes on from the largest end that it has met. So what it keeps is what lies in
none of the larger spans, whatever the spans have to do with each other, and in whatever order they
are given.

## Main definitions

* `Span.IsIn` — a span of a text, with its ends between characters
* `Span.cover` — the bytes that lie in some spans
* `Span.takes` — the bytes that lie in what some spans are made to
* `Site` — a span in its text, with the white space that goes along with it

## Main results

* `Site.expand?_eq` — a span that is alone on its lines takes the lines along
* `Span.exists_site` — what any span takes along
* `Source.keep?_eq` — what the sweep keeps, from any place on
* `Source.without?_exact` — the headline
-/

namespace Retint

open Text

/-! ### Spans of a text -/

namespace Span

/-- The span lies in the text, and its ends are between characters. -/
def IsIn (s : Span) (t : Text) : Prop :=
  ∃ before inside after, t = before ++ (inside ++ after) ∧
    s = ⟨size before, size (before ++ inside)⟩

/-- Whether a byte lies in one of the spans. -/
def cover (spans : List Span) (i : Nat) : Bool :=
  spans.any fun s => decide (s.start ≤ i) && decide (i < s.stop)

variable {s : Span} {spans : List Span} {i : Nat}

theorem cover_eq_true_iff : cover spans i = true ↔ ∃ s ∈ spans, s.start ≤ i ∧ i < s.stop := by
  simp [cover]

theorem cover_eq_false_iff :
    cover spans i = false ↔ ∀ s ∈ spans, s.start ≤ i → s.stop ≤ i := by
  simp [cover]

theorem cover_cons (s : Span) (spans : List Span) (i : Nat) : cover (s :: spans) i =
    (decide (s.start ≤ i) && decide (i < s.stop) || cover spans i) := rfl

/-- Whether a byte lies in what one of the spans is made to. -/
def takes (source : Source) (spans : List Span) (i : Nat) : Bool :=
  spans.any fun s => (s.expand? source).any fun e => cover [e] i

theorem takes_eq_true_iff {source : Source} : takes source spans i = true ↔
    ∃ s ∈ spans, ∃ e, s.expand? source = some e ∧ e.start ≤ i ∧ i < e.stop := by
  simp [takes, cover, Option.any_eq_true]

theorem takes_perm {source : Source} {spans' : List Span} (h : spans.Perm spans') :
    takes source spans = takes source spans' :=
  funext fun _ => h.any_eq

theorem cover_perm {spans' : List Span} (h : spans.Perm spans') : cover spans = cover spans' :=
  funext fun _ => h.any_eq

variable {n : Nat} {t : Text}

/-- Nothing is covered before all spans. -/
theorem uncovered_of_le_start (h : ∀ s ∈ spans, n + size t ≤ s.start) :
    uncovered (cover spans) n t = t :=
  uncovered_eq_self fun _ _ hi => cover_eq_false_iff.mpr fun s hs hstart =>
    absurd (Nat.lt_of_lt_of_le hi (h s hs)) (Nat.not_lt.mpr hstart)

/-- All is covered in a span. -/
theorem uncovered_of_within (hs : s ∈ spans) (hstart : s.start ≤ n) (hstop : n + size t ≤ s.stop) :
    uncovered (cover spans) n t = [] :=
  uncovered_eq_nil fun _ hi hlt => cover_eq_true_iff.mpr
    ⟨s, hs, Nat.le_trans hstart hi, Nat.lt_of_lt_of_le hlt hstop⟩

/-- A span covers nothing after it. -/
theorem uncovered_of_stop_le (h : s.stop ≤ n) (spans : List Span) (t : Text) :
    uncovered (cover (s :: spans)) n t = uncovered (cover spans) n t :=
  uncovered_congr fun i hi _ => by
    have hnot : ¬ i < s.stop := Nat.not_lt.mpr (Nat.le_trans h hi)
    simp [cover_cons, hnot]

end Span

/-! ### What goes along with a span -/

theorem utf8Char_of_isGapChar {c : Char} (hc : isGapChar c = true) :
    utf8Char c = [c.toNat.toUInt8] := by
  have hcases : c = ' ' ∨ c = '\t' := by simpa [isGapChar] using hc
  rcases hcases with rfl | rfl <;> rfl

theorem size_of_isGapChar {t : Text} (h : ∀ c ∈ t, isGapChar c = true) : size t = t.length := by
  induction t with
  | nil => rfl
  | cons c t ih =>
    obtain ⟨hc, ht⟩ := List.forall_mem_cons.mp h
    rw [size_cons, ih ht, ← length_utf8Char, utf8Char_of_isGapChar hc, List.length_singleton,
      List.length_cons, Nat.add_comm]

/-- A span in its text: the white space before it on its line, what lies in it, the white space
after it, the end of the line, and what is before and after all this. -/
structure Site where
  before : Text
  lead : Text
  inside : Text
  gap : Text
  ending : Text
  after : Text

namespace Site

variable {p : Site} {source : Source}

def text (p : Site) : Text :=
  p.before ++ (p.lead ++ (p.inside ++ (p.gap ++ (p.ending ++ p.after))))

/-- The span itself. -/
def span (p : Site) : Span := ⟨size (p.before ++ p.lead), size (p.before ++ p.lead ++ p.inside)⟩

/-- The span with what goes along. -/
def taken (p : Site) : Span :=
  ⟨size p.before, size (p.before ++ p.lead ++ p.inside ++ p.gap ++ p.ending)⟩

/-- The end of a line, if there is one, is a line feed with or without a carriage return. -/
def lineEnds : List Text := ["\n".toList, "\r\n".toList]

/-- A new line starts after the text. -/
def EndsLine (t : Text) : Prop := t = [] ∨ t.getLast? = some '\n'

/-- The span is alone on its lines, the last of which is ended. -/
def IsAlone (p : Site) : Prop := EndsLine p.before ∧ p.ending ∈ lineEnds

/-- The end of the line that goes along. -/
def lineEnd (p : Site) : Span :=
  ⟨size (p.before ++ p.lead ++ p.inside ++ p.gap),
    size (p.before ++ p.lead ++ p.inside ++ p.gap ++ p.ending)⟩

/-- The white space around the span is spaces and tabs, and the end of a line goes along only with a
span that is alone on its lines. -/
structure IsProper (p : Site) : Prop where
  lead : ∀ c ∈ p.lead, isGapChar c = true
  gap : ∀ c ∈ p.gap, isGapChar c = true
  ending : p.ending = [] ∨ p.IsAlone

end Site

namespace Span

variable {source : Source} {before inside after : Text} {s : Span}

/-- What a span is made to, in terms of what stands around it. -/
theorem expand?_of_eq (h : source.text = before ++ (inside ++ after)) :
    expand? ⟨size before, size (before ++ inside)⟩ source =
      let lead := before.reverse.takeWhile (· != '\n')
      let stop := size (before ++ inside) + (after.takeWhile isGapChar).length
      if lead.all isGapChar then
        let start := size before - lead.length
        match after.dropWhile isGapChar with
        | [] => some ⟨start, stop⟩
        | '\r' :: '\n' :: _ => some ⟨start, stop + 2⟩
        | '\n' :: _ => some ⟨start, stop + 1⟩
        | _ => some ⟨size before, stop⟩
      else some ⟨size before, stop⟩ := by
  have hstop : source.text = (before ++ inside) ++ after := by rw [h, List.append_assoc]
  rw [expand?, Source.cut?_of_eq h, Source.cut?_of_eq hstop]
  rfl

end Span

namespace Site

variable {p : Site} {source : Source}

/-- A span that is alone on its lines takes the lines along. The last one may be the last line of
the text, and not be ended. -/
theorem expand?_eq (h : p.text = source.text) (hp : p.IsProper)
    (hending : p.ending = ['\n'] ∨ p.ending = [] ∧ p.after = []) (hbefore : EndsLine p.before) :
    p.span.expand? source = some p.taken := by
  obtain ⟨before, lead, inside, gap, ending, after⟩ := p
  have hlead : ∀ c ∈ lead, isGapChar c = true := hp.lead
  have hgap : ∀ c ∈ gap, isGapChar c = true := hp.gap
  have hline : ∀ c ∈ lead.reverse, (c != '\n') = true := by
    intro c hc
    have hgapChar := hlead c (List.mem_reverse.mp hc)
    refine bne_iff_ne.mpr ?_
    rintro rfl
    exact absurd hgapChar (by decide)
  have htake : (before ++ lead).reverse.takeWhile (· != '\n') = lead.reverse := by
    rw [List.reverse_append, List.takeWhile_append_of_pos hline]
    rcases hbefore with rfl | hlast
    · simp
    · obtain ⟨b, rfl⟩ := List.getLast?_eq_some_iff.mp hlast
      simp
  have hall : lead.reverse.all isGapChar = true :=
    List.all_eq_true.mpr fun c hc => hlead c (List.mem_reverse.mp hc)
  have hsource : source.text = (before ++ lead) ++ (inside ++ (gap ++ (ending ++ after))) := by
    rw [← h]
    simp only [text, List.append_assoc]
  have hrest : (ending ++ after).takeWhile isGapChar = [] ∧
      (ending ++ after).dropWhile isGapChar = ending ++ after := by
    rcases hending with h | ⟨h, h'⟩
    · obtain rfl : ending = ['\n'] := h
      have hfeed : isGapChar '\n' = false := by decide
      simp [hfeed]
    · obtain rfl : ending = [] := h
      obtain rfl : after = [] := h'
      exact ⟨rfl, rfl⟩
  have hafter : (gap ++ (ending ++ after)).takeWhile isGapChar = gap ∧
      (gap ++ (ending ++ after)).dropWhile isGapChar = ending ++ after := by
    rw [List.takeWhile_append_of_pos hgap, List.dropWhile_append_of_pos hgap, hrest.1, hrest.2,
      List.append_nil]
    exact ⟨rfl, rfl⟩
  rw [span, Span.expand?_of_eq hsource]
  simp only [htake, hall, hafter, if_true, List.length_reverse, taken]
  rw [← size_of_isGapChar hlead, ← size_of_isGapChar hgap]
  rcases hending with h | ⟨h, h'⟩
  · obtain rfl : ending = ['\n'] := h
    have hfeed : size ['\n'] = 1 := rfl
    simp only [List.cons_append, List.nil_append, size_append, hfeed, Nat.add_sub_cancel]
  · obtain rfl : ending = [] := h
    obtain rfl : after = [] := h'
    simp only [List.append_nil, size_append, Nat.add_sub_cancel]

end Site

/-- What stands on the last line of a text, and before it. -/
theorem exists_lead (before : Text) : ∃ lead start, before = start ++ lead ∧
    before.reverse.takeWhile (· != '\n') = lead.reverse ∧ Site.EndsLine start := by
  refine ⟨(before.reverse.takeWhile (· != '\n')).reverse,
    (before.reverse.dropWhile (· != '\n')).reverse, ?_, by simp, ?_⟩
  · rw [← List.reverse_append, List.takeWhile_append_dropWhile, List.reverse_reverse]
  · rw [Site.EndsLine, List.getLast?_reverse, List.reverse_eq_nil_iff]
    cases hdrop : before.reverse.dropWhile (· != '\n') with
    | nil => exact .inl rfl
    | cons c t =>
      have hc := List.head_dropWhile_not (· != '\n') (l := before.reverse) (by simp [hdrop])
      simp only [hdrop, List.head_cons] at hc
      exact .inr (by simpa using hc)

/-- **What any span takes along:** white space after it, and, if it is alone on its lines, the white
space before it and the end of its last line. -/
theorem Span.exists_site {source : Source} {s : Span} (h : s.IsIn source.text) :
    ∃ p : Site, p.text = source.text ∧ p.span = s ∧ p.IsProper ∧
      s.expand? source = some p.taken := by
  obtain ⟨before, inside, after, htext, rfl⟩ := h
  obtain ⟨lead, start, hbefore, hlead, hstart⟩ := exists_lead before
  obtain ⟨gap, rest, hafter, htake, hdrop⟩ : ∃ gap rest, after = gap ++ rest ∧
      after.takeWhile isGapChar = gap ∧ after.dropWhile isGapChar = rest :=
    ⟨_, _, (List.takeWhile_append_dropWhile ..).symm, rfl, rfl⟩
  have hgap : ∀ c ∈ gap, isGapChar c = true := fun c hc =>
    List.mem_takeWhile_imp (htake ▸ hc)
  have halone : ∃ p : Site, p.text = source.text ∧
      p.span = ⟨size before, size (before ++ inside)⟩ ∧ p.IsProper ∧
        some (⟨size before, size (before ++ inside) + gap.length⟩ : Span) = some p.taken := by
    refine ⟨⟨before, [], inside, gap, [], rest⟩, ?_, ?_, ⟨nofun, hgap, .inl rfl⟩, ?_⟩
    · rw [htext, hafter, Site.text, List.nil_append, List.nil_append]
    · rw [Site.span, List.append_nil]
    · simp [Site.taken, size_of_isGapChar hgap, Nat.add_assoc]
  rw [Span.expand?_of_eq htext]
  simp only [hlead, htake, hdrop, List.length_reverse]
  split
  · rename_i hall
    have hchars : ∀ c ∈ lead, isGapChar c = true := fun c hc =>
      List.all_eq_true.mp hall c (List.mem_reverse.mpr hc)
    have hwhole : ∀ ending after', rest = ending ++ after' →
        (ending = [] ∨ ending ∈ Site.lineEnds) → ∃ p : Site, p.text = source.text ∧
          p.span = ⟨size before, size (before ++ inside)⟩ ∧ p.IsProper ∧
            some (⟨size before - lead.length, size (before ++ inside) + gap.length + size ending⟩ :
              Span) = some p.taken := by
      intro ending after' hrest hending
      refine ⟨⟨start, lead, inside, gap, ending, after'⟩, ?_, ?_,
        ⟨hchars, hgap, hending.imp_right fun h => ⟨hstart, h⟩⟩, ?_⟩
      · rw [htext, hafter, hrest, hbefore, Site.text, List.append_assoc]
      · rw [Site.span, hbefore]
      · rw [Site.taken, hbefore, ← size_of_isGapChar hchars, ← size_of_isGapChar hgap]
        simp only [size_append, Nat.add_sub_cancel]
    split
    · exact hwhole [] [] rfl (.inl rfl)
    · rename_i after'
      exact hwhole "\r\n".toList after' rfl (.inr (by decide))
    · rename_i after'
      exact hwhole "\n".toList after' rfl (.inr (by decide))
    · exact halone
  · exact halone

theorem Site.isIn_taken (p : Site) : p.taken.IsIn p.text := by
  refine ⟨p.before, p.lead ++ p.inside ++ p.gap ++ p.ending, p.after, ?_, ?_⟩
  · simp only [text, List.append_assoc]
  · simp only [taken, List.append_assoc]

/-- What goes along with a span is white space before and after it, and the end of its last line. -/
theorem Site.cases_of_taken {p : Site} (hp : p.IsProper) {i : Nat} (hstart : p.taken.start ≤ i)
    (hstop : i < p.taken.stop) :
    (p.span.start ≤ i ∧ i < p.span.stop) ∨
      (∃ c ∈ " \t".toList, (utf8 p.text)[i]? = some c.toNat.toUInt8) ∨
      (p.IsAlone ∧ p.lineEnd.start ≤ i ∧ i < p.lineEnd.stop) := by
  have hgapChar : ∀ {a b t : Text}, (∀ c ∈ b, isGapChar c = true) → p.text = a ++ b ++ t →
      size a ≤ i → i < size (a ++ b) →
        ∃ c ∈ " \t".toList, (utf8 p.text)[i]? = some c.toNat.toUInt8 := by
    intro a b t hb htext hle hlt
    obtain ⟨c, hc, hbyte⟩ := exists_getElem?_utf8 (fun c hc => utf8Char_of_isGapChar (hb c hc))
      hle hlt t
    exact ⟨c, by simpa [isGapChar] using hb c hc, htext ▸ hbyte⟩
  by_cases hlead : i < size (p.before ++ p.lead)
  · refine .inr (.inl (hgapChar (t := p.inside ++ (p.gap ++ (p.ending ++ p.after))) hp.lead ?_
      hstart hlead))
    simp only [text, List.append_assoc]
  by_cases hinside : i < size (p.before ++ p.lead ++ p.inside)
  · exact .inl ⟨Nat.not_lt.mp hlead, hinside⟩
  by_cases hgap : i < size (p.before ++ p.lead ++ p.inside ++ p.gap)
  · refine .inr (.inl (hgapChar (t := p.ending ++ p.after) hp.gap ?_ (Nat.not_lt.mp hinside) hgap))
    simp only [text, List.append_assoc]
  · refine .inr (.inr ?_)
    rcases hp.ending with hending | halone
    · rw [taken, hending, List.append_nil] at hstop
      exact absurd hstop hgap
    · exact ⟨halone, Nat.not_lt.mp hgap, hstop⟩

/-! ### The sweep -/

namespace Source

variable {source : Source} {before rest : Text} {spans : List Span}

/-- **What the sweep keeps.** The induction is on the spans, and the position is the largest end so
far. A span that ends before it adds nothing; what is before the next span lies in none, because the
spans are in the order of their starts. -/
theorem keep?_eq (ht : source.text = before ++ rest) (hin : ∀ s ∈ spans, s.IsIn source.text)
    (hsorted : spans.Pairwise fun s t => s.start ≤ t.start) :
    keep? source (size before) spans =
      some (uncovered (Span.cover spans) (size before) rest) := by
  induction spans generalizing before rest with
  | nil =>
    rw [keep?, cut?_of_eq ht, Span.uncovered_of_le_start (List.forall_mem_nil _)]
    rfl
  | cons s spans ih =>
    obtain ⟨⟨a, b, c, hsplit, hs⟩, hspans⟩ := List.forall_mem_cons.mp hin
    obtain ⟨hfirst, hrest⟩ := List.pairwise_cons.mp hsorted
    have hstart : s.start = size a := by rw [hs]
    have hstop : s.stop = size (a ++ b) := by rw [hs]
    have hwhole : source.text = (a ++ b) ++ c := by rw [hsplit, List.append_assoc]
    have hself : s ∈ s :: spans := List.mem_cons_self ..
    rw [keep?, hstart, hstop]
    split
    · rename_i hle
      rw [ih ht hspans hrest, Span.uncovered_of_stop_le (hstop ▸ hle)]
    · rename_i hpast
      split
      · rename_i hbefore
        obtain ⟨m, rfl, rfl⟩ := exists_of_size_le (ht.symm.trans hsplit) (Nat.le_of_lt hbefore)
        have hfree : ∀ s' ∈ s :: spans, size before + size m ≤ s'.start := by
          rw [← size_append, ← hstart]
          exact List.forall_mem_cons.mpr ⟨Nat.le_refl _, hfirst⟩
        have hb : uncovered (Span.cover (s :: spans)) (size (before ++ m)) b = [] :=
          Span.uncovered_of_within hself hstart.le (by rw [← size_append, hstop])
        rw [slice?_of_eq ht, ih hwhole hspans hrest, uncovered_append, uncovered_append,
          Span.uncovered_of_le_start hfree, ← size_append, hb, ← size_append,
          Span.uncovered_of_stop_le hstop.le]
        rfl
      · rename_i hbefore
        obtain ⟨m, hm, rfl⟩ := exists_of_size_le (ht.symm.trans hwhole) (Nat.le_of_not_le hpast)
        have hsize : size before + size m = size (a ++ b) := by rw [hm, size_append]
        have hcut : uncovered (Span.cover (s :: spans)) (size before) m = [] :=
          Span.uncovered_of_within hself (hstart ▸ Nat.not_lt.mp hbefore) (by rw [hsize, hstop])
        rw [ih hwhole hspans hrest, uncovered_append, hcut, hsize,
          Span.uncovered_of_stop_le hstop.le]
        rfl

/-- Cutting out spans leaves what lies in none of those that they are made to. -/
theorem without?_eq {expanded : List Span}
    (h : spans.mapM (·.expand? source) = some expanded)
    (hin : ∀ s ∈ expanded, s.IsIn source.text) :
    source.without? spans = some (uncovered (Span.cover expanded) 0 source.text) := by
  have hperm := List.mergeSort_perm expanded Span.le
  have hsorted : (expanded.mergeSort Span.le).Pairwise fun s t => s.start ≤ t.start := by
    refine (List.pairwise_mergeSort ?_ ?_ expanded).imp ?_
    · simp only [Span.le, Bool.or_eq_true, Bool.and_eq_true, decide_eq_true_eq, beq_iff_eq]
      omega
    · simp only [Span.le, Bool.or_eq_true, Bool.and_eq_true, decide_eq_true_eq, beq_iff_eq]
      omega
    · simp only [Span.le, Bool.or_eq_true, Bool.and_eq_true, decide_eq_true_eq, beq_iff_eq]
      omega
  have htext : source.text = [] ++ source.text := rfl
  have hkept := keep?_eq htext
    (fun s hs => hin s (hperm.mem_iff.mp hs)) hsorted
  rw [without?, h, ← Span.cover_perm hperm]
  exact hkept

/-- Every span of a text can be made larger, and is a span of the text then. -/
theorem exists_expanded (h : ∀ s ∈ spans, s.IsIn source.text) :
    ∃ expanded, spans.mapM (·.expand? source) = some expanded ∧
      (∀ e ∈ expanded, e.IsIn source.text) ∧ Span.cover expanded = Span.takes source spans := by
  induction spans with
  | nil => exact ⟨[], rfl, List.forall_mem_nil _, rfl⟩
  | cons s spans ih =>
    obtain ⟨hs, hspans⟩ := List.forall_mem_cons.mp h
    obtain ⟨p, htext, -, -, hexpand⟩ := s.exists_site hs
    obtain ⟨expanded, hmap, hin, hcover⟩ := ih hspans
    refine ⟨p.taken :: expanded, ?_, List.forall_mem_cons.mpr ⟨htext ▸ p.isIn_taken, hin⟩, ?_⟩
    · rw [List.mapM_cons, hexpand, Option.bind_eq_bind, Option.bind_some, hmap]
      rfl
    · funext i
      rw [Span.cover_cons, hcover]
      simp [Span.takes, Span.cover, hexpand]

/-- All bytes of a character go, or none does. -/
theorem cover_of_isIn (hin : ∀ s ∈ spans, s.IsIn source.text) {a b : Text} {c : Char}
    (ht : source.text = a ++ c :: b) {i : Nat} (hi : size a ≤ i) (hlt : i < size a + c.utf8Size) :
    Span.cover spans i = Span.cover spans (size a) := by
  rw [Bool.eq_iff_iff, Span.cover_eq_true_iff, Span.cover_eq_true_iff]
  have hc : 0 < c.utf8Size := c.utf8Size_pos
  refine exists_congr fun s => and_congr_right fun hs => ?_
  obtain ⟨before, inside, after, hsplit, rfl⟩ := hin s hs
  have hstart := size_le_or_le (hsplit.symm.trans ht)
  have hshifted : (before ++ inside) ++ after = a ++ c :: b := by
    rw [← ht, hsplit, List.append_assoc]
  have hstop := size_le_or_le hshifted
  constructor <;> intro hwithin <;> constructor <;> simp only at hwithin ⊢ <;> omega

/-- **What is left when spans are cut out.** The bytes that are left are those that lie in nothing
that a span is made to. The order of the spans does not matter. A byte that goes although it lies
in no span is a space, a tab, or in the end of the last line of a span that is alone on its
lines. -/
theorem without?_exact (source : Source) {spans : List Span}
    (h : ∀ s ∈ spans, s.IsIn source.text) :
    ∃ left, source.without? spans = some left ∧
      utf8 left = uncoveredBytes (Span.takes source spans) 0 (utf8 source.text) ∧
      (∀ spans', spans'.Perm spans → source.without? spans' = some left) ∧
      ∀ i, Span.takes source spans i = true → Span.cover spans i = true ∨
        (∃ c ∈ " \t".toList, (utf8 source.text)[i]? = some c.toNat.toUInt8) ∨
        ∃ p : Site, p.text = source.text ∧ p.span ∈ spans ∧ p.IsProper ∧ p.IsAlone ∧
          p.lineEnd.start ≤ i ∧ i < p.lineEnd.stop := by
  have hleft : ∀ {spans}, (∀ s ∈ spans, s.IsIn source.text) → source.without? spans =
      some (uncovered (Span.takes source spans) 0 source.text) := by
    intro spans h
    obtain ⟨expanded, hmap, hin, hcover⟩ := exists_expanded h
    rw [without?_eq hmap hin, hcover]
  refine ⟨_, hleft h, ?_, ?_, ?_⟩
  · obtain ⟨expanded, -, hin, hcover⟩ := exists_expanded h
    rw [← hcover]
    refine utf8_uncovered fun a c b ht i hi hlt => ?_
    rw [Nat.zero_add] at hi hlt ⊢
    exact cover_of_isIn hin ht hi hlt
  · intro spans' hperm
    rw [hleft fun s hs => h s (hperm.mem_iff.mp hs), Span.takes_perm hperm]
  · intro i hi
    obtain ⟨s, hs, e, hexpand, hstart, hstop⟩ := Span.takes_eq_true_iff.mp hi
    obtain ⟨p, htext, rfl, hp, htaken⟩ := s.exists_site (h s hs)
    obtain rfl : p.taken = e := Option.some.inj (htaken.symm.trans hexpand)
    rcases Site.cases_of_taken hp hstart hstop with hspan | hgap | ⟨halone, hend⟩
    · exact .inl (Span.cover_eq_true_iff.mpr ⟨p.span, hs, hspan⟩)
    · exact .inr (.inl (htext ▸ hgap))
    · exact .inr (.inr ⟨p, htext, hs, hp, halone, hend⟩)

/-- Spans in no order that overlap, are repeated and are empty, after a character of two bytes. -/
theorem without?_exact_unordered :
    let text := "é\r\n\ta; b\r\nc".toList
    let spans : List Span := [⟨6, 9⟩, ⟨0, 2⟩, ⟨8, 9⟩, ⟨5, 7⟩, ⟨8, 9⟩, ⟨12, 12⟩]
    (∀ s ∈ spans, s.IsIn text) ∧
      ∃ left, (Source.of text).without? spans = some left ∧ utf8 left = utf8 "\t\r\nc".toList ∧
        ∀ spans', spans'.Perm spans → (Source.of text).without? spans' = some left := by
  have hin : ∀ s ∈ [⟨6, 9⟩, ⟨0, 2⟩, ⟨8, 9⟩, ⟨5, 7⟩, ⟨8, 9⟩, ⟨12, 12⟩],
      Span.IsIn s "é\r\n\ta; b\r\nc".toList := by
    simp only [List.forall_mem_cons]
    exact ⟨⟨"é\r\n\ta".toList, "; b".toList, "\r\nc".toList, rfl, rfl⟩,
      ⟨[], "é".toList, "\r\n\ta; b\r\nc".toList, rfl, rfl⟩,
      ⟨"é\r\n\ta; ".toList, "b".toList, "\r\nc".toList, rfl, rfl⟩,
      ⟨"é\r\n\t".toList, "a;".toList, " b\r\nc".toList, rfl, rfl⟩,
      ⟨"é\r\n\ta; ".toList, "b".toList, "\r\nc".toList, rfl, rfl⟩,
      ⟨"é\r\n\ta; b\r\nc".toList, [], [], rfl, rfl⟩, List.forall_mem_nil _⟩
  obtain ⟨left, hleft, hbytes, hperm, -⟩ := without?_exact (Source.of "é\r\n\ta; b\r\nc".toList) hin
  refine ⟨hin, left, hleft, hbytes.trans ?_, hperm⟩
  decide +kernel

end Source

end Retint
