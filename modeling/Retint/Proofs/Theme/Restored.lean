import Retint.Proofs.Colors.Scan
import Retint.Proofs.Theme.Probes

/-!
# Stylesheets with names in the place of colors

Substituting the colors of a table in a stylesheet that is made of flat rules changes nothing but
the ends of values: a value that ends in a color of the table ends in what stands for the first
entry with that color.

## Main definitions

* `ColorTable.replaceEnd` — a value with the color at its end replaced

## Main results

* `ColorTable.replaceEnd_cases` — either a value ends in no color, or only its end is replaced
* `ColorTable.substitute_flatMap_text` — substituting in flat rules
-/

namespace Retint.ColorTable

open Text Color Theme Flat

variable {table : ColorTable} {e : Text × Text} {u v l : Text} {f g : Text × Text → Text}

/-! ### Ends of values -/

/-- The value with the color at its end replaced by what `f` makes of the first entry with that
color. -/
def replaceEnd (table : ColorTable) (f : Text × Text → Text) (value : Text) : Text :=
  match table.entries.find? fun e => e.2.isSuffixOf value with
  | some e => value.take (value.length - e.2.length) ++ f e
  | none => value

theorem replaceEnd_of_find? (h : (table.entries.find? fun e => e.2.isSuffixOf v) = some e) :
    ∃ u, v = u ++ e.2 ∧ ∀ f, replaceEnd table f v = u ++ f e := by
  have hsuf : e.2 <:+ v := List.isSuffixOf_iff_suffix.mp
    (List.find?_some (p := fun e : Text × Text => e.2.isSuffixOf v) h)
  obtain ⟨u, rfl⟩ := hsuf
  refine ⟨u, rfl, fun f => ?_⟩
  rw [replaceEnd, h]
  simp only [List.length_append, Nat.add_sub_cancel, List.take_left']

/-- Either a value ends in no color of the table, or only its end is replaced. -/
theorem replaceEnd_cases (table : ColorTable) (v : Text) :
    (∀ f, replaceEnd table f v = v) ∨
      ∃ e ∈ table.entries, ∃ u, v = u ++ e.2 ∧ ∀ f, replaceEnd table f v = u ++ f e := by
  cases h : table.entries.find? fun e => e.2.isSuffixOf v with
  | none =>
    refine .inl fun f => ?_
    rw [replaceEnd, h]
  | some e => exact .inr ⟨e, List.mem_of_find?_eq_some h, replaceEnd_of_find? h⟩

/-- Replacing each color by itself changes nothing. -/
theorem replaceEnd_eq_self (h : ∀ e ∈ table.entries, f e = e.2) (v : Text) :
    replaceEnd table f v = v := by
  rcases replaceEnd_cases table v with hv | ⟨e, he, u, hu, hv⟩
  · exact hv f
  · rw [hv, h e he, ← hu]

/-- A color gives way to what all entries with it come to. -/
theorem replaceEnd_entry (h : ∀ e ∈ table.entries, IsLiteral e.2) (he : e ∈ table.entries)
    (honly : ∀ e' ∈ table.entries, e'.2 = e.2 → f e' = f e) : replaceEnd table f e.2 = f e := by
  cases hfind : table.entries.find? fun e' => e'.2.isSuffixOf e.2 with
  | none =>
    have hmiss := List.find?_eq_none.mp hfind e he
    exact absurd (List.isSuffixOf_iff_suffix.mpr List.suffix_rfl) hmiss
  | some e' =>
    obtain ⟨u, hu, hreplaced⟩ := replaceEnd_of_find? hfind
    have he' := List.mem_of_find?_eq_some hfind
    have hsame : e'.2 = e.2 := (h e he).eq_of_suffix (h e' he') ⟨u, hu.symm⟩
    rw [hsame] at hu
    rw [hreplaced, List.append_left_eq_self.mp hu.symm, List.nil_append]
    exact honly e' he' hsame

/-! ### Finds in a rule -/

/-- What a color needs to be found at the end of a value. -/
theorem occurrence?_end {color w r : Text} {n : Nat} (hc : IsLiteral color) (hsemi : ';' ∉ w)
    (hlast : w.getLast? ≠ some ' ') (h : occurrence? color (w ++ ';' :: r) = some n) :
    w = color ∧ n = w.length + 1 := by
  obtain ⟨k, hk, hn⟩ := (occurrence?_append_cons_iff hc hsemi).mp h
  cases k with
  | zero => exact ⟨by simpa using hk, hn⟩
  | succ k =>
    rw [hk, List.replicate_succ', ← List.append_assoc, List.getLast?_concat] at hlast
    exact absurd rfl hlast

/-- What comes after a character that stands in no color makes no difference. -/
theorem occurrence?_append_foreign {color : Text} (hcolor : IsLiteral color) {c : Char}
    (hc : c ∈ foreign) (hne : c ≠ ';') (s rest : Text) :
    occurrence? color (s ++ c :: rest) = occurrence? color s := by
  have hmem : ∀ k, c ∉ occurrence color k := by
    have hspace : c ≠ ' ' := by
      rintro rfl
      exact absurd hc (by decide)
    intro k
    simp only [occurrence, List.mem_append, List.mem_singleton, not_or]
    exact ⟨⟨hcolor.not_mem hc, not_mem_replicate hspace k⟩, hne⟩
  ext n
  simp only [occurrence?_eq_some_iff]
  constructor
  · rintro ⟨k, r, hr, hn⟩
    obtain ⟨r', hr'⟩ := prefix_of_prefix_append_cons (hmem k) ⟨r, hr.symm⟩
    exact ⟨k, r', hr'.symm, hn⟩
  · rintro ⟨k, r, rfl, hn⟩
    exact ⟨k, r ++ c :: rest, by rw [List.append_assoc], hn⟩

/-- The colors in a part that ends in a character that stands in no color are found by themselves.
-/
theorem turns_find?_concat (h : ∀ e ∈ table.entries, IsLiteral e.2) {c : Char} (hc : c ∈ foreign)
    (hne : c ≠ ';') (l : Text) :
    Turns table.find? (l ++ [c]) (replaceWith table.find? l ++ [c]) := by
  have hfind : ∀ s rest, table.find? (s ++ c :: rest) = table.find? s := fun s rest =>
    find?_congr fun e he => occurrence?_append_foreign (h e he) hc hne s rest
  refine turns_concat (fun rest s _ _ => ⟨hfind s rest, fun new n hf => ?_⟩) fun rest => ?_
  · obtain ⟨e, -, ho, -⟩ := exists_of_find? hf
    obtain ⟨k, r, rfl, rfl⟩ := occurrence?_eq_some_iff.mp ho
    rw [List.length_append]
    exact ⟨List.length_pos_iff.mpr (occurrence_ne_nil e.2 k), Nat.le_add_right _ _⟩
  · refine (hfind [] rest).trans (find?_eq_none_iff.mpr fun e he => ?_)
    rw [Option.eq_none_iff_forall_ne_some]
    intro n hn
    obtain ⟨k, r, hr, -⟩ := occurrence?_eq_some_iff.mp hn
    exact occurrence_ne_nil e.2 k (List.append_eq_nil_iff.mp hr.symm).1

/-- No color is found that starts in a part without semicolons, if the part ends in a character that
stands in no color. -/
theorem turns_find? (h : ∀ e ∈ table.entries, IsLiteral e.2) {c : Char} (hc : c ∈ foreign)
    (hne : c ≠ ';') (hl : ';' ∉ l) : Turns table.find? (l ++ [c]) (l ++ [c]) := by
  have hself : replaceWith table.find? l = l := by
    refine replaceWith_eq_self fun s _ hsuf => find?_eq_none_iff.mpr fun e he => ?_
    rw [List.append_nil, Option.eq_none_iff_forall_ne_some]
    intro n hn
    obtain ⟨k, r, rfl, -⟩ := occurrence?_eq_some_iff.mp hn
    exact hl (hsuf.subset (by simp [occurrence]))
  have hturn := turns_find?_concat h hc hne l
  rwa [hself] at hturn

theorem turns_find?_space (h : ∀ e ∈ table.entries, IsLiteral e.2) :
    Turns table.find? [' '] [' '] := by
  refine turns_of_silent fun rest s hs hsuf => find?_eq_none_iff.mpr fun e he => ?_
  obtain rfl : s = [' '] := by
    rcases List.suffix_cons_iff.mp hsuf with hsuf | hsuf
    · exact hsuf
    · exact absurd (List.eq_nil_of_suffix_nil hsuf) hs
  rw [Option.eq_none_iff_forall_ne_some]
  intro n hn
  obtain ⟨k, r, hr, -⟩ := occurrence?_eq_some_iff.mp hn
  obtain ⟨c, t, hct, hc, -⟩ := (h e he).exists_cons
  rw [hct] at hr
  have hspace : ' ' = c := (List.cons.inj hr).1
  rw [← hspace] at hc
  exact absurd hc (by decide)

/-- What is found at the end of a value, by the first entry with its color. -/
theorem find?_end (h : ∀ e ∈ table.entries, IsLiteral e.2)
    (hfind : (table.entries.find? fun e => e.2.isSuffixOf v) = some e) (r : Text) :
    table.find? (e.2 ++ ';' :: r) = some (inserted e.1, e.2.length + 1) := by
  obtain ⟨hsuf, before, after, hentries, hbefore⟩ := List.find?_eq_some_iff_append.mp hfind
  have hliteral : IsLiteral e.2 := h e (by simp [hentries])
  have hsemi : ';' ∉ e.2 := hliteral.not_mem (by decide)
  have hnone : before.findSome? (fun entry =>
      (occurrence? entry.2 (e.2 ++ ';' :: r)).map fun size => (inserted entry.1, size)) = none := by
    rw [List.findSome?_eq_none_iff]
    intro entry hentry
    rw [Option.map_eq_none_iff, Option.eq_none_iff_forall_ne_some]
    intro n hn
    have hother : IsLiteral entry.2 := h entry (by simp [hentries, hentry])
    have heq := (occurrence?_end hother hsemi hliteral.getLast?_ne_space hn).1
    have hmiss := hbefore entry hentry
    rw [← heq, hsuf] at hmiss
    exact absurd hmiss (by decide)
  have hown : occurrence? e.2 (e.2 ++ ';' :: r) = some (e.2.length + 1) :=
    (occurrence?_append_cons_iff hliteral hsemi).mpr ⟨0, by simp, rfl⟩
  rw [find?, hentries, List.findSome?_append, hnone, Option.none_or, List.findSome?_cons, hown]
  rfl

/-- **What becomes of a value:** only the color at its end is found. -/
theorem turns_find?_value (h : ∀ e ∈ table.entries, IsLiteral e.2) (hv : IsToken v) :
    Turns table.find? (v ++ [';'])
      (replaceEnd table (fun e => replacement e.1) v ++ [';']) := by
  have hsemi : ';' ∉ v := hv.not_mem _ (by decide)
  have hlast : ∀ {s : Text}, s ≠ [] → s <:+ v → s.getLast? ≠ some ' ' := by
    rintro s hs ⟨p, rfl⟩ hlast
    have hblank := (isTight_of_trim hv.trimmed).2 ' ' (by rw [List.getLast?_append, hlast]; rfl)
    exact absurd hblank (by decide)
  cases hfind : table.entries.find? fun e => e.2.isSuffixOf v with
  | none =>
    have hself : replaceEnd table (fun e => replacement e.1) v = v := by rw [replaceEnd, hfind]
    rw [hself]
    refine turns_of_silent fun rest s hs hsuf => find?_eq_none_iff.mpr fun e he => ?_
    obtain ⟨s, rfl, hsl⟩ := exists_of_suffix_concat hs hsuf
    rw [List.append_assoc, Option.eq_none_iff_forall_ne_some]
    intro n hn
    by_cases hnil : s = []
    · subst hnil
      obtain ⟨heq, -⟩ := occurrence?_end (h e he) List.not_mem_nil (by simp) hn
      exact (h e he).ne_nil heq.symm
    · obtain ⟨rfl, -⟩ := occurrence?_end (h e he) (fun hm => hsemi (hsl.subset hm))
        (hlast hnil hsl) hn
      have hmiss := List.find?_eq_none.mp hfind e he
      exact hmiss (List.isSuffixOf_iff_suffix.mpr hsl)
  | some e =>
    obtain ⟨u, rfl, hreplaced⟩ := replaceEnd_of_find? hfind
    have he := List.mem_of_find?_eq_some hfind
    have hliteral := h e he
    intro rest
    have hsilent : Silent table.find? u (e.2 ++ [';'] ++ rest) := by
      intro s hs hsuf
      refine find?_eq_none_iff.mpr fun entry hentry => Option.eq_none_iff_forall_ne_some.mpr ?_
      intro n hn
      obtain ⟨p, rfl⟩ := hsuf
      have hsuf' : s ++ e.2 <:+ p ++ s ++ e.2 := ⟨p, by rw [List.append_assoc]⟩
      rw [List.append_assoc e.2, ← List.append_assoc s] at hn
      obtain ⟨heq, -⟩ := occurrence?_end (h entry hentry) (fun hm => hsemi (hsuf'.subset hm))
        (hlast (by simp [hs]) hsuf') hn
      have hsame := (h entry hentry).eq_of_suffix hliteral ⟨s, heq⟩
      rw [← hsame] at heq
      exact hs (List.append_left_eq_self.mp heq)
    have hfound : table.find? (e.2 ++ [';'] ++ rest) =
        some (inserted e.1, (e.2 ++ [';']).length) := by
      rw [List.append_assoc, List.length_append]
      exact find?_end h hfind rest
    rw [hreplaced, List.append_assoc u, List.append_assoc u, replaceWith_append_of_silent hsilent,
      replaceWith_append_of_find (by simp) hfound, inserted]
    simp only [List.append_assoc]

/-! ### Finds in a stylesheet -/

/-- The line of a property, with a color of the table at the end of its value replaced. -/
theorem turns_find?_propertyLine (h : ∀ e ∈ table.entries, IsLiteral e.2) {name value : Text}
    (hname : ';' ∉ name) (hvalue : IsToken value) :
    Turns table.find? (propertyLine name value)
      (propertyLine name (replaceEnd table (fun e => replacement e.1) value)) := by
  have hstart : ';' ∉ "  ".toList ++ name := by
    simp only [List.mem_append, not_or]
    exact ⟨by decide, hname⟩
  exact turns_propertyLine (turns_find? h (by decide) (by decide) hstart) (turns_find?_space h)
    (turns_find?_value h hvalue) (turns_find? (l := []) h (by decide) (by decide) (by decide))

theorem turns_find?_block (h : ∀ e ∈ table.entries, IsLiteral e.2) {b : Block} (hb : b.IsFlat) :
    Turns table.find? b.text
      (b.mapValues (replaceEnd table fun e => replacement e.1)).text := by
  have hselector : Turns table.find? (b.selector ++ " \x7b\n".toList)
      (b.selector ++ " \x7b\n".toList) := by
    have hsplit : b.selector ++ " \x7b\n".toList = b.selector ++ " \x7b".toList ++ ['\n'] := by
      rw [List.append_assoc]
      rfl
    rw [hsplit]
    refine turns_find? h (by decide) (by decide) ?_
    simp only [List.mem_append, not_or]
    exact ⟨hb.selector.not_mem _ (by decide), by decide⟩
  have hrow := fun p (hp : p ∈ b.properties) =>
    turns_find?_propertyLine h ((hb.property p hp).1.not_mem _ (by decide))
      (hb.value p hp).toIsToken
  have hclose : Turns table.find? "\x7d\n".toList "\x7d\n".toList :=
    turns_find? (l := "\x7d".toList) h (by decide) (by decide) (by decide)
  have hturns := Block.turns_text (f := id) hselector hrow hclose
  rwa [Block.mapValues_id] at hturns

/-- **Substituting in flat rules** replaces the colors at the ends of values that can be looked
for. -/
theorem substitute_flatMap_text (h : table.IsPlain) {rules : List Block}
    (hrules : ∀ b ∈ rules, b.IsFlat) : table.substitute (rules.flatMap Block.text) =
      rules.flatMap fun b =>
        (b.mapValues (replaceEnd table.searched fun e => replacement e.1)).text := by
  have hsigns : ∀ c ∈ "@`".toList, c ∉ " \x7b\n:;\x7d".toList ∧ c ∈ "@`\\".toList := by decide
  have hsign : ∀ c ∈ "@`".toList, c ∉ rules.flatMap Block.text := by
    intro c hc hm
    obtain ⟨b, hb, hm⟩ := List.mem_flatMap.mp hm
    have hc' := hsigns c hc
    exact Block.not_mem_text hc'.1 ((hrules b hb).selector.unsigned c hc'.2)
      (fun p hp => ⟨((hrules b hb).property p hp).1.unsigned c hc'.2,
        ((hrules b hb).value p hp).unsigned c hc'.2⟩) hm
  rw [substitute_eq_replaceWith h (hsign _ (by decide)) (hsign _ (by decide))]
  exact (Turns.flatMap fun b hb =>
    turns_find?_block h.searched.literal (hrules b hb)).replaceWith_eq

end Retint.ColorTable
