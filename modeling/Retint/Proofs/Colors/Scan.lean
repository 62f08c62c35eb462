import Retint.Proofs.Colors.Literal
import Retint.Proofs.Text.Places

/-!
# Substitution as a single pass

A color table substitutes its colors one after the other, each in what the ones before have made of
the stylesheet. The result is what one pass from left to right makes of it: at each place the first
entry whose color is a whole value there gives its replacement, and all else is copied. A color that
is too long to be looked for is passed over, so it takes no part in either.

The two differ in principle, since a replacement could hold another color or complete one. That it
does not is a matter of the signs: literals have neither `@` nor a backtick, replacements have one
of them before their first semicolon, and stylesheets have none. So what an occurrence of a color is
made of after some substitutions, it is made of in the stylesheet.

## Main definitions

* `ColorTable.Piece`, `ColorTable.scan` — the single pass, as a list of what is kept and inserted
* `ColorTable.searched` — the entries whose colors can be looked for
* `ColorTable.IsPlain` — tables whose colors are literals and whose names are names of variables

## Main results

* `ColorTable.occurrence?_of_replaceWith` — an occurrence after substituting was there before
* `ColorTable.replaceWith_find?_append` — two passes are one pass with both tables
* `ColorTable.substitute_eq_scan` — the headline, with what follows for later entries and order
-/

namespace Retint.ColorTable

open Color Declaration

/-! ### The single pass -/

/-- A piece of the result: a character of the stylesheet, or a replacement with its semicolon. -/
inductive Piece
  | kept (c : Char)
  | inserted (t : Text)
deriving DecidableEq, Repr

def Piece.text : Piece → Text
  | kept c => [c]
  | inserted t => t

/-- The text that pieces make. -/
def textOf (pieces : List Piece) : Text := pieces.flatMap Piece.text

/-- What is inserted for the color that is a whole value at the start of a text, by the first entry
that has this color, and how many characters it replaces. -/
def find? (table : ColorTable) (t : Text) : Option (Text × Nat) :=
  table.entries.findSome? fun entry =>
    (occurrence? entry.2 t).map fun size => (inserted entry.1, size)

/-- The pass over a stylesheet; the number counts the characters of the current occurrence that are
still to be skipped. -/
def scanFrom (table : ColorTable) : Nat → Text → List Piece
  | _, [] => []
  | skip + 1, _ :: rest => scanFrom table skip rest
  | 0, c :: rest =>
    match table.find? (c :: rest) with
    | some (new, size) => .inserted new :: scanFrom table (size - 1) rest
    | none => .kept c :: scanFrom table 0 rest

/-- The pass over a stylesheet. -/
def scan (table : ColorTable) (css : Text) : List Piece := scanFrom table 0 css

theorem textOf_scanFrom (table : ColorTable) (skip : Nat) (css : Text) :
    textOf (scanFrom table skip css) = Text.replaceWithFrom table.find? skip css := by
  induction css generalizing skip with
  | nil => cases skip <;> rfl
  | cons c css ih =>
    cases skip with
    | succ skip => exact ih skip
    | zero =>
      rw [scanFrom, Text.replaceWithFrom]
      cases table.find? (c :: css) with
      | none => simp [textOf, Piece.text, ← ih 0]
      | some found => simp [textOf, Piece.text, ← ih (found.2 - 1)]

theorem textOf_scan (table : ColorTable) (css : Text) :
    textOf (scan table css) = Text.replaceWith table.find? css :=
  textOf_scanFrom table 0 css

/-! ### What is found -/

/-- Every color is a literal and every name is the name of a variable. -/
structure IsPlain (table : ColorTable) : Prop where
  literal : ∀ entry ∈ table.entries, IsLiteral entry.2
  name : ∀ entry ∈ table.entries, IsName entry.1

variable {table other : ColorTable} {css new : Text} {n : Nat}

theorem find?_eq_none_iff :
    table.find? css = none ↔ ∀ entry ∈ table.entries, occurrence? entry.2 css = none := by
  simp [find?, List.findSome?_eq_none_iff]

theorem exists_of_find? (h : table.find? css = some (new, n)) :
    ∃ entry ∈ table.entries, occurrence? entry.2 css = some n ∧ new = inserted entry.1 := by
  obtain ⟨entry, hm, he⟩ := List.exists_of_findSome?_eq_some h
  simp only [Option.map_eq_some_iff, Prod.mk.injEq] at he
  obtain ⟨_, hn, rfl, rfl⟩ := he
  exact ⟨entry, hm, hn, rfl⟩

theorem find?_append (entries more : List (Text × Text)) (css : Text) :
    find? ⟨entries ++ more⟩ css = (find? ⟨entries⟩ css).or (find? ⟨more⟩ css) := by
  simp [find?, List.findSome?_append]

/-- Nothing is found in a replacement, whatever comes after it. -/
theorem IsPlain.silent_inserted (h : table.IsPlain) {name : Text} (hn : IsName name) (r : Text) :
    Text.Silent table.find? (inserted name) r := fun _ hs hsuf =>
  find?_eq_none_iff.2 fun entry he => occurrence?_suffix_inserted hn (h.literal entry he) hs hsuf

/-- A find is an occurrence of a color, which gives way to what its entry inserts. -/
theorem exists_occurrence_of_find? (hf : table.find? css = some (new, n)) :
    ∃ entry ∈ table.entries, ∃ k r, new = inserted entry.1 ∧ css = occurrence entry.2 k ++ r ∧
      n = (occurrence entry.2 k).length ∧
      Text.replaceWith table.find? css = inserted entry.1 ++ Text.replaceWith table.find? r := by
  obtain ⟨entry, he, ho, rfl⟩ := exists_of_find? hf
  obtain ⟨k, r, rfl, rfl⟩ := occurrence?_eq_some_iff.1 ho
  exact ⟨entry, he, k, r, rfl, rfl, rfl,
    Text.replaceWith_append_of_find (occurrence_ne_nil _ _) hf⟩

theorem lt_length_of_eq_append {color r : Text} {k : Nat} (h : css = occurrence color k ++ r) :
    r.length < css.length := by
  simp [h, occurrence]
  omega

/-- The pass goes through a stylesheet by occurrences of colors and characters that it copies. -/
theorem find?_induction (table : ColorTable) {motive : Text → Prop} (nil : motive [])
    (found : ∀ entry ∈ table.entries, ∀ k r,
      Text.replaceWith table.find? (occurrence entry.2 k ++ r) =
        inserted entry.1 ++ Text.replaceWith table.find? r → motive r →
      motive (occurrence entry.2 k ++ r))
    (kept : ∀ c css, table.find? (c :: css) = none → motive css → motive (c :: css)) (css : Text) :
    motive css := by
  induction hlen : css.length using Nat.strongRecOn generalizing css with
  | _ n ih =>
    subst hlen
    cases css with
    | nil => exact nil
    | cons c css =>
      cases hf : table.find? (c :: css) with
      | none => exact kept c css hf (ih _ (Nat.lt_succ_self _) css rfl)
      | some pair =>
        obtain ⟨entry, he, k, r, -, hr, -, hout⟩ := exists_occurrence_of_find? hf
        have hless := lt_length_of_eq_append hr
        rw [hr] at hout ⊢
        exact found entry he k r hout (ih _ hless r rfl)

/-- **Nothing new comes up.** What ends in a semicolon and has none of the signs of references is
led by a stylesheet after substitution only if it led it before. -/
theorem exists_of_replaceWith_eq (h : table.IsPlain) {s r : Text} (hat : '@' ∉ s) (htick : '`' ∉ s)
    (hs : Text.replaceWith table.find? css = s ++ ';' :: r) :
    ∃ r', css = s ++ ';' :: r' ∧ Text.replaceWith table.find? r' = r := by
  induction s generalizing css with
  | nil =>
    cases css with
    | nil => simp at hs
    | cons c css =>
      cases hf : table.find? (c :: css) with
      | some found =>
        obtain ⟨entry, he, k, r', -, -, -, hout⟩ := exists_occurrence_of_find? hf
        rw [hout] at hs
        exact absurd ⟨r, hs.symm⟩ (not_prefix_inserted (s := []) (h.name entry he) hat htick)
      | none =>
        rw [Text.replaceWith_cons_of_none hf] at hs
        obtain ⟨rfl, rfl⟩ := List.cons.inj hs
        exact ⟨css, rfl, rfl⟩
  | cons d s ih =>
    cases css with
    | nil => simp at hs
    | cons c css =>
      cases hf : table.find? (c :: css) with
      | some found =>
        obtain ⟨entry, he, k, r', -, -, -, hout⟩ := exists_occurrence_of_find? hf
        rw [hout] at hs
        exact absurd ⟨r, by rw [hs, List.append_assoc]; rfl⟩
          (not_prefix_inserted (h.name entry he) hat htick)
      | none =>
        rw [Text.replaceWith_cons_of_none hf] at hs
        obtain ⟨rfl, htail⟩ := List.cons.inj hs
        obtain ⟨r', rfl, hr⟩ := ih (fun hm => hat (List.mem_cons_of_mem _ hm))
          (fun hm => htick (List.mem_cons_of_mem _ hm)) htail
        exact ⟨r', rfl, hr⟩

/-- An occurrence of a literal at the start of the result was there at the start of the text. -/
theorem occurrence?_of_replaceWith (h : table.IsPlain) {color : Text} (hc : IsLiteral color)
    (ho : occurrence? color (Text.replaceWith table.find? css) = some n) :
    occurrence? color css = some n := by
  obtain ⟨k, r, hr, rfl⟩ := occurrence?_eq_some_iff.1 ho
  rw [occurrence_append] at hr
  have hat : '@' ∉ color ++ List.replicate k ' ' := by
    simp [hc.not_mem (c := '@') (by decide)]
  have htick : '`' ∉ color ++ List.replicate k ' ' := by
    simp [hc.not_mem (c := '`') (by decide)]
  obtain ⟨r', hr', -⟩ := exists_of_replaceWith_eq h hat htick hr
  exact occurrence?_eq_some_iff.2 ⟨k, r', by rw [hr', occurrence_append], rfl⟩

/-! ### Two passes -/

theorem IsPlain.append {entries more : List (Text × Text)} (h : IsPlain ⟨entries⟩)
    (h' : IsPlain ⟨more⟩) : IsPlain ⟨entries ++ more⟩ where
  literal := fun entry he => (List.mem_append.1 he).elim (h.literal entry) (h'.literal entry)
  name := fun entry he => (List.mem_append.1 he).elim (h.name entry) (h'.name entry)

/-- At the places of an occurrence after its first character nothing is found. -/
theorem IsPlain.silent_occurrence (h : table.IsPlain) {color : Text} (hc : IsLiteral color)
    {k : Nat} {r : Text} (hf : table.find? (occurrence color k ++ r) = none) :
    Text.Silent table.find? (occurrence color k) r := by
  intro s hs hsuf
  rw [find?_eq_none_iff]
  intro entry he
  rw [Option.eq_none_iff_forall_ne_some]
  intro n ho
  obtain ⟨rfl, rfl, -⟩ := eq_of_suffix_occurrence hc (h.literal entry he) hs hsuf ho
  simp [find?_eq_none_iff.1 hf entry he] at ho

/-- What is found depends on the occurrences of the colors only. -/
theorem find?_congr {a b : Text}
    (h : ∀ entry ∈ table.entries, occurrence? entry.2 a = occurrence? entry.2 b) :
    table.find? a = table.find? b := by
  unfold find?
  generalize table.entries = entries at h ⊢
  induction entries with
  | nil => rfl
  | cons entry entries ih =>
    rw [List.findSome?_cons, List.findSome?_cons, h entry (List.mem_cons_self ..),
      ih fun e he => h e (List.mem_cons_of_mem _ he)]

/-- What is found at an occurrence does not depend on what comes after it. -/
theorem IsPlain.find?_occurrence (h : table.IsPlain) {color : Text} (hc : IsLiteral color) (k : Nat)
    (r r' : Text) :
      table.find? (occurrence color k ++ r) = table.find? (occurrence color k ++ r') := by
  have hsemi : ';' ∉ color ++ List.replicate k ' ' := by
    simp [hc.not_mem (c := ';') (by decide)]
  refine find?_congr fun entry he => ?_
  rw [occurrence_append, occurrence_append]
  exact occurrence?_congr (h.literal entry he) hsemi r r'

/-- **Two passes are one.** The induction is on the length of the stylesheet, because the passes
skip an occurrence at once. -/
theorem replaceWith_find?_append {entries more : List (Text × Text)} (h : IsPlain ⟨entries⟩)
    (h' : IsPlain ⟨more⟩) (hat : '@' ∉ css) (htick : '`' ∉ css) :
    Text.replaceWith (find? ⟨more⟩) (Text.replaceWith (find? ⟨entries⟩) css) =
      Text.replaceWith (find? ⟨entries ++ more⟩) css := by
  induction hlen : css.length using Nat.strongRecOn generalizing css with
  | _ n ih =>
    subst hlen
    cases css with
    | nil => rfl
    | cons c css =>
      cases hf : find? ⟨entries⟩ (c :: css) with
      | some found =>
        -- The first pass replaces here, and the second one finds nothing in the replacement.
        obtain ⟨⟨name, color⟩, he, k, r, hnew, hr, hsize, hout⟩ := exists_occurrence_of_find? hf
        have hboth : find? ⟨entries ++ more⟩ (occurrence color k ++ r) =
            some (inserted name, (occurrence color k).length) := by
          rw [find?_append, ← hr, hf, ← hnew, ← hsize]
          rfl
        have hless : r.length < (c :: css).length := lt_length_of_eq_append hr
        rw [hout, Text.replaceWith_append_of_silent (h'.silent_inserted (h.name _ he) _), hr,
          Text.replaceWith_append_of_find (occurrence_ne_nil color k) hboth]
        rw [hr] at hat htick
        rw [ih _ hless (fun hm => hat (List.mem_append_right _ hm))
          (fun hm => htick (List.mem_append_right _ hm)) rfl]
      | none =>
        cases hg : find? ⟨more⟩ (c :: css) with
        | some found =>
          -- Only the second pass replaces here: the first one copies the whole occurrence.
          obtain ⟨⟨name, color⟩, he, k, r, hnew, hr, hsize, -⟩ := exists_occurrence_of_find? hg
          have hc := h'.literal _ he
          rw [hr] at hf hg hat htick ⊢
          have hfound : ∀ r', find? ⟨more⟩ (occurrence color k ++ r') =
              some (inserted name, (occurrence color k).length) := fun r' => by
            rw [h'.find?_occurrence hc k r' r, hg, ← hnew, ← hsize]
          have hboth : find? ⟨entries ++ more⟩ (occurrence color k ++ r) =
              some (inserted name, (occurrence color k).length) := by
            rw [find?_append, hf, hfound]
            rfl
          have hless : r.length < (c :: css).length := lt_length_of_eq_append hr
          have hne := occurrence_ne_nil color k
          rw [Text.replaceWith_append_of_silent (h.silent_occurrence hc hf),
            Text.replaceWith_append_of_find hne (hfound _),
            Text.replaceWith_append_of_find hne hboth,
            ih _ hless (fun hm => hat (List.mem_append_right _ hm))
              (fun hm => htick (List.mem_append_right _ hm)) rfl]
        | none =>
          -- Neither replaces here, and nothing that the first pass makes completes an occurrence.
          have hboth : find? ⟨entries ++ more⟩ (c :: css) = none := by
            rw [find?_append, hf, hg]
            rfl
          have hlater : find? ⟨more⟩ (c :: Text.replaceWith (find? ⟨entries⟩) css) = none := by
            rw [find?_eq_none_iff]
            intro entry he
            rw [Option.eq_none_iff_forall_ne_some]
            intro n ho
            rw [← Text.replaceWith_cons_of_none hf] at ho
            have hthere := occurrence?_of_replaceWith h (h'.literal entry he) ho
            simp [find?_eq_none_iff.1 hg entry he] at hthere
          rw [Text.replaceWith_cons_of_none hf, Text.replaceWith_cons_of_none hlater,
            Text.replaceWith_cons_of_none hboth,
            ih _ (by simp) (fun hm => hat (List.mem_cons_of_mem _ hm))
              (fun hm => htick (List.mem_cons_of_mem _ hm)) rfl]

/-! ### The whole table -/

/-- The entries whose colors can be looked for. -/
def searched (table : ColorTable) : ColorTable :=
  ⟨table.entries.filter fun entry => canFind entry.2⟩

theorem mem_searched {entry : Text × Text} :
    entry ∈ table.searched.entries ↔ entry ∈ table.entries ∧ canFind entry.2 = true :=
  List.mem_filter

theorem searched_append (entries more : List (Text × Text)) :
    searched ⟨entries ++ more⟩ = ⟨(searched ⟨entries⟩).entries ++ (searched ⟨more⟩).entries⟩ := by
  simp [searched]

theorem searched_eq_self (h : ∀ entry ∈ table.entries, canFind entry.2 = true) :
    table.searched = table := by
  rw [searched, List.filter_eq_self.mpr h]

theorem IsPlain.searched (h : table.IsPlain) : table.searched.IsPlain where
  literal := fun entry he => h.literal entry (mem_searched.mp he).1
  name := fun entry he => h.name entry (mem_searched.mp he).1

theorem IsPlain.of_subset {entries : List (Text × Text)} (h : table.IsPlain)
    (hsub : entries ⊆ table.entries) : IsPlain ⟨entries⟩ where
  literal := fun entry he => h.literal entry (hsub he)
  name := fun entry he => h.name entry (hsub he)

theorem replaceWith_find?_nil (css : Text) : Text.replaceWith (find? ⟨[]⟩) css = css :=
  Text.replaceWith_eq_self fun _ _ _ => rfl

theorem substituteOne_eq (css : Text) (entry : Text × Text) :
    substituteOne css entry = Text.replaceWith (find? (searched ⟨[entry]⟩)) css := by
  cases hfind : canFind entry.2 with
  | true =>
    have hone : searched ⟨[entry]⟩ = ⟨[entry]⟩ := searched_eq_self (by simpa using hfind)
    rw [substituteOne, if_pos hfind, hone]
    congr 1
    funext t
    cases h : occurrence? entry.2 t <;> simp [find?, inserted, h]
  | false =>
    have hnone : searched ⟨[entry]⟩ = ⟨[]⟩ := by simp [searched, hfind]
    rw [substituteOne, hfind, hnone, replaceWith_find?_nil]
    rfl

theorem foldl_substituteOne {entries more : List (Text × Text)} (h : IsPlain ⟨entries⟩)
    (h' : IsPlain ⟨more⟩) (hat : '@' ∉ css) (htick : '`' ∉ css) :
    more.foldl substituteOne (Text.replaceWith (find? (searched ⟨entries⟩)) css) =
      Text.replaceWith (find? (searched ⟨entries ++ more⟩)) css := by
  induction more generalizing entries with
  | nil => simp
  | cons entry more ih =>
    have hone : IsPlain ⟨[entry]⟩ := h'.of_subset (by simp)
    have hmore : IsPlain ⟨more⟩ := h'.of_subset (by simp)
    have hboth : Text.replaceWith (find? (searched ⟨[entry]⟩))
        (Text.replaceWith (find? (searched ⟨entries⟩)) css) =
        Text.replaceWith (find? (searched ⟨entries ++ [entry]⟩)) css := by
      rw [searched_append]
      exact replaceWith_find?_append h.searched hone.searched hat htick
    rw [List.foldl_cons, substituteOne_eq, hboth, ih (h.append hone) hmore, List.append_assoc]
    rfl

/-- Substituting in the table's order is the single pass with the colors that can be looked for. -/
theorem substitute_eq_replaceWith (h : table.IsPlain) (hat : '@' ∉ css) (htick : '`' ∉ css) :
    table.substitute css = Text.replaceWith table.searched.find? css := by
  have hnil : IsPlain ⟨[]⟩ := ⟨by simp, by simp⟩
  have hstart := foldl_substituteOne hnil h hat htick
  have hnone : searched ⟨[]⟩ = ⟨[]⟩ := rfl
  rw [hnone, replaceWith_find?_nil] at hstart
  exact hstart

theorem exists_of_mem_scanFrom {skip : Nat} (h : Piece.inserted new ∈ scanFrom table skip css) :
    ∃ entry ∈ table.entries, new = inserted entry.1 := by
  induction css generalizing skip with
  | nil => cases skip <;> simp [scanFrom] at h
  | cons c css ih =>
    cases skip with
    | succ skip => exact ih h
    | zero =>
      rw [scanFrom] at h
      cases hf : table.find? (c :: css) with
      | none =>
        have hrest : Piece.inserted new ∈ scanFrom table 0 css := by simpa [hf] using h
        exact ih hrest
      | some found =>
        obtain ⟨entry, he, -, hnew⟩ := exists_of_find? hf
        rcases List.mem_cons.1 (by simpa only [hf] using h) with hm | hm
        · exact ⟨entry, he, (Piece.inserted.inj hm).trans hnew⟩
        · exact ih hm

/-- An occurrence of any literal in the result of a pass lies before or after each replacement. -/
theorem IsPlain.occurrence_outside (h : table.IsPlain) {before after : List Piece}
    (hscan : table.scan css = before ++ .inserted new :: after) {color a b : Text}
    (hc : IsLiteral color) (hab : textOf (table.scan css) = a ++ b)
    (ho : occurrence? color b = some n) :
    a.length + n ≤ (textOf before).length ∨ (textOf before).length + new.length ≤ a.length := by
  have hm : Piece.inserted new ∈ table.scan css := by simp [hscan]
  obtain ⟨entry, he, rfl⟩ := exists_of_mem_scanFrom hm
  have hn := h.name entry he
  have htext : textOf before ++ (inserted entry.1 ++ textOf after) = a ++ b := by
    rw [← hab, hscan]
    simp [textOf, Piece.text]
  rcases List.append_eq_append_iff.1 htext with ⟨u, rfl, hu⟩ | ⟨u, hu, rfl⟩
  · -- The occurrence starts in the replacement or after it.
    rcases List.append_eq_append_iff.1 hu with ⟨v, rfl, -⟩ | ⟨v, hv, rfl⟩
    · right
      simp
    · cases v with
      | nil =>
        right
        simp [hv]
      | cons d v =>
        have hnone := occurrence?_suffix_inserted (r := textOf after) hn hc (s := d :: v) (by simp)
          ⟨u, hv.symm⟩
        exact absurd (hnone.symm.trans ho) (by simp)
  · -- The occurrence starts before the replacement, so it must end there.
    left
    obtain ⟨k, r, hocc, rfl⟩ := occurrence?_eq_some_iff.1 ho
    rcases List.append_eq_append_iff.1 hocc with ⟨w, hw, hr⟩ | ⟨w, rfl, -⟩
    · cases hwn : w with
      | nil => simp [hw, hwn, hu]
      | cons d v =>
        obtain ⟨w', rfl, hsuf⟩ := Text.exists_of_suffix_concat (s := w) (by simp [hwn]) ⟨u, hw.symm⟩
        have hsign : ∀ {c : Char}, c ∈ foreign → c ≠ ' ' → c ∉ w' := fun hf hne hm => by
          simpa [hc.not_mem hf, hne] using hsuf.subset hm
        exact absurd ⟨r, hr.symm⟩
          (not_prefix_inserted hn (hsign (by decide) (by decide)) (hsign (by decide) (by decide)))
    · simp [hu]

/-- No color of the table is left as a whole value. -/
theorem IsPlain.occurrence?_eq_none (h : table.IsPlain) {a b : Text}
    (hab : Text.replaceWith table.find? css = a ++ b) {entry : Text × Text}
    (he : entry ∈ table.entries) : occurrence? entry.2 b = none := by
  have hc := h.literal entry he
  rw [Option.eq_none_iff_forall_ne_some]
  intro n ho
  induction css using table.find?_induction generalizing a with
  | nil =>
    obtain ⟨rfl, rfl⟩ := List.append_eq_nil_iff.1 hab.symm
    obtain ⟨k, r, hr, -⟩ := occurrence?_eq_some_iff.1 ho
    exact absurd (List.append_eq_nil_iff.1 hr.symm).1 (occurrence_ne_nil _ k)
  | found e hmem l r hout ih =>
    rw [hout] at hab
    rcases List.append_eq_append_iff.1 hab with ⟨u, rfl, hu⟩ | ⟨u, hu, rfl⟩
    · exact ih hu
    · cases u with
      | nil => exact ih (a := []) rfl
      | cons d u =>
        have hnone := occurrence?_suffix_inserted (r := Text.replaceWith table.find? r)
          (h.name e hmem) hc (s := d :: u) (by simp) ⟨a, hu.symm⟩
        rw [hnone] at ho
        cases ho
  | kept c css hf ih =>
    cases a with
    | nil =>
      rw [List.nil_append] at hab
      rw [← hab] at ho
      have hthere := occurrence?_of_replaceWith h hc ho
      simp [find?_eq_none_iff.1 hf entry he] at hthere
    | cons d a =>
      rw [Text.replaceWith_cons_of_none hf] at hab
      exact ih (List.cons.inj hab).2

/-- Entries of different colors are not found at the same place. -/
theorem eq_of_occurrence? {color other : Text} {m : Nat} (hc : IsLiteral color)
    (ho : IsLiteral other) (h : occurrence? color css = some n)
    (h' : occurrence? other css = some m) :
    other = color := by
  obtain ⟨k, r, rfl, -⟩ := occurrence?_eq_some_iff.1 h
  exact (eq_of_suffix_occurrence hc ho (occurrence_ne_nil color k) List.suffix_rfl h').1

theorem find?_swap {before after : List (Text × Text)} {e e' : Text × Text}
    (he : IsLiteral e.2) (he' : IsLiteral e'.2) (hne : e.2 ≠ e'.2) :
    find? ⟨before ++ e' :: e :: after⟩ = find? ⟨before ++ e :: e' :: after⟩ := by
  funext t
  simp only [find?, List.findSome?_append, List.findSome?_cons]
  cases h : occurrence? e.2 t with
  | none => rfl
  | some n =>
    cases h' : occurrence? e'.2 t with
    | none => rfl
    | some m => exact absurd (eq_of_occurrence? he' he h' h) hne

/-- Neighbours change places with nothing between them, so they do among those that can be looked
for. -/
theorem find?_searched_swap {before after : List (Text × Text)} {e e' : Text × Text}
    (he : IsLiteral e.2) (he' : IsLiteral e'.2) (hne : e.2 ≠ e'.2) :
    find? (searched ⟨before ++ e' :: e :: after⟩) =
      find? (searched ⟨before ++ e :: e' :: after⟩) := by
  simp only [searched, List.filter_append]
  cases hfind : canFind e.2 <;> cases hfind' : canFind e'.2 <;>
    simp only [List.filter_cons, hfind, hfind', if_true, Bool.false_eq_true, if_false]
  exact find?_swap he he' hne

/-- **Substitution is a single pass.** For a stylesheet without the signs of references: the colors
substituted one after the other give the result of the one pass with those of them that can be
looked for, which are the ones of up to 327670 bytes. So no entry rewrites what an earlier one has
inserted, no color of the table that can be looked for is left as a whole value, and two neighbours
of different colors can change places. -/
theorem substitute_eq_scan (table : ColorTable) (css : Text) (hat : '@' ∉ css) (htick : '`' ∉ css)
    (h : table.IsPlain) :
    (∀ entry, entry ∈ table.searched.entries ↔
        entry ∈ table.entries ∧ Text.size entry.2 ≤ 327670) ∧
      table.substitute css = textOf (table.searched.scan css) ∧
      (∀ done more, table.entries = done ++ more →
        ∀ before new after, scan (searched ⟨done⟩) css = before ++ .inserted new :: after →
        ∀ entry ∈ more, ∀ a b n, substitute ⟨done⟩ css = a ++ b → occurrence? entry.2 b = some n →
          a.length + n ≤ (textOf before).length ∨
            (textOf before).length + new.length ≤ a.length) ∧
      (∀ entry ∈ table.entries, Text.size entry.2 ≤ 327670 →
        ∀ a b, table.substitute css = a ++ b → occurrence? entry.2 b = none) ∧
      ∀ before e e' after, table.entries = before ++ e :: e' :: after → e.2 ≠ e'.2 →
        substitute ⟨before ++ e' :: e :: after⟩ css = table.substitute css := by
  have hsub : ∀ t : ColorTable, t.IsPlain →
      t.substitute css = Text.replaceWith t.searched.find? css :=
    fun t ht => substitute_eq_replaceWith ht hat htick
  refine ⟨fun entry => by rw [mem_searched, canFind_iff], by rw [hsub table h, textOf_scan],
    ?_, ?_, ?_⟩
  · intro done more hsplit before new after hscan entry he a b n hab ho
    have hdone : IsPlain ⟨done⟩ := h.of_subset (by simp [hsplit])
    rw [hsub _ hdone, ← textOf_scan] at hab
    exact hdone.searched.occurrence_outside hscan (h.literal entry (by simp [hsplit, he])) hab ho
  · intro entry he hsize a b hab
    exact h.searched.occurrence?_eq_none ((hsub table h).symm.trans hab)
      (mem_searched.mpr ⟨he, canFind_iff.mpr hsize⟩)
  · intro before e e' after hsplit hne
    have hmem : before ++ e' :: e :: after ⊆ table.entries := by
      rw [hsplit]
      intro x
      simp only [List.mem_append, List.mem_cons]
      rintro (hx | rfl | rfl | hx) <;> simp_all
    have he : IsLiteral e.2 := h.literal e (hmem (by simp))
    have he' : IsLiteral e'.2 := h.literal e' (hmem (by simp))
    rw [hsub _ (h.of_subset hmem), hsub _ h, find?_searched_swap he he' hne, ← hsplit]

/-- Two names of one color, a shade, and a value with spaces before its semicolon. -/
theorem substitute_shared_color :
    let table : ColorTable := ⟨[("@link-color-3".toList, "#0a0".toList),
      ("@brand-color".toList, "#1890ff".toList), ("@link-color".toList, "#1890ff".toList)]⟩
    let css := "a \x7b\n  color: #1890ff ;\n  border: 1px #0a0;\n\x7d\n".toList
    ('@' ∉ css ∧ '`' ∉ css ∧ table.IsPlain) ∧
      table.substitute css = textOf (table.searched.scan css) ∧
      textOf (table.searched.scan css) = ("a \x7b\n  color: @brand-color;\n  border: 1px ".toList ++
        "color(~`colorPalette(\"@\x7blink-color\x7d\", 3)`);\n\x7d\n".toList) := by
  intro table css
  have hplain : table.IsPlain := by
    constructor
    · intro entry he
      simp only [table, List.mem_cons, List.not_mem_nil, or_false] at he
      rcases he with rfl | rfl | rfl <;> exact .hex (by decide)
    · intro entry he
      simp only [table, List.mem_cons, List.not_mem_nil, or_false] at he
      rcases he with rfl | rfl | rfl <;> exact ⟨_, rfl, by decide⟩
  have hat : '@' ∉ css := by decide
  have htick : '`' ∉ css := by decide
  exact ⟨⟨hat, htick, hplain⟩, (substitute_eq_scan table css hat htick hplain).2.1,
    by decide +kernel⟩

/-- A color that cannot be looked for is left as a whole value, and the pass with the whole table
would replace it. -/
theorem IsPlain.kept {name color before rest : Text} (h : IsPlain ⟨[(name, color)]⟩)
    (hfind : canFind color = false) (hcss : css = before ++ (color ++ ';' :: rest)) :
    substitute ⟨[(name, color)]⟩ css = css ∧
      occurrence? color (color ++ ';' :: rest) = some (color.length + 1) ∧
      css ≠ textOf (scan ⟨[(name, color)]⟩ css) := by
  have hthere : occurrence? color (color ++ ';' :: rest) = some (color.length + 1) :=
    occurrence?_eq_some_iff.mpr ⟨0, rest, by simp [occurrence], by simp [occurrence]⟩
  refine ⟨by simp [substitute, substituteOne, hfind], hthere, fun heq => ?_⟩
  rw [textOf_scan] at heq
  have hnone := h.occurrence?_eq_none (heq.symm.trans hcss) (List.mem_singleton_self _)
  exact Option.some_ne_none _ (hthere.symm.trans hnone)

/-- A color of more bytes than can be looked for. -/
theorem long_color_kept :
    let color := '#' :: List.replicate 400000 'f'
    let table : ColorTable := ⟨[("@link-color".toList, color)]⟩
    let before := "a \x7b\n  color: ".toList
    let css := before ++ (color ++ ";\n\x7d\n".toList)
    ('@' ∉ css ∧ '`' ∉ css ∧ table.IsPlain) ∧ table.substitute css = css ∧
      occurrence? color (color ++ ";\n\x7d\n".toList) = some (color.length + 1) ∧
      css ≠ textOf (table.scan css) := by
  intro color table before css
  have hliteral : IsLiteral color :=
    .hex fun c hc => by rw [List.eq_of_mem_replicate hc]; decide
  have hplain : table.IsPlain := by
    constructor
    · intro entry he
      rw [List.mem_singleton.mp he]
      exact hliteral
    · intro entry he
      rw [List.mem_singleton.mp he]
      exact ⟨_, rfl, by decide⟩
  have hsigns : ∀ c ∈ "@`".toList, c ∉ css := by
    intro c hc
    have hforeign : c ∈ foreign ∧ c ∉ before ∧ c ∉ ";\n\x7d\n".toList := by
      revert c
      decide
    simp only [css, List.mem_append, not_or]
    exact ⟨hforeign.2.1, hliteral.not_mem hforeign.1, hforeign.2.2⟩
  have hfind : canFind color = false := by
    rw [Bool.eq_false_iff, Ne, canFind_iff, Text.size_cons, Text.size_replicate]
    decide
  exact ⟨⟨hsigns '@' (by decide), hsigns '`' (by decide), hplain⟩, hplain.kept hfind rfl⟩

end Retint.ColorTable
