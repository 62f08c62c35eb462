import Retint.Proofs.Colors.Scan
import Retint.Proofs.Theme.VariableLine
import Retint.Sheet.Reduction

/-!
# Colors that a theme keeps

A theme is assembled in two steps that both rewrite the stylesheet: the colors of the table give
way to what they stand for, and then the marks of hacks are cut out. The first step leaves no color
of the table, but the second one can make one: a color that a mark breaks up is not found by the
first step, and it is put together when the mark is cut out. But for colors that are too long to be
looked for, nothing else leaves a color behind.

A color is made of characters that no mark has, its first character is nowhere else in it, and no
replacement ends in one. So what becomes a color when marks are cut out is a part of the stylesheet
that no replacement touches; and where a mark stands in a color, no color is found.

## Main definitions

* `Theme.IsBroken` — a color as a whole value with marks of hacks in it

## Main results

* `Theme.exists_of_hack_eq` — what is left after the marks are cut out was there before
* `ColorTable.IsPlain.exists_of_replaceWith_eq_append` — what no replacement ends in was in the
  stylesheet
* `ColorTable.IsPlain.exists_replaceWith_eq_append` — what no color ends in is left alone
* `Theme.theme_substitute_eq` — what follows the variable text in a theme
* `Theme.color_left_iff_isBroken` — the colors of the table that a theme keeps
-/

namespace Retint

open Text Color Declaration

namespace Theme

/-! ### Cutting out the marks -/

variable {t : Text}

/-- A text is empty, or starts with a mark, or with a character that no mark starts at. -/
theorem hack_induction {motive : Text → Prop} (nil : motive [])
    (mark : ∀ t, motive t → motive (Assembly.hackToken ++ t))
    (kept : ∀ c t, hackFind (c :: t) = none → motive t → motive (c :: t)) (t : Text) :
    motive t := by
  induction hlen : t.length using Nat.strongRecOn generalizing t with
  | _ n ih =>
    subst hlen
    cases t with
    | nil => exact nil
    | cons c t =>
      by_cases h : startsWith Assembly.hackToken (c :: t) = true
      · obtain ⟨r, hr⟩ := startsWith_iff.mp h
        have hless : r.length < (c :: t).length := by
          rw [← hr, List.length_append]
          exact Nat.lt_add_of_pos_left (by decide)
        rw [← hr]
        exact mark r (ih _ hless r rfl)
      · exact kept c t (if_neg h) (ih _ (Nat.lt_succ_self _) t rfl)

theorem hack_mark (t : Text) :
    replaceWith hackFind (Assembly.hackToken ++ t) = replaceWith hackFind t := by
  have hfind : hackFind (Assembly.hackToken ++ t) = some ([], Assembly.hackToken.length) :=
    if_pos (startsWith_iff.mpr (List.prefix_append _ t))
  exact replaceWith_append_of_find (by decide) hfind

/-- A text without a mark stays as it is. -/
theorem hack_eq_self (h : ¬ Assembly.hackToken <:+: t) : replaceWith hackFind t = t := by
  refine replaceWith_eq_self fun s _ hsuf => if_neg fun hs => h ?_
  rw [List.append_nil, startsWith_iff] at hs
  exact hs.isInfix.trans hsuf.isInfix

/-- What marks do not have stays. -/
theorem mem_hack {c : Char} (hc : c ∉ Assembly.hackToken) (hm : c ∈ t) :
    c ∈ replaceWith hackFind t := by
  induction t using hack_induction with
  | nil => exact hm
  | mark t ih =>
    rw [hack_mark]
    exact ih ((List.mem_append.mp hm).resolve_left hc)
  | kept d t hd ih =>
    rw [replaceWith_cons_of_none hd]
    rcases List.mem_cons.mp hm with rfl | hm
    · exact List.mem_cons_self ..
    · exact List.mem_cons_of_mem _ (ih hm)

theorem hack_append_cons {c : Char} (hc : c ∉ Assembly.hackToken) (a b : Text) :
    replaceWith hackFind (a ++ c :: b) = replaceWith hackFind a ++ c :: replaceWith hackFind b := by
  have hturn := turns_hack hc a b
  rwa [List.append_assoc, List.append_assoc] at hturn

/-- **What is left after the marks are cut out was there before:** each character of the result is
one of the text, and splits it as it splits the result. -/
theorem exists_of_hack_eq {c : Char} {p u : Text} (h : replaceWith hackFind t = p ++ c :: u) :
    ∃ a b, t = a ++ c :: b ∧ replaceWith hackFind a = p ∧ replaceWith hackFind b = u := by
  induction t using hack_induction generalizing p with
  | nil => simp at h
  | mark t ih =>
    rw [hack_mark] at h
    obtain ⟨a, b, rfl, ha, hb⟩ := ih h
    exact ⟨Assembly.hackToken ++ a, b, (List.append_assoc ..).symm, (hack_mark a).trans ha, hb⟩
  | kept d t hd ih =>
    rw [replaceWith_cons_of_none hd] at h
    cases p with
    | nil =>
      obtain ⟨rfl, hu⟩ := List.cons.inj h
      exact ⟨[], t, rfl, rfl, hu⟩
    | cons e p =>
      obtain ⟨rfl, htail⟩ := List.cons.inj h
      obtain ⟨a, b, rfl, ha, hb⟩ := ih htail
      have hnone : hackFind (d :: a) = none := by
        refine if_neg fun hs => ?_
        have hprefix : Assembly.hackToken <+: d :: (a ++ c :: b) :=
          (startsWith_iff.mp hs).trans (List.prefix_append (d :: a) (c :: b))
        rw [hackFind, if_pos (startsWith_iff.mpr hprefix)] at hd
        cases hd
      exact ⟨d :: a, b, rfl, by rw [replaceWith_cons_of_none hnone, ha], hb⟩

end Theme

/-! ### What substitution leaves alone -/

namespace ColorTable

variable {table : ColorTable} {css v x y n : Text}

/-- What no replacement ends in was in the stylesheet if it is in the result. -/
theorem IsPlain.exists_of_replaceWith_eq_append (h : table.IsPlain) (hat : '@' ∉ v)
    (htick : '`' ∉ v) (hsemi : ';' ∉ v) (hend : ∀ name, IsName name → ¬ v <:+ replacement name)
    (hv : replaceWith table.find? css = x ++ (v ++ ';' :: y)) :
    ∃ x' y', css = x' ++ (v ++ ';' :: y') := by
  induction css using table.find?_induction generalizing x with
  | nil => simp at hv
  | found entry he k r hout ih =>
    have hn := h.name entry he
    rw [hout] at hv
    rcases List.append_eq_append_iff.mp hv with ⟨u, -, hu⟩ | ⟨u, hu, hrest⟩
    · obtain ⟨x', y', rfl⟩ := ih hu
      exact ⟨occurrence entry.2 k ++ x', y', (List.append_assoc ..).symm⟩
    · cases u with
      | nil =>
        obtain ⟨x', y', rfl⟩ := ih (x := []) hrest.symm
        exact ⟨occurrence entry.2 k ++ x', y', (List.append_assoc ..).symm⟩
      | cons d u =>
        -- It would end with the replacement.
        obtain ⟨w, hw, hsuf⟩ := exists_of_suffix_concat (List.cons_ne_nil d u) ⟨_, hu.symm⟩
        have hmem : ';' ∉ w := fun hm => not_mem_replacement hn (by decide) (hsuf.subset hm)
        rw [hw, List.append_assoc] at hrest
        obtain ⟨rfl, -⟩ := append_cons_inj hsemi hmem hrest
        exact absurd hsuf (hend entry.1 hn)
  | kept c css hf ih =>
    cases x with
    | nil =>
      obtain ⟨y', hy, -⟩ := exists_of_replaceWith_eq h hat htick hv
      exact ⟨[], y', hy⟩
    | cons d x =>
      rw [replaceWith_cons_of_none hf] at hv
      obtain ⟨x', y', rfl⟩ := ih (List.cons.inj hv).2
      exact ⟨c :: x', y', rfl⟩

/-- At the places of a value that ends in no color nothing is found. -/
theorem IsPlain.silent_value (h : table.IsPlain) (hsemi : ';' ∉ v)
    (hend : ∀ entry ∈ table.entries, ∀ k, ¬ entry.2 ++ List.replicate k ' ' <:+ v) :
    Silent table.find? (v ++ [';']) y := by
  intro s hs hsuf
  obtain ⟨u, rfl, hu⟩ := exists_of_suffix_concat hs hsuf
  have hmem : ';' ∉ u := fun hm => hsemi (hu.subset hm)
  rw [find?_eq_none_iff]
  intro entry he
  rw [Option.eq_none_iff_forall_ne_some]
  intro n ho
  rw [List.append_assoc, List.singleton_append] at ho
  obtain ⟨k, rfl, -⟩ := (occurrence?_append_cons_iff (h.literal entry he) hmem).mp ho
  exact hend entry he k hu

/-- What ends in no color, and what no color ends in, is left alone. -/
theorem IsPlain.exists_replaceWith_eq_append (h : table.IsPlain) (hsemi : ';' ∉ v)
    (hpart : ∀ entry ∈ table.entries, ∀ k, ¬ v <:+ entry.2 ++ List.replicate k ' ')
    (hend : ∀ entry ∈ table.entries, ∀ k, ¬ entry.2 ++ List.replicate k ' ' <:+ v)
    (hcss : css = x ++ (v ++ ';' :: y)) :
    ∃ x' y', replaceWith table.find? css = x' ++ (v ++ ';' :: y') := by
  induction css using table.find?_induction generalizing x with
  | nil => simp at hcss
  | found entry he k r hout ih =>
    rw [hout]
    rcases List.append_eq_append_iff.mp hcss with ⟨w, -, hw⟩ | ⟨w, hw, hrest⟩
    · obtain ⟨x', y', hy⟩ := ih hw
      exact ⟨inserted entry.1 ++ x', y', by rw [hy, List.append_assoc]⟩
    · cases w with
      | nil =>
        obtain ⟨x', y', hy⟩ := ih (x := []) hrest.symm
        exact ⟨inserted entry.1 ++ x', y', by rw [hy, List.append_assoc]⟩
      | cons d w =>
        -- The occurrence would end in it.
        obtain ⟨u, hu, hsuf⟩ := exists_of_suffix_concat (List.cons_ne_nil d w) ⟨_, hw.symm⟩
        have hcolor : ';' ∉ entry.2 ++ List.replicate k ' ' := by
          simp [(h.literal entry he).not_mem (c := ';') (by decide)]
        have hmem : ';' ∉ u := fun hm => hcolor (hsuf.subset hm)
        rw [hu, List.append_assoc] at hrest
        obtain ⟨rfl, -⟩ := append_cons_inj hsemi hmem hrest
        exact absurd hsuf (hpart entry he k)
  | kept c css hf ih =>
    cases x with
    | nil =>
      have hcopied := replaceWith_append_of_silent (h.silent_value (y := y) hsemi hend)
      rw [List.append_assoc, List.singleton_append] at hcopied
      refine ⟨[], replaceWith table.find? y, ?_⟩
      rw [hcss, List.nil_append, hcopied, List.append_assoc]
      rfl
    | cons d x =>
      rw [replaceWith_cons_of_none hf]
      obtain ⟨x', y', hy⟩ := ih (List.cons.inj hcss).2
      exact ⟨c :: x', y', by rw [hy, List.cons_append]⟩

/-- No declaration starts in a stylesheet after substitution. -/
theorem IsPlain.turns_strip (h : table.IsPlain) (hat : '@' ∉ css)
    (hn : ∀ c ∈ n, isNameChar c = true) :
    Turns (Theme.stripFind ('@' :: n)) (replaceWith table.find? css)
      (replaceWith table.find? css) := by
  have hsigns : ∀ c ∈ ";:".toList, c ∈ ":;\\".toList ∧ isNameChar c = false := by decide
  induction css using table.find?_induction with
  | nil => exact .nil
  | found entry he k r hout ih =>
    rw [hout]
    refine (Theme.turns_strip_value
      (fun c hc => not_mem_replacement (h.name entry he) (hsigns c hc).1)
      fun c hc hm => ?_).append (ih fun hm => hat (List.mem_append_right _ hm))
    exact absurd (hn c hm) (Bool.eq_false_iff.mp (hsigns c hc).2)
  | kept c css hf ih =>
    simp only [List.mem_cons, not_or] at hat
    rw [replaceWith_cons_of_none hf]
    exact (ih hat.2).cons fun rest => Theme.startsWith_stripFind n c _ (Ne.symm hat.1)

end ColorTable

/-! ### What follows the variable text -/

namespace Theme

variable {selected : List (Text × Text)} {css variableText : Text} {table : ColorTable}

/-- What stands before the stylesheet in a theme: the fresh declarations and the variable text, from
which the older declarations are cut out. -/
def head (variableText : Text) (selected : List (Text × Text)) : Text :=
  selected.foldr (fun e t => e.1 ++ ": ".toList ++ e.2 ++ ";\n".toList ++ Assembly.strip e.1 t)
    variableText

theorem head_cons (variableText : Text) (e : Text × Text) (selected : List (Text × Text)) :
    head variableText (e :: selected) = e.1 ++ ": ".toList ++ e.2 ++ ";\n".toList ++
      Assembly.strip e.1 (head variableText selected) := rfl

/-- What the variables on offer make of a variable text and a stylesheet without declarations. -/
theorem foldr_lead (hnames : ∀ e ∈ selected, IsName e.1)
    (hcss : ∀ n, '@' :: n ∈ selected.map Prod.fst → Turns (stripFind ('@' :: n)) css css) :
    selected.foldr Assembly.lead (variableText ++ '\n' :: css) =
      head variableText selected ++ '\n' :: (css ++ List.replicate selected.length '\n') := by
  induction selected with
  | nil => simp [head]
  | cons e selected ih =>
    obtain ⟨⟨n, hn, hchars⟩, hnames⟩ := List.forall_mem_cons.mp hnames
    have hline : '\n' ∉ n := fun hm => absurd (hchars _ hm) (by decide)
    have hlines : Turns (stripFind ('@' :: n)) (List.replicate selected.length '\n')
        (List.replicate selected.length '\n') :=
      (startsWith_stripFind n).turns (not_mem_replicate (by decide) _)
    have hstrip := ((turns_strip hline (head variableText selected)).append
      ((hcss n (hn ▸ List.mem_cons_self ..)).append hlines)).replaceWith_eq
    rw [List.append_assoc, List.append_assoc] at hstrip
    have hrest : Assembly.strip ('@' :: n) (head variableText selected ++
        '\n' :: (css ++ List.replicate selected.length '\n')) =
        Assembly.strip ('@' :: n) (head variableText selected) ++
          '\n' :: (css ++ List.replicate selected.length '\n') :=
      (strip_eq_replaceWith ..).trans hstrip
    rw [List.foldr_cons, ih hnames fun n hn => hcss n (List.mem_cons_of_mem _ hn), Assembly.lead,
      head_cons, hn, hrest, List.length_cons, List.replicate_succ']
    simp only [List.append_assoc, List.cons_append]

theorem hack_append_lines (t : Text) (k : Nat) :
    replaceWith hackFind (t ++ List.replicate k '\n') =
      replaceWith hackFind t ++ List.replicate k '\n' := by
  have hlines : ∀ j, replaceWith hackFind (List.replicate j '\n') = List.replicate j '\n' :=
    fun j => (startsWith_hackFind.turns (not_mem_replicate (by decide) j)).replaceWith_eq
  cases k with
  | zero => simp
  | succ k => rw [List.replicate_succ, hack_append_cons (by decide), hlines]

/-- **What follows the variable text in a theme:** the stylesheet after substitution without the
marks of hacks, and empty lines. -/
theorem theme_substitute_eq (hnames : ∀ e ∈ selected, IsName e.1) (h : table.IsPlain)
    (hat : '@' ∉ css) (htick : '`' ∉ css) :
    Assembly.theme (table.substitute css) variableText selected =
      Text.replace Assembly.hackToken [] (head variableText selected) ++
        '\n' :: (Text.replace Assembly.hackToken [] (table.substitute css) ++
          List.replicate selected.length '\n') := by
  have hstrip : ∀ n, '@' :: n ∈ selected.map Prod.fst →
      Turns (stripFind ('@' :: n)) (table.substitute css) (table.substitute css) := by
    intro n hn
    obtain ⟨e, he, heq⟩ := List.mem_map.mp hn
    obtain ⟨m, hm, hchars⟩ := hnames e he
    obtain rfl : m = n := (List.cons.inj (hm.symm.trans heq)).2
    rw [ColorTable.substitute_eq_replaceWith h hat htick]
    exact h.searched.turns_strip hat hchars
  rw [Assembly.theme, foldr_lead hnames hstrip]
  refine (hack_append_cons (by decide) _ _).trans ?_
  rw [hack_append_lines]
  rfl

/-! ### Colors that are left -/

/-- A color as a whole value with marks of hacks in it: without them, what comes after the color's
first character are its other characters and spaces. -/
def IsBroken (color s : Text) : Prop :=
  ∃ c u t k, color = c :: u ∧ s = c :: (t ++ [';']) ∧ Assembly.hackToken <:+: t ∧
    Text.replace Assembly.hackToken [] t = u ++ List.replicate k ' '

/-- The signs that a color does not have are not in one with marks either, unless marks have
them. -/
theorem not_mem_value {color u t : Text} {c d : Char} {k : Nat} (h : IsLiteral color)
    (hcolor : color = c :: u) (ht : replaceWith hackFind t = u ++ List.replicate k ' ')
    (hd : d ∈ foreign) (hmark : d ∉ Assembly.hackToken) : d ∉ c :: t := by
  have hspace : ∀ d ∈ foreign, d ≠ ' ' := by decide
  have hmem := h.not_mem hd
  rw [hcolor, List.mem_cons, not_or] at hmem
  refine fun hm => (List.mem_cons.mp hm).elim hmem.1 fun hm => ?_
  have hkept := mem_hack hmark hm
  rw [ht] at hkept
  simp [hmem.2, hspace d hd] at hkept

/-- A color that is left was broken in the stylesheet, or it stood there and is none of those that
give way. -/
theorem exists_isBroken (h : table.IsPlain) {color : Text} (hliteral : IsLiteral color) {k : Nat}
    (ho : ColorTable.occurrence color k <:+:
      Text.replace Assembly.hackToken [] (replaceWith table.find? css)) :
    (∃ s, IsBroken color s ∧ s <:+: css) ∨
      (color ∉ table.entries.map Prod.snd ∧ ColorTable.occurrence color k <:+: css) := by
  obtain ⟨c, u, hcolor, -⟩ := hliteral.exists_cons
  obtain ⟨p, q, hpq⟩ := ho
  have hleft : replaceWith hackFind (replaceWith table.find? css) =
      p ++ c :: ((u ++ List.replicate k ' ') ++ ';' :: q) := by
    refine hpq.symm.trans ?_
    rw [ColorTable.occurrence, hcolor]
    simp only [List.append_assoc, List.cons_append, List.nil_append]
  obtain ⟨x, rest, hx, -, hrest⟩ := exists_of_hack_eq hleft
  obtain ⟨t, y, rfl, ht, -⟩ := exists_of_hack_eq hrest
  have hwhole : ¬ Assembly.hackToken <:+: t → c :: t = color ++ List.replicate k ' ' := by
    intro hmark
    rw [hack_eq_self hmark] at ht
    rw [ht, hcolor, List.cons_append]
  have hend : ∀ name, IsName name → ¬ c :: t <:+ ColorTable.replacement name := by
    intro name hn hsuf
    have hback : '\\' ∉ t := fun hm =>
      ColorTable.not_mem_replacement hn (by decide) (hsuf.subset (List.mem_cons_of_mem c hm))
    rw [hwhole fun hm => hback (hm.subset (by decide))] at hsuf
    exact ColorTable.not_suffix_replacement hn hliteral hsuf
  have hsign : ∀ d ∈ ";@`".toList, d ∉ c :: t := by
    have hsigns : ∀ d ∈ ";@`".toList, d ∈ foreign ∧ d ∉ Assembly.hackToken := by decide
    exact fun d hd => not_mem_value hliteral hcolor ht (hsigns d hd).1 (hsigns d hd).2
  obtain ⟨x', y', hcss⟩ := h.exists_of_replaceWith_eq_append (hsign _ (by decide))
    (hsign _ (by decide)) (hsign _ (by decide)) hend hx
  by_cases hmark : Assembly.hackToken <:+: t
  · exact .inl ⟨_, ⟨c, u, t, k, hcolor, rfl, hmark, ht⟩, x', y', by rw [hcss]; simp⟩
  · -- Without a mark it is a whole value after substitution, so the table does not have it.
    have hthere : ColorTable.occurrence? color (c :: t ++ ';' :: y) =
        some (ColorTable.occurrence color k).length :=
      ColorTable.occurrence?_eq_some_iff.mpr
        ⟨k, y, by rw [hwhole hmark, ColorTable.occurrence_append], rfl⟩
    refine .inr ⟨fun hm => ?_, x', y', ?_⟩
    · obtain ⟨entry, he, rfl⟩ := List.mem_map.mp hm
      exact Option.some_ne_none _ (hthere.symm.trans (h.occurrence?_eq_none hx he))
    · rw [hcss, hwhole hmark, ColorTable.occurrence]
      simp only [List.append_assoc, List.cons_append, List.nil_append]

/-- What is left alone, and a color without its marks, is left as this color. -/
theorem exists_occurrence (h : table.IsPlain) {color t u : Text} {c : Char} {k : Nat}
    (hliteral : IsLiteral color) (hcolor : color = c :: u)
    (ht : Text.replace Assembly.hackToken [] t = u ++ List.replicate k ' ')
    (hpart : ∀ entry ∈ table.entries, ∀ j, ¬ c :: t <:+ entry.2 ++ List.replicate j ' ')
    (hend : ∀ entry ∈ table.entries, ∀ j, ¬ entry.2 ++ List.replicate j ' ' <:+ c :: t)
    (hcss : c :: (t ++ [';']) <:+: css) : ColorTable.occurrence color k <:+:
      Text.replace Assembly.hackToken [] (replaceWith table.find? css) := by
  have hhack : replaceWith hackFind t = u ++ List.replicate k ' ' := ht
  obtain ⟨x, y, hcss⟩ := hcss
  obtain ⟨d, u', heq, hd, -⟩ := hliteral.exists_cons
  obtain ⟨rfl, rfl⟩ := List.cons.inj (hcolor.symm.trans heq)
  have hfirst : ∀ d ∈ "#r".toList, d ∉ Assembly.hackToken := by decide
  have hsemi : ';' ∉ c :: t := not_mem_value hliteral hcolor hhack (by decide) (by decide)
  have hsplit : css = x ++ ((c :: t) ++ ';' :: y) := by
    rw [← hcss]
    simp
  obtain ⟨x', y', hleft⟩ := h.exists_replaceWith_eq_append hsemi hpart hend hsplit
  have hrest : replaceWith hackFind (replaceWith table.find? css) = replaceWith hackFind x' ++
      c :: (replaceWith hackFind t ++ ';' :: replaceWith hackFind y') := by
    rw [hleft, List.cons_append, hack_append_cons (hfirst c hd), hack_append_cons (by decide)]
  refine ⟨replaceWith hackFind x', replaceWith hackFind y', ?_⟩
  refine Eq.trans ?_ hrest.symm
  rw [hhack, hcolor, ColorTable.occurrence]
  simp only [List.append_assoc, List.cons_append, List.nil_append]

/-- A broken color is left. -/
theorem IsBroken.exists_occurrence (h : table.IsPlain) {color s : Text} (hliteral : IsLiteral color)
    (hs : IsBroken color s) (hcss : s <:+: css) :
    ∃ k, ColorTable.occurrence color k <:+:
      Text.replace Assembly.hackToken [] (replaceWith table.find? css) := by
  obtain ⟨c, u, t, k, hcolor, rfl, hmark, ht⟩ := hs
  have hhack : replaceWith hackFind t = u ++ List.replicate k ' ' := ht
  obtain ⟨d, u', heq, -, hu⟩ := hliteral.exists_cons
  obtain ⟨rfl, rfl⟩ := List.cons.inj (hcolor.symm.trans heq)
  have hback : '\\' ∈ c :: t := List.mem_cons_of_mem c (hmark.subset (by decide))
  have hnone : ∀ entry ∈ table.entries, ∀ j, '\\' ∉ entry.2 ++ List.replicate j ' ' := by
    intro entry he j
    simp [(h.literal entry he).not_mem (c := '\\') (by decide)]
  refine ⟨k, Theme.exists_occurrence h hliteral hcolor ht
    (fun entry he j hsuf => hnone entry he j (hsuf.subset hback)) (fun entry he j hsuf => ?_) hcss⟩
  rcases List.suffix_cons_iff.mp hsuf with heq | hsuf
  · exact hnone entry he j (heq ▸ hback)
  · -- The first character of a color is not among the others.
    have hfirst : ∀ d ∈ "#r".toList, d ∉ Assembly.hackToken ∧ d ≠ ' ' := by decide
    obtain ⟨e, w, hentry, he', -⟩ := (h.literal entry he).exists_cons
    have hmem := mem_hack (hfirst e he').1 (hsuf.subset (by simp [hentry]))
    rw [hhack] at hmem
    simp [hu e he', (hfirst e he').2] at hmem

/-- A color that the table does not have is left where it stands. -/
theorem occurrence_kept (h : table.IsPlain) {color : Text} (hliteral : IsLiteral color) {k : Nat}
    (hnot : color ∉ table.entries.map Prod.snd) (hcss : ColorTable.occurrence color k <:+: css) :
    ColorTable.occurrence color k <:+:
      Text.replace Assembly.hackToken [] (replaceWith table.find? css) := by
  obtain ⟨c, u, hcolor, -⟩ := hliteral.exists_cons
  have hback : '\\' ∉ u ++ List.replicate k ' ' := by
    have hmem := hliteral.not_mem (c := '\\') (by decide)
    rw [hcolor, List.mem_cons, not_or] at hmem
    simp [hmem.2]
  have hwhole : c :: (u ++ List.replicate k ' ') = color ++ List.replicate k ' ' := by
    rw [hcolor]; rfl
  refine exists_occurrence h hliteral hcolor (t := u ++ List.replicate k ' ')
    (hack_eq_self fun hm => hback (hm.subset (by decide)))
    (fun entry he j hsuf => hnot ?_) (fun entry he j hsuf => hnot ?_) ?_
  · rw [hwhole] at hsuf
    exact List.mem_map.mpr
      ⟨entry, he, ((h.literal entry he).eq_of_suffix_spaces hliteral hsuf).1.symm⟩
  · rw [hwhole] at hsuf
    exact List.mem_map.mpr ⟨entry, he, (hliteral.eq_of_suffix_spaces (h.literal entry he) hsuf).1⟩
  · rw [← List.cons_append, hwhole]
    exact hcss

/-- **The colors that a theme keeps.** For a stylesheet without the signs of references, what
follows the variable text in the theme has a color of the table as a whole value exactly if the
stylesheet has the color broken up by marks of hacks, or has it as a whole value and the color has
too many bytes to be looked for. -/
theorem color_left_iff_isBroken (variableText : Text) (hat : '@' ∉ css) (htick : '`' ∉ css)
    (h : table.IsPlain) (hnames : ∀ e ∈ selected, IsName e.1) :
    ∃ rest, Assembly.theme (table.substitute css) variableText selected =
        Text.replace Assembly.hackToken [] (head variableText selected) ++ '\n' :: rest ∧
      ∀ entry ∈ table.entries, (∃ k, ColorTable.occurrence entry.2 k <:+: rest) ↔
        (∃ s, IsBroken entry.2 s ∧ s <:+: css) ∨
          (327670 < Text.size entry.2 ∧ ∃ k, ColorTable.occurrence entry.2 k <:+: css) := by
  refine ⟨_, theme_substitute_eq hnames h hat htick, fun entry he => ?_⟩
  have hliteral := h.literal entry he
  -- The colors that give way are those that can be looked for.
  have hlong : 327670 < Text.size entry.2 ↔ entry.2 ∉ table.searched.entries.map Prod.snd := by
    rw [← Nat.not_le, ← ColorTable.canFind_iff]
    refine not_congr ⟨fun hfind => ?_, fun hm => ?_⟩
    · exact List.mem_map_of_mem (ColorTable.mem_searched.mpr ⟨he, hfind⟩)
    · obtain ⟨e, hmem, heq⟩ := List.mem_map.mp hm
      exact heq ▸ (ColorTable.mem_searched.mp hmem).2
  rw [ColorTable.substitute_eq_replaceWith h hat htick, hlong]
  constructor
  · rintro ⟨k, ho⟩
    have hrest := infix_of_infix_append (not_mem_replicate (by decide) _) ho
    exact (exists_isBroken h.searched hliteral hrest).imp_right fun hkept => ⟨hkept.1, k, hkept.2⟩
  · rintro (⟨s, hs, hcss⟩ | ⟨hnot, k, hcss⟩)
    · obtain ⟨k, ho⟩ := hs.exists_occurrence h.searched hliteral hcss
      exact ⟨k, ho.trans (List.prefix_append _ _).isInfix⟩
    · have ho := occurrence_kept h.searched hliteral hnot hcss
      exact ⟨k, ho.trans (List.prefix_append _ _).isInfix⟩

/-- A color with a mark after it, and one with a mark and a space in it. -/
theorem color_left_marked :
    let table : ColorTable := ⟨[("@link-color".toList, "#fff".toList),
      ("@primary-color".toList, "rgba(0,0,0,0.5)".toList)]⟩
    let css := "a \x7b\n  color: #fff\\9;\n  border: 1px rgba(0,\\90,0,0.5) ;\n\x7d\n".toList
    ('@' ∉ css ∧ '`' ∉ css ∧ table.IsPlain ∧ ∀ e ∈ table.entries, IsName e.1) ∧
      ∃ rest, Assembly.theme (table.substitute css) [] table.entries = Text.replace
          Assembly.hackToken [] (head [] table.entries) ++ '\n' :: rest ∧
        ∀ entry ∈ table.entries, ∃ k, ColorTable.occurrence entry.2 k <:+: rest := by
  intro table css
  have hat : '@' ∉ css := by decide
  have htick : '`' ∉ css := by decide
  have hplain : table.IsPlain := by
    constructor
    · simp only [table, List.forall_mem_cons]
      exact ⟨.hex (by decide), @IsLiteral.rgba "0,0,0,0.5".toList (by decide), nofun⟩
    · simp only [table, List.forall_mem_cons]
      exact ⟨⟨_, rfl, by decide⟩, ⟨_, rfl, by decide⟩, nofun⟩
  have hnames : ∀ e ∈ table.entries, IsName e.1 := hplain.name
  obtain ⟨rest, htheme, hleft⟩ := color_left_iff_isBroken [] hat htick hplain hnames
  refine ⟨⟨hat, htick, hplain, hnames⟩, rest, htheme,
    fun entry he => (hleft entry he).mpr (.inl ?_)⟩
  simp only [table, List.mem_cons, List.not_mem_nil, or_false] at he
  rcases he with rfl | rfl
  · exact ⟨"#fff\\9;".toList, ⟨'#', "fff".toList, "fff\\9".toList, 0, rfl, rfl,
      contains_iff.mp (by decide), by decide⟩,
      "a \x7b\n  color: ".toList, "\n  border: 1px rgba(0,\\90,0,0.5) ;\n\x7d\n".toList, by decide⟩
  · exact ⟨"rgba(0,\\90,0,0.5) ;".toList, ⟨'r', "gba(0,0,0,0.5)".toList,
      "gba(0,\\90,0,0.5) ".toList, 1, rfl, rfl, contains_iff.mp (by decide), by decide⟩,
      "a \x7b\n  color: #fff\\9;\n  border: 1px ".toList, "\n\x7d\n".toList, by decide⟩

/-- The color of a rule with a hack stays in the theme of a reduced stylesheet, where a rule without
one has the name. -/
theorem color_left_by_hack :
    let table : ColorTable := ⟨[("@primary-color".toList, "#1890ff".toList)]⟩
    let rule (selector value : Text) : Text :=
      selector ++ " \x7b\n  color: ".toList ++ value ++ ";\n\x7d\n".toList
    let css := rule ".a".toList "#1890ff".toList ++ rule ".b".toList "#1890ff\\9".toList
    Sheet.reduce css = css ∧ '@' ∉ css ∧ '`' ∉ css ∧ table.IsPlain ∧
      Assembly.theme (table.substitute css) "@primary-color: #1890ff;\n".toList table.entries =
        "@primary-color: #1890ff;\n\n\n".toList ++ (rule ".a".toList "@primary-color".toList ++
          rule ".b".toList "#1890ff".toList ++ ['\n']) ∧
      ColorTable.occurrence "#1890ff".toList 0 <:+: rule ".b".toList "#1890ff".toList := by
  intro table rule css
  have hplain : table.IsPlain := by
    constructor
    · simp only [table, List.forall_mem_cons]
      exact ⟨.hex (by decide), nofun⟩
    · simp only [table, List.forall_mem_cons]
      exact ⟨⟨_, rfl, by decide⟩, nofun⟩
  have hleft : contains (ColorTable.occurrence "#1890ff".toList 0)
      (rule ".b".toList "#1890ff".toList) = true := by decide
  exact ⟨by decide +kernel, by decide, by decide, hplain, by decide +kernel, contains_iff.mp hleft⟩

end Theme

end Retint
