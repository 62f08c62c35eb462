import Retint.Proofs.Colors.Compiled

/-!
# Whose colors are read off

A color table is read off a stylesheet that is compiled from a variable text and from probes.
Nothing tells the two apart: each rule that looks like a probe is taken for one. So the names in the
table are the classes of all rules with this look and a color, wherever they come from, and they
belong to the probes exactly if no other rule looks like that.

The rules are looked for from left to right, each after the end of the one before. That loses none
of them, since no rule starts between the start of another and the end of its value: a rule has no
semicolon before the end of its first line, and from a period in a value on there is a semicolon
before the end of the line.

## Main definitions

* `ColorTable.rulesIn` — the rules that start anywhere in a text
* `ColorTable.HasRule` — a stylesheet has a rule that looks like a probe
* `Probe.IsProbed` — a theme variable, or one of its shades

## Main results

* `ColorTable.probes_eq_rulesIn` — all rules that look like probes are found
* `ColorTable.mem_names_ofCss_iff` — the names in a table
* `Probe.isProbed_key` — the keys of the probes
-/

namespace Retint

open Text Declaration

namespace ColorTable

variable {name value t css a b : Text} {n : Nat}

/-! ### All rules -/

/-- No rule starts where a semicolon comes before the end of the line. -/
theorem probe?_eq_none_of_semicolon (hsemi : ';' ∉ a) (hline : '\n' ∉ a) (t : Text) :
    probe? (a ++ ';' :: t) = none := by
  rw [Option.eq_none_iff_forall_ne_some]
  rintro ⟨name, value, n⟩ h
  obtain ⟨after, hsplit, hclass, -⟩ := probe?_eq_some_iff.mp h
  have hsigns : ∀ c ∈ ";\n".toList, c ∉ '.' :: (name ++ " \x7b".toList) := by
    have hall : ∀ c ∈ ";\n".toList, isClassChar c = false ∧ c ∉ ".".toList ++ " \x7b".toList := by
      decide
    intro c hc hm
    obtain ⟨hchar, hrest⟩ := hall c hc
    have hmem : c ∉ name := fun hm => absurd (hclass c hm) (Bool.eq_false_iff.mp hchar)
    simp_all
  have hbreak : " \x7b\n  color: ".toList = " \x7b".toList ++ '\n' :: "  color: ".toList := by
    decide
  have hmarks : a ++ ';' :: t = '.' :: (name ++ " \x7b".toList) ++
      '\n' :: ("  color: ".toList ++ (value ++ ';' :: after)) := by
    rw [hsplit, hbreak]
    simp only [List.append_assoc, List.cons_append]
  obtain ⟨-, hsign, -⟩ := append_cons_inj_of_not_mem ⟨hsemi, hline⟩
    ⟨hsigns _ (by decide), hsigns _ (by decide)⟩ hmarks
  exact absurd hsign (by decide)

/-- A period in a rule after its start is in its value. -/
theorem suffix_value_of_period {s v : Text} (hclass : ∀ c ∈ name, isClassChar c = true)
    (hsuf : '.' :: s <:+ name ++ (" \x7b\n  color: ".toList ++ v)) : '.' :: s <:+ v := by
  have hlead : '.' ∉ name ++ " \x7b\n  color: ".toList := by
    have hname : '.' ∉ name := fun hm => absurd (hclass _ hm) (by decide)
    simp [hname]
  obtain ⟨p, hp⟩ := hsuf
  rw [← List.append_assoc name] at hp
  rcases List.append_eq_append_iff.mp hp with ⟨w, hw, hs⟩ | ⟨w, -, hw⟩
  · cases w with
    | nil => exact hs ▸ List.suffix_rfl
    | cons e w =>
      obtain rfl := (List.cons.inj hs).1
      exact absurd (hw ▸ List.mem_append_right p (List.mem_cons_self ..)) hlead
  · exact ⟨w, hw.symm⟩

/-- No rule starts between the start of another and the end of its value. -/
theorem probe?_suffix_eq_none {s : Text} (hclass : ∀ c ∈ name, isClassChar c = true)
    (hline : '\n' ∉ value) (hs : s ≠ [])
    (hsuf : s <:+ name ++ (" \x7b\n  color: ".toList ++ (value ++ [';']))) (t : Text) :
    probe? (s ++ t) = none := by
  obtain ⟨d, s, rfl⟩ := List.exists_cons_of_ne_nil hs
  by_cases hd : d = '.'
  · subst hd
    obtain ⟨u, hu, husuf⟩ := exists_of_suffix_concat hs (suffix_value_of_period hclass hsuf)
    obtain ⟨p, q, hpq, hp⟩ := List.eq_append_cons_of_mem (show ';' ∈ u ++ [';'] by simp)
    have hpline : '\n' ∉ p := by
      intro hm
      have hmem : '\n' ∈ u ++ [';'] := hpq ▸ List.mem_append_left _ hm
      rcases List.mem_append.mp hmem with hmem | hmem
      · exact hline (husuf.subset hmem)
      · exact absurd hmem (by decide)
    rw [hu, hpq, List.append_assoc, List.cons_append]
    exact probe?_eq_none_of_semicolon hp hpline (q ++ t)
  · exact probe?_eq_none hd (s ++ t)

/-- The rule that starts at a place of a text, if one does: its class and its value. -/
def ruleAt (t : Text) (place : Nat) : Option (Text × Text) :=
  (probe? (t.drop place)).map fun (name, value, _) => (name, value)

/-- The rules of a text that start at any of its places, in the order of the places. -/
def rulesIn (t : Text) : List (Text × Text) := (List.range t.length).filterMap (ruleAt t)

theorem rulesIn_cons (c : Char) (t : Text) :
    rulesIn (c :: t) = (ruleAt (c :: t) 0).toList ++ rulesIn t := by
  have hlater : ruleAt (c :: t) ∘ Nat.succ = ruleAt t := rfl
  rw [rulesIn, List.length_cons, List.range_succ_eq_map, List.filterMap_cons, List.filterMap_map,
    hlater]
  cases ruleAt (c :: t) 0 with
  | none => rfl
  | some rule => rfl

theorem rulesIn_append (h : ∀ s, s ≠ [] → s <:+ a → probe? (s ++ b) = none) :
    rulesIn (a ++ b) = rulesIn b := by
  induction a with
  | nil => rfl
  | cons c a ih =>
    have hnone : ruleAt (c :: (a ++ b)) 0 = none := by
      rw [ruleAt, List.drop_zero, ← List.cons_append, h _ (List.cons_ne_nil c a) List.suffix_rfl,
        Option.map_none]
    rw [List.cons_append, rulesIn_cons, hnone,
      ih fun s hs hsuf => h s hs (hsuf.trans (List.suffix_cons c a))]
    rfl

/-- **All rules that look like probes are found,** in the order in which they stand. -/
theorem probes_eq_rulesIn (t : Text) : probes 0 t = rulesIn t := by
  -- On the length, since a rule is skipped at once.
  induction hlen : t.length using Nat.strongRecOn generalizing t with
  | _ m ih =>
    subst hlen
    cases t with
    | nil => rfl
    | cons c t =>
      rw [probes, rulesIn_cons, ruleAt, List.drop_zero]
      cases hp : probe? (c :: t) with
      | none => exact ih _ (Nat.lt_succ_self _) t rfl
      | some found =>
        obtain ⟨name, value, n⟩ := found
        obtain ⟨after, hsplit, hclass, -, hline, -, hn⟩ := probe?_eq_some_iff.mp hp
        have hrest : t = name ++ (" \x7b\n  color: ".toList ++ (value ++ [';'])) ++ after := by
          rw [(List.cons.inj hsplit).2]
          simp only [List.append_assoc, List.cons_append, List.nil_append]
        have hsize : n - 1 = (name ++ (" \x7b\n  color: ".toList ++ (value ++ [';']))).length := by
          rw [hn]
          simp only [List.length_append, List.length_singleton]
          omega
        have hskip : probes (n - 1) t = probes 0 after := by
          rw [probes_eq_drop, hrest, hsize, List.drop_left]
        have hless : after.length < (c :: t).length := by
          rw [hrest, List.length_cons, List.length_append]
          omega
        have hnone : rulesIn t = rulesIn after := by
          rw [hrest]
          exact rulesIn_append fun s hs hsuf => probe?_suffix_eq_none hclass hline hs hsuf after
        exact congrArg ((name, value) :: ·) (hskip.trans ((ih _ hless after rfl).trans hnone.symm))

theorem mem_probes_iff : (name, value) ∈ probes 0 t ↔
    ∃ a b n, t = a ++ b ∧ probe? b = some (name, value, n) := by
  rw [probes_eq_rulesIn, rulesIn, List.mem_filterMap]
  constructor
  · rintro ⟨place, -, hplace⟩
    obtain ⟨⟨name', value', n⟩, hp, heq⟩ := Option.map_eq_some_iff.mp hplace
    obtain ⟨rfl, rfl⟩ := Prod.mk.inj heq
    exact ⟨_, _, n, (List.take_append_drop place t).symm, hp⟩
  · rintro ⟨a, b, n, rfl, hp⟩
    have hb : b ≠ [] := by
      rintro rfl
      cases hp
    have hlength := List.length_pos_iff.mpr hb
    refine ⟨a.length, List.mem_range.mpr ?_, ?_⟩
    · rw [List.length_append]
      omega
    · rw [ruleAt, List.drop_left, hp]
      rfl

/-! ### The names in a table -/

/-- The stylesheet has a rule that looks like a probe: its selector ends in a class with a marked
name, and it starts with a color, the value of which reaches to the last semicolon of its line. -/
def HasRule (css name value : Text) : Prop :=
  ∃ before after,
    css = before ++ '.' :: (name ++ (" \x7b\n  color: ".toList ++ (value ++ ';' :: after))) ∧
      IsMarked ('@' :: name) ∧ '\n' ∉ value ∧ ';' ∉ after.takeWhile (· != '\n')

theorem hasRule_iff_mem_probes : HasRule css name value ↔ (name, value) ∈ probes 0 css := by
  rw [mem_probes_iff]
  constructor
  · rintro ⟨before, after, rfl, ⟨⟨m, hm, hchars⟩, hmark⟩, hline, hlast⟩
    obtain rfl := (List.cons.inj hm).2
    have hmark' : '-' ∈ name ∨ '\'' ∈ name := by simpa using hmark
    exact ⟨before, _, _, rfl,
      probe?_eq_some_iff.mpr ⟨after, rfl, hchars, hmark', hline, hlast, rfl⟩⟩
  · rintro ⟨before, b, n, rfl, h⟩
    obtain ⟨after, rfl, hclass, hmark, hline, hlast, -⟩ := probe?_eq_some_iff.mp h
    exact ⟨before, after, rfl, ⟨⟨name, rfl, hclass⟩, hmark.imp (List.mem_cons_of_mem _)
      (List.mem_cons_of_mem _)⟩, hline, hlast⟩

/-- **The names in a table** are those of all rules that look like probes and have a color. -/
theorem mem_names_ofCss_iff {key : Text} : key ∈ (ofCss css).names ↔
    ∃ name value, HasRule (stripComments css) name value ∧
      isConcrete (Text.trim value) = true ∧ key = '@' :: name := by
  rw [ofCss_eq_ofList, (Dict.isOrderedBy_ofList _).mem_names, List.mem_map]
  simp only [hasRule_iff_mem_probes, List.mem_filterMap]
  constructor
  · rintro ⟨e, ⟨⟨name, value⟩, hp, he⟩, rfl⟩
    obtain ⟨hc, heq⟩ := Option.ite_none_right_eq_some.mp he
    obtain rfl := Option.some.inj heq
    exact ⟨name, value, hp, hc, rfl⟩
  · rintro ⟨name, value, hp, hc, rfl⟩
    exact ⟨('@' :: name, Text.trim value), ⟨(name, value), hp, if_pos hc⟩, rfl⟩

end ColorTable

namespace Probe

variable {selected : List (Text × Text)} {r : Rule}

/-- The names that a theme asks the color of: its variables, and the shades of these. -/
def IsProbed (selected : List (Text × Text)) (name : Text) : Prop :=
  ∃ e ∈ selected, name = e.1 ∨ ∃ i ∈ Shade.indices, name = Shade.name e.1 i

instance decidableIsProbed (selected : List (Text × Text)) (name : Text) :
    Decidable (IsProbed selected name) :=
  inferInstanceAs (Decidable (∃ e ∈ selected,
    name = e.1 ∨ ∃ i ∈ Shade.indices, name = Shade.name e.1 i))

theorem isProbed_key (h : ∀ e ∈ selected, IsMarked e.1) (hr : r ∈ rules selected) :
    IsProbed selected r.key := by
  rw [rules, List.mem_reverse, List.mem_append] at hr
  rcases hr with hr | hr
  · obtain ⟨e, he, rfl⟩ := List.mem_map.mp hr
    exact ⟨e, he, .inl (key_of (h e he).isName e.2)⟩
  · obtain ⟨e, he, hr⟩ := List.mem_flatMap.mp hr
    obtain ⟨i, hi, hkey, -⟩ := exists_of_mem_shadeRules (h e he) hr
    exact ⟨e, he, .inr ⟨i, hi, hkey⟩⟩

end Probe

end Retint
