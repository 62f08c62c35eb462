import Mathlib.Data.List.Nodup
import Retint.Proofs.Colors.Shade
import Retint.Proofs.Theme.VariableText

/-!
# What the keys of probes stand for

Of a compiled probe only its key and its color are left, and the color is put back as what the key
stands for. That is told by the spelling: a key that ends in a hyphen and a digit stands for a
palette call, any other for itself. So the color of a shade is put back as the very call that was
probed, and the color of a variable as the variable, unless the variable is spelled like a shade.

Spelling is also the only way in which two probes can come to share a key: the variables have
different names, and a shade's name tells its variable and index, so one of the two probes is that
of a variable and the other that of a shade of the same name.

## Main results

* `Theme.isMarked_of_contains` — the names in a color map
* `Theme.replacement_of_shadeRules` — a shade's key stands for the call that was probed
* `Theme.nodup_keys_iff` — when all keys are different
* `Theme.keys_by_spelling` — the headline
-/

namespace Retint.Theme

open Probe Declaration ColorTable

variable {name bare : Text} {digit : Char} {r : Rule} {selected : List (Text × Text)}

/-- The names in a color map are marked. -/
theorem isMarked_of_contains {isColor : Text → Bool} {content : Text}
    (h : (ColorMap.ofText isColor content).contains name = true) : IsMarked name := by
  obtain ⟨color, hcolor⟩ := Option.isSome_iff_exists.mp h
  refine mem_colors_foldl (P := IsMarked) (s := {}) (fun e he => absurd he List.not_mem_nil) ?_
    _ (Dict.mem_of_lookup hcolor)
  intro line _ decl hdecl
  obtain ⟨rest, -, hname, hmark⟩ := exists_of_ofLine? hdecl
  rw [hname]
  refine ⟨⟨_, rfl, fun c hc => List.all_eq_true.mp List.all_takeWhile c hc⟩, ?_⟩
  exact hmark.imp (List.mem_cons_of_mem _) (List.mem_cons_of_mem _)

/-! ### What a key stands for -/

/-- A name that is not spelled like that of a shade stands for itself. -/
theorem replacement_eq_self (hn : IsName name)
    (h : ¬ ∃ base digit, name = base ++ ['-', digit] ∧ Unicode.isDigit digit = true) :
    replacement name = name := by
  rw [replacement, Shade.expression?, (Shade.split?_eq_none_iff hn).mpr h]
  rfl

/-- A name that is spelled like that of a shade stands for a palette call. -/
theorem replacement_eq_paletteCall (hn : IsName ('@' :: (bare ++ ['-', digit])))
    (hd : Unicode.isDigit digit = true) :
    replacement ('@' :: (bare ++ ['-', digit])) = Shade.paletteCall
      (if Shade.isPrimary ('@' :: (bare ++ ['-', digit])) then Shade.primaryVariable.tail else bare)
      digit := by
  obtain ⟨t, ht, hchars⟩ := hn
  obtain rfl := (List.cons.inj ht).2
  have hcall := Shade.expression?_append (fun c hc => hchars c (List.mem_append_left _ hc)) hd
  rw [replacement, hcall]
  rfl

/-- **The key of a shade stands for the palette call that was probed.** -/
theorem replacement_of_shadeRules (h : IsMarked name) (hr : r ∈ shadeRules name) :
    replacement r.key = r.value := by
  obtain ⟨i, -, hkey, hcall⟩ := exists_of_mem_shadeRules h hr
  rw [hkey, replacement, hcall]
  rfl

/-! ### Which keys are the same -/

/-- Each shade that is probed has a probe, under its own name. -/
theorem map_key_shadeRules (h : IsMarked name) :
    (shadeRules name).map Rule.key = Shade.indices.map (Shade.name name) := by
  have hall : ∀ indices : List Nat, (∀ i ∈ indices, i ∈ Shade.indices) →
      (indices.filterMap fun i => (Shade.expression? (Shade.name name i)).map
        (Rule.of (Shade.name name i))).map Rule.key = indices.map (Shade.name name) := by
    intro indices hindices
    induction indices with
    | nil => rfl
    | cons i rest ih =>
      obtain ⟨hi, hrest⟩ := List.forall_mem_cons.mp hindices
      obtain ⟨call, hcall⟩ := Shade.exists_expression?_name h (Shade.lt_ten hi)
      rw [List.filterMap_cons, hcall, Option.map_some, List.map_cons, List.map_cons, ih hrest,
        key_of (Shade.isMarked_name h i).isName]
  exact hall Shade.indices fun i hi => hi

theorem map_key_of (h : ∀ e ∈ selected, IsMarked e.1) :
    (selected.map fun e => (Rule.of e.1 e.2).key) = selected.map Prod.fst :=
  List.map_congr_left fun e he => key_of (h e he).isName e.2

theorem map_key_flatMap (h : ∀ e ∈ selected, IsMarked e.1) :
    (selected.flatMap fun e => shadeRules e.1).map Rule.key =
      selected.flatMap fun e => Shade.indices.map (Shade.name e.1) := by
  rw [List.map_flatMap, List.flatMap_def, List.flatMap_def,
    List.map_congr_left fun e he => map_key_shadeRules (h e he)]

/-- The probes of shades have different keys. -/
theorem nodup_shade_keys (h : ∀ e ∈ selected, IsMarked e.1)
    (hnodup : (selected.map Prod.fst).Nodup) :
    ((selected.flatMap fun e => shadeRules e.1).map Rule.key).Nodup := by
  rw [map_key_flatMap h, List.nodup_flatMap]
  constructor
  · intro e he
    refine List.Nodup.map_on (fun i _ j _ heq => ?_) (by decide)
    exact (Shade.name_injective (h e he) (h e he) heq).2
  · refine (List.pairwise_map.mp hnodup).imp_of_mem fun {e e'} he he' hne => ?_
    refine List.disjoint_left.mpr fun key hkey hkey' => ?_
    obtain ⟨i, -, rfl⟩ := List.mem_map.mp hkey
    obtain ⟨j, -, heq⟩ := List.mem_map.mp hkey'
    exact hne (Shade.name_injective (h e he) (h e' he') heq.symm).1

/-- All keys are different exactly if no variable is named like a shade that is probed. -/
theorem nodup_keys_iff (h : ∀ e ∈ selected, IsMarked e.1)
    (hnodup : (selected.map Prod.fst).Nodup) :
    ((rules selected).map Rule.key).Nodup ↔
      ∀ e ∈ selected, ∀ e' ∈ selected, ∀ i ∈ Shade.indices, e.1 ≠ Shade.name e'.1 i := by
  have hkeys : (rules selected).map Rule.key = (selected.map Prod.fst ++
      selected.flatMap fun e => Shade.indices.map (Shade.name e.1)).reverse := by
    have hvariables : selected.map (Rule.key ∘ fun e => Rule.of e.1 e.2) = selected.map Prod.fst :=
      map_key_of h
    rw [rules, List.map_reverse, List.map_append, List.map_map, map_key_flatMap h, hvariables]
  have hshades := nodup_shade_keys h hnodup
  rw [map_key_flatMap h] at hshades
  rw [hkeys, List.nodup_reverse, List.nodup_append]
  constructor
  · rintro ⟨-, -, hapart⟩ e he e' he' i hi
    refine hapart e.1 (List.mem_map_of_mem he) _ (List.mem_flatMap.mpr ⟨e', he', ?_⟩)
    exact List.mem_map_of_mem hi
  · intro hapart
    refine ⟨hnodup, hshades, fun key hkey key' hkey' => ?_⟩
    obtain ⟨e, he, rfl⟩ := List.mem_map.mp hkey
    obtain ⟨e', he', hkey'⟩ := List.mem_flatMap.mp hkey'
    obtain ⟨i, hi, rfl⟩ := List.mem_map.mp hkey'
    exact hapart e he e' he' i hi

/-- **Keys go by their spelling.** Take different variables with names from color maps. The probe of
a variable is kept under the variable's name, which stands for the variable unless it ends in a
hyphen and a digit; then it stands for the palette call that it spells. The probes of its shades are
kept under the shades' names, which stand for the palette calls that were probed. The keys of
variables are different, those of shades are different, and all keys are different exactly if no
variable is named like a probed shade of one of them. -/
theorem keys_by_spelling
    (hnames : ∀ e ∈ selected, ∃ isColor content,
      (ColorMap.ofText isColor content).contains e.1 = true)
    (hnodup : (selected.map Prod.fst).Nodup) :
    (∀ e ∈ selected, (Rule.of e.1 e.2).key = e.1 ∧
      ((¬ ∃ base digit, e.1 = base ++ ['-', digit] ∧ Unicode.isDigit digit = true) →
        replacement e.1 = e.1) ∧
      ∀ bare digit, e.1 = '@' :: (bare ++ ['-', digit]) → Unicode.isDigit digit = true →
        replacement e.1 = Shade.paletteCall
          (if Shade.isPrimary e.1 then Shade.primaryVariable.tail else bare) digit) ∧
    (∀ e ∈ selected, (shadeRules e.1).map Rule.key = Shade.indices.map (Shade.name e.1) ∧
      ∀ r ∈ shadeRules e.1, replacement r.key = r.value) ∧
    (selected.map fun e => (Rule.of e.1 e.2).key).Nodup ∧
    ((selected.flatMap fun e => shadeRules e.1).map Rule.key).Nodup ∧
    (((rules selected).map Rule.key).Nodup ↔
      ∀ e ∈ selected, ∀ e' ∈ selected, ∀ i ∈ Shade.indices, e.1 ≠ Shade.name e'.1 i) := by
  have h : ∀ e ∈ selected, IsMarked e.1 := by
    intro e he
    obtain ⟨isColor, content, hcontains⟩ := hnames e he
    exact isMarked_of_contains hcontains
  refine ⟨fun e he => ⟨key_of (h e he).isName e.2, replacement_eq_self (h e he).isName, ?_⟩,
    fun e he => ⟨map_key_shadeRules (h e he), fun r hr => replacement_of_shadeRules (h e he) hr⟩,
    ?_, nodup_shade_keys h hnodup, nodup_keys_iff h hnodup⟩
  · intro bare digit heq hd
    have hn := (h e he).isName
    rw [heq] at hn ⊢
    exact replacement_eq_paletteCall hn hd
  · rw [map_key_of h]
    exact hnodup

/-- Three variables, one of them of the primary palette and one named like a shade that is not
probed. -/
theorem keys_by_spelling_blue :
    let selected := [("@primary-color".toList, "@blue-6".toList),
      ("@blue-6".toList, "#1890ff".toList),
      ("@it's".toList, "#fff".toList)]
    ((∀ e ∈ selected, ∃ isColor content, (ColorMap.ofText isColor content).contains e.1 = true) ∧
      (selected.map Prod.fst).Nodup) ∧
    ((rules selected).map Rule.key).Nodup ∧
    replacement "@blue-6".toList = Shade.paletteCall "blue".toList '6' ∧
    ∀ r ∈ shadeRules "@primary-color".toList, replacement r.key = r.value := by
  intro selected
  have hnames : ∀ e ∈ selected, ∃ isColor content,
      (ColorMap.ofText isColor content).contains e.1 = true := by
    have hcontains : ∀ e ∈ selected, (ColorMap.ofText (Color.isColor [])
        "@blue-6: #1890ff;\n@primary-color: @blue-6;\n@it's: #fff;\n".toList).contains e.1 =
        true := by decide +kernel
    exact fun e he => ⟨_, _, hcontains e he⟩
  have hnodup : (selected.map Prod.fst).Nodup := by decide
  obtain ⟨hvariables, hshades, -, -, hkeys⟩ := keys_by_spelling hnames hnodup
  refine ⟨⟨hnames, hnodup⟩, hkeys.mpr (by decide), ?_, ?_⟩
  · have hblue :=
      (hvariables ("@blue-6".toList, "#1890ff".toList) (by decide)).2.2 "blue".toList '6'
      (by decide) (by decide)
    rw [hblue]
    decide
  · exact (hshades ("@primary-color".toList, "@blue-6".toList) (by decide)).2

/-- **A variable can be spelled like a shade.** Then its own color is put back as a palette call,
and its probe can share the key of a shade's probe. -/
theorem variable_spelled_like_shade :
    let selected := [("@blue-6".toList, "#1890ff".toList), ("@link-color".toList, "#40a9ff".toList),
      ("@link-color-1".toList, "#e6f7ff".toList)]
    let content := "@blue-6: #1890ff;\n@link-color: #40a9ff;\n@link-color-1: #e6f7ff;\n".toList
    (∀ e ∈ selected, (ColorMap.ofText (Color.isColor []) content).get? e.1 = some e.2) ∧
    (selected.map Prod.fst).Nodup ∧
    replacement (Rule.of "@blue-6".toList "#1890ff".toList).key ≠ "@blue-6".toList ∧
    ¬ ((rules selected).map Rule.key).Nodup := by
  decide +kernel

end Retint.Theme
