import Retint.Proofs.ColorMap.Reading

/-!
# Aliases and their targets

An alias is followed through what is declared before it. So if its target is declared last before
it, and not as an alias again, then both come to the same value. That does not mean that the map has
the same for both: a declaration that comes to no color is passed over, and leaves its name what the
declarations before it give. An alias and its target have the same color if the value is a color,
and else only if they had the same before.

## Main results

* `ColorMap.IsLastGiven.of_color`, `ColorMap.IsLastGiven.of_no_color` — what a name has after its
  last declaration
* `ColorMap.same_as_target_iff` — when an alias has the same as its target
* `ColorMap.alias_of_length_keeps_color` — an alias that has a color though its target has none
-/

namespace Retint.ColorMap

open Alias

variable {isColor : Text → Bool} {ds before between after : List Declaration} {d : Declaration}
  {name target value color : Text}

/-! ### The last declaration of a name -/

/-- What is declared for a name whose last declaration is known. -/
theorem latest_of_last (hafter : ∀ e ∈ after, e.name ≠ d.name) :
    latest (before ++ d :: after) d.name = some d.value := by
  rw [List.append_cons, latest_append, latest_of_forall_ne hafter, latest_concat, if_pos rfl]
  rfl

/-- A name has the color that its last declaration comes to. -/
theorem IsLastGiven.of_color (hcomes : ComesTo before d color) (hcolor : isColor color = true)
    (hafter : ∀ e ∈ after, e.name ≠ d.name) :
    IsLastGiven isColor (before ++ d :: after) d.name (some color) := by
  rw [List.append_cons]
  exact (isLastGiven_concat hcomes hcolor).append hafter

/-- If its last declaration comes to no color, a name has what the declarations before give it. -/
theorem IsLastGiven.of_no_color {given : Option Text} (h : IsLastGiven isColor before d.name given)
    (hnone : ∀ color, ComesTo before d color → isColor color = false)
    (hafter : ∀ e ∈ after, e.name ≠ d.name) :
    IsLastGiven isColor (before ++ d :: after) d.name given := by
  rw [List.append_cons]
  exact (h.concat fun color _ => hnone color).append hafter

/-- Both in one: the last declaration of a name comes to a value. -/
theorem get?_ofText_of_last (isColor : Text → Bool) {content : Text}
    (hds : declarations content = before ++ d :: after)
    (hafter : ∀ e ∈ after, e.name ≠ d.name) (hcomes : ComesTo before d value) :
    (isColor value = true → (ofText isColor content).get? d.name = some value) ∧
      (isColor value = false →
        IsLastGiven isColor before d.name ((ofText isColor content).get? d.name)) := by
  have hlast := isLastGiven_ofText isColor content d.name
  rw [hds] at hlast
  refine ⟨fun hcolor => hlast.unique (.of_color hcomes hcolor hafter), fun hcolor => ?_⟩
  obtain ⟨s, hs⟩ := exists_reads isColor before
  have hbefore := hs.colors d.name
  have hnone : ∀ color, ComesTo before d color → isColor color = false := fun color h => by
    rwa [h.unique hcomes]
  rwa [hlast.unique (hbefore.of_no_color hnone hafter)]

/-- A declared name is one that an alias can stand for. -/
theorem isAlias_of_mem_declarations {content : Text} (h : d ∈ declarations content) :
    isAlias d.name = true := by
  obtain ⟨line, -, hline⟩ := List.mem_filterMap.mp h
  unfold declarationOn? at hline
  split at hline
  · simp [isAlias, Declaration.name_of_ofLine? hline]
  · cases hline

/-! ### Aliases -/

/-- An alias comes to the value of its target, if that is no alias. -/
theorem comesTo_target (htarget : isAlias target = true) (hvalue : isAlias value = false)
    (hbetween : ∀ d ∈ between, d.name ≠ target) :
    ComesTo (before ++ ⟨target, value⟩ :: between) ⟨name, target⟩ value := by
  rw [ComesTo, if_pos htarget]
  exact ⟨[], target, .single _ target, latest_of_last (d := ⟨target, value⟩) hbetween, hvalue⟩

/-- **An alias and its target.** The last declaration of a name is an alias of a name that is
declared before it and not after it, the last time with a value that is no alias. If the value is a
color, both names have it in the map. If not, neither of the two declarations counts, and each name
has what the declarations before its last one give it. So the two have the same in the map, a color
or none, exactly if the value is a color or the declarations before give them the same; for instance
if these give neither of them a color. -/
theorem same_as_target_iff (isColor : Text → Bool) (content : Text)
    (hdeclared : declarations content =
      before ++ ⟨target, value⟩ :: (between ++ ⟨name, target⟩ :: after))
    (htarget : ∀ d ∈ between ++ ⟨name, target⟩ :: after, d.name ≠ target)
    (hname : ∀ d ∈ after, d.name ≠ name) (hvalue : isAlias value = false) :
    let colors := ofText isColor content
    (isColor value = true →
      colors.get? name = some value ∧ colors.get? target = some value) ∧
    (isColor value = false →
      IsLastGiven isColor (before ++ ⟨target, value⟩ :: between) name (colors.get? name) ∧
        IsLastGiven isColor before target (colors.get? target)) ∧
    (colors.get? name = colors.get? target ↔ isColor value = true ∨
      ∃ given, IsLastGiven isColor (before ++ ⟨target, value⟩ :: between) name given ∧
        IsLastGiven isColor before target given) := by
  intro colors
  have hbetween := (List.forall_mem_append.mp htarget).1
  have halias : isAlias target = true :=
    isAlias_of_mem_declarations (d := ⟨target, value⟩) (by rw [hdeclared]; simp)
  have hown : ComesTo before ⟨target, value⟩ value := by
    rw [ComesTo, if_neg (by simp [hvalue])]
  obtain ⟨htargetColor, htargetNone⟩ :=
    get?_ofText_of_last isColor hdeclared htarget hown
  have hdeclared' : declarations content =
      (before ++ ⟨target, value⟩ :: between) ++ ⟨name, target⟩ :: after := by
    rw [hdeclared, List.append_assoc, List.cons_append]
  obtain ⟨hnameColor, hnameNone⟩ := get?_ofText_of_last isColor hdeclared' hname
    (comesTo_target halias hvalue hbetween)
  refine ⟨fun hcolor => ⟨hnameColor hcolor, htargetColor hcolor⟩,
    fun hcolor => ⟨hnameNone hcolor, htargetNone hcolor⟩, fun hsame => ?_, ?_⟩
  · cases hcolor : isColor value with
    | true => exact .inl rfl
    | false => exact .inr ⟨_, hnameNone hcolor, hsame ▸ htargetNone hcolor⟩
  · rintro (hcolor | ⟨given, hgiven, hgiven'⟩)
    · exact (hnameColor hcolor).trans (htargetColor hcolor).symm
    · cases hcolor : isColor value with
      | true => exact (hnameColor hcolor).trans (htargetColor hcolor).symm
      | false =>
        exact ((hnameNone hcolor).unique hgiven).trans (hgiven'.unique (htargetNone hcolor))

/-- A text in which an alias and its target are both declared again. -/
def declaredTwice : Text :=
  ("@blue-6: #1890ff;\n@link-color: #000;\n@blue-6: #222;\n@line-width: 2px;\n" ++
    "@link-color: @blue-6;\n@text-color: red;\n").toList

/-- Both have the color that the target is declared with last. -/
theorem same_as_target_declared_twice :
    let before : List Declaration := [⟨"@blue-6".toList, "#1890ff".toList⟩,
      ⟨"@link-color".toList, "#000".toList⟩]
    let between : List Declaration := [⟨"@line-width".toList, "2px".toList⟩]
    let after : List Declaration := [⟨"@text-color".toList, "red".toList⟩]
    let last : Declaration := ⟨"@link-color".toList, "@blue-6".toList⟩
    (declarations declaredTwice =
        before ++ ⟨"@blue-6".toList, "#222".toList⟩ :: (between ++ last :: after) ∧
      (∀ d ∈ between ++ last :: after, d.name ≠ "@blue-6".toList) ∧
      (∀ d ∈ after, d.name ≠ "@link-color".toList) ∧ isAlias "#222".toList = false) ∧
    (ofText (Color.isColor []) declaredTwice).get? "@link-color".toList =
      (ofText (Color.isColor []) declaredTwice).get? "@blue-6".toList := by
  intro before between after last
  have hdeclared : declarations declaredTwice =
      before ++ ⟨"@blue-6".toList, "#222".toList⟩ :: (between ++ last :: after) := by
    decide +kernel
  have htarget : ∀ d ∈ between ++ last :: after, d.name ≠ "@blue-6".toList := by decide
  have hname : ∀ d ∈ after, d.name ≠ "@link-color".toList := by decide
  refine ⟨⟨hdeclared, htarget, hname, by decide⟩, ?_⟩
  exact (same_as_target_iff _ declaredTwice hdeclared htarget hname (by decide)).2.2.mpr
    (.inl (by decide +kernel))

/-- A text in which a color is declared again, as the alias of a length. -/
def widened : Text :=
  "@link-color: #1890ff;\n@line-width: 2px;\n@link-color: @line-width;\n".toList

/-- The alias keeps the color that it has been declared with, and its target has none. -/
theorem alias_of_length_keeps_color :
    let before : List Declaration := [⟨"@link-color".toList, "#1890ff".toList⟩]
    let last : Declaration := ⟨"@link-color".toList, "@line-width".toList⟩
    declarations widened = before ++ ⟨"@line-width".toList, "2px".toList⟩ :: ([] ++ last :: []) ∧
      last.name ≠ "@line-width".toList ∧ isAlias "2px".toList = false ∧
      (ofText (Color.isColor []) widened).get? "@link-color".toList = some "#1890ff".toList ∧
      (ofText (Color.isColor []) widened).get? "@line-width".toList = none := by
  decide +kernel

end Retint.ColorMap
