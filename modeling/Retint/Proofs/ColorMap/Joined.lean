import Retint.Generator
import Retint.Proofs.ColorMap.Reading
import Retint.Proofs.Text.Lines

/-!
# Two texts, scanned apart or as one

The color map of a theme is that of the variable text with the colors of the main file put over it.
Each of the two is scanned for itself, so in the main file an alias is followed through what is
declared in the main file alone. Scanned as one, the two texts have the same declarations in the
same order. So there is one difference: a declaration of the main file whose alias leads to a name
that the main file has not declared before. It comes to nothing then, though the variable text may
have a color for the name.

## Main definitions

* `ColorMap.LeadsOut` — an alias leads to a name that is not declared before it
* `ColorMap.IsOpen` — a declaration of the second text whose alias leads out of it
* `ColorMap.GivesApart` — what a declaration gives if the two texts are scanned apart

## Main results

* `Generator.get?_colorMap` — whose color the color map has
* `ColorMap.comesTo_iff_append` — what declarations before change for an alias
* `Generator.colorMap_exact` — the headline
* `Generator.colorMap_without_library_alias` — two texts for which it matters
-/

namespace Retint

namespace ColorMap

open Alias

variable {isColor : Text → Bool} {ds more before : List Declaration} {d : Declaration}
  {name color : Text} {given given' : Option Text} {i k n : Nat}

/-! ### The last of what is given -/

/-- Two rows of places, one behind the other. What the second row gives last counts. -/
theorem IsLastOf.or {gives first second : Nat → Text → Prop} (h : IsLastOf first given)
    (h' : IsLastOf second given')
    (hfirst : ∀ i color, i < n → (gives i color ↔ first i color))
    (hsecond : ∀ k color, gives (n + k) color ↔ second k color)
    (hlt : ∀ i color, first i color → i < n) : IsLastOf gives (given'.or given) := by
  cases given' with
  | some color =>
    obtain ⟨k, hk, hlater⟩ := h'
    refine ⟨n + k, (hsecond k color).mpr hk, fun j other hj hgives => ?_⟩
    obtain ⟨m, rfl⟩ := Nat.exists_eq_add_of_le (show n ≤ j by omega)
    exact hlater m other (by omega) ((hsecond m other).mp hgives)
  | none =>
    have hnone : ∀ j other, gives j other → j < n := fun j other hgives => by
      by_contra hj
      obtain ⟨m, rfl⟩ := Nat.exists_eq_add_of_le (Nat.not_lt.mp hj)
      exact h' m other ((hsecond m other).mp hgives)
    cases given with
    | some color =>
      obtain ⟨i, hi, hlater⟩ := h
      exact ⟨i, (hfirst i color (hlt i color hi)).mpr hi, fun j other hj hgives =>
        hlater j other hj ((hfirst j other (hnone j other hgives)).mp hgives)⟩
    | none =>
      exact fun i color hgives =>
        h i color ((hfirst i color (hnone i color hgives)).mp hgives)

/-- Some places are left out. This makes no difference exactly if the last place is none of them, or
what is given last without them is the same. -/
theorem IsLastOf.eq_iff {gives : Nat → Text → Prop} {skipped : Nat → Prop}
    (hgives : ∀ i color other, gives i color → gives i other → color = other)
    (h : IsLastOf (fun i color => gives i color ∧ ¬ skipped i) given)
    (h' : IsLastOf gives given') :
    given = given' ↔ ∀ i color, skipped i → gives i color →
      (∀ j other, i < j → ¬ gives j other) → given = some color := by
  refine ⟨?_, fun hskipped => ?_⟩
  · rintro rfl i color - hi hlater
    exact h'.unique hgives ⟨i, hi, hlater⟩
  · cases given' with
    | none =>
      refine h.unique (fun i color other hi hi' => hgives i color other hi.1 hi'.1) ?_
      exact fun i color hi => h' i color hi.1
    | some color =>
      obtain ⟨i, hi, hlater⟩ := h'
      by_cases hi' : skipped i
      · exact hskipped i color hi' hi hlater
      · refine h.unique (fun i color other hi hi' => hgives i color other hi.1 hi'.1) ?_
        exact ⟨i, ⟨hi, hi'⟩, fun j other hj hgives => hlater j other hj hgives.1⟩

/-! ### Aliases that lead out -/

/-- The declaration is an alias that leads, by way of the declarations before it, to a name that
these do not declare. -/
def LeadsOut (before : List Declaration) (d : Declaration) : Prop :=
  isAlias d.value = true ∧ ∃ missing, BreaksAt (latest before) d.value missing

/-- A chain that does not lead out comes to the same with other declarations before: all names on
the way are declared, and the later declaration counts. -/
theorem endsIn_append_iff {target value : Text}
    (hinside : ∀ missing, ¬ BreaksAt (latest before) target missing) :
    EndsIn (latest before) target value ↔ EndsIn (latest (ds ++ before)) target value := by
  refine endsIn_latest_congr fun chain hchain a ha => ?_
  rw [latest_append]
  cases hdeclared : latest before a with
  | some value => rfl
  | none =>
    -- The chain would lead out there.
    obtain ⟨front, rest, rfl⟩ := List.append_of_mem ha
    have hfront := hchain.take
    exact absurd ⟨front, hfront, hfront.nodup (isEnd_of_eq_none hdeclared), hdeclared⟩ (hinside a)

/-- **What other declarations before change**: an alias that leads out can come to something. -/
theorem comesTo_iff_append (ds before : List Declaration) (d : Declaration) (color : Text) :
    ComesTo before d color ↔ ComesTo (ds ++ before) d color ∧ ¬ LeadsOut before d := by
  unfold ComesTo LeadsOut
  by_cases halias : isAlias d.value = true
  · simp only [halias, if_true, true_and]
    by_cases hout : ∃ missing, BreaksAt (latest before) d.value missing
    · refine iff_of_false (fun hends => ?_) fun h => h.2 hout
      obtain ⟨missing, hbreaks⟩ := hout
      exact hends.not_breaksAt hbreaks
    · rw [endsIn_append_iff (not_exists.mp hout), and_iff_left hout]
  · simp [halias]

/-! ### Two texts -/

/-- The declaration with this index is one of `more`, and an alias that leads out of it. -/
def IsOpen (ds more : List Declaration) (i : Nat) : Prop :=
  ∃ k d, i = ds.length + k ∧ more[k]? = some d ∧ LeadsOut (more.take k) d

/-- What a declaration gives if `ds` and `more` are scanned apart. -/
def GivesApart (isColor : Text → Bool) (ds more : List Declaration) (name : Text) (i : Nat)
    (color : Text) : Prop :=
  Gives isColor (ds ++ more) i name color ∧ ¬ IsOpen ds more i

theorem declarations_append {a b : Text} (ha : a.getLast? = some '\n') :
    declarations (a ++ b) = declarations a ++ declarations b := by
  obtain ⟨a, rfl⟩ := List.getLast?_eq_some_iff.mp ha
  rw [List.append_assoc, List.singleton_append, declarations, Text.lines_append_append,
    List.filterMap_append]
  rfl

theorem givesApart_of_lt (hi : i < ds.length) :
    GivesApart isColor ds more name i color ↔ Gives isColor ds i name color := by
  rw [GivesApart, gives_append_of_lt hi, and_iff_left]
  rintro ⟨k, d, rfl, -⟩
  omega

theorem givesApart_add :
    GivesApart isColor ds more name (ds.length + k) color ↔ Gives isColor more k name color := by
  have hopen : IsOpen ds more (ds.length + k) ↔
      ∃ d, more[k]? = some d ∧ LeadsOut (more.take k) d :=
    ⟨fun ⟨m, d, hm, h⟩ => ⟨d, Nat.add_left_cancel hm ▸ h⟩, fun ⟨d, h⟩ => ⟨k, d, rfl, h⟩⟩
  unfold GivesApart Gives
  rw [hopen, List.getElem?_append_right (Nat.le_add_right _ k), Nat.add_sub_cancel_left,
    List.take_length_add_append]
  cases hd : more[k]? with
  | none => simp
  | some d =>
    simp only [Option.some.injEq, exists_eq_left', comesTo_iff_append ds (more.take k) d]
    tauto

/-- Two texts that are scanned apart. -/
theorem isLastOf_givesApart (h : IsLastGiven isColor ds name given)
    (h' : IsLastGiven isColor more name given') :
    IsLastOf (GivesApart isColor ds more name) (given'.or given) :=
  (isLastGiven_iff.mp h).or (isLastGiven_iff.mp h') (fun _ _ => givesApart_of_lt)
    (fun _ _ => givesApart_add) fun _ _ => Gives.lt

end ColorMap

namespace Generator

open ColorMap

variable {variableText : Text}

/-- In the color map the colors of the main file stand before those of the variable text. -/
theorem get?_colorMap (options : Options) (variableText main name : Text) :
    (colorMap options variableText (some main)).get? name =
      ((ofText options.isColor main).get? name).or
        ((ofText options.isColor variableText).get? name) :=
  Dict.get?_merge _ (nodup_names_ofText options.isColor main) name

/-- **The color map of a theme.** The declarations of the variable text and of the main file are
taken in this order. A name has the color that its last declaration gives, not counting those that
come to no color, nor those of the main file with an alias that leads to a name which the main file
does not declare before. One scan of both texts counts the latter as well. So it says the same of a
name, unless the declaration that counts in it is one of these, and then exactly if the two colors
happen to be the same. -/
theorem colorMap_exact (options : Options) (main name : Text)
    (hend : variableText.getLast? = some '\n') :
    let ds := declarations variableText
    let more := declarations main
    let merged := (colorMap options variableText (some main)).get? name
    IsLastOf (GivesApart options.isColor ds more name) merged ∧
      (merged = (ofText options.isColor (variableText ++ main)).get? name ↔
        ∀ i color, IsOpen ds more i → Gives options.isColor (ds ++ more) i name color →
          (∀ j other, i < j → ¬ Gives options.isColor (ds ++ more) j name other) →
            merged = some color) := by
  intro ds more merged
  have hmerged : IsLastOf (GivesApart options.isColor ds more name) merged := by
    rw [show merged = _ from get?_colorMap options variableText main name]
    exact isLastOf_givesApart (isLastGiven_ofText ..) (isLastGiven_ofText ..)
  have hsingle := isLastGiven_ofText options.isColor (variableText ++ main) name
  rw [declarations_append hend, isLastGiven_iff] at hsingle
  exact ⟨hmerged, hmerged.eq_iff (fun _ _ _ h h' => h.unique h') hsingle⟩

/-- Options under which no other values are colors. -/
def plainOptions : Options := .of (.ofString "lib") (.ofString "styles")

/-- The main file declares an alias anew, of a name of the variable text: the color is that of the
variable text. -/
theorem colorMap_exact_overridden :
    let library := "@blue-6: #1890ff;\n@link-color: #000;\n".toList
    let main := "@link-color: @blue-6;\n".toList
    library.getLast? = some '\n' ∧
      IsLastOf (GivesApart plainOptions.isColor (declarations library) (declarations main)
        "@link-color".toList) (some "#000".toList) := by
  intro library main
  refine ⟨by decide, ?_⟩
  have hget : (colorMap plainOptions library (some main)).get? "@link-color".toList =
      some "#000".toList := by decide +kernel
  exact hget ▸ (colorMap_exact plainOptions main "@link-color".toList (by decide)).1

/-- Without a color in the variable text it has none, but one scan of both texts finds one. -/
theorem colorMap_without_library_alias :
    let library := "@blue-6: #1890ff;\n".toList
    let main := "@link-color: @blue-6;\n".toList
    library.getLast? = some '\n' ∧
      (colorMap plainOptions library (some main)).get? "@link-color".toList = none ∧
      (ofText plainOptions.isColor (library ++ main)).get? "@link-color".toList =
        some "#1890ff".toList := by
  decide +kernel

end Generator

end Retint
