import Retint.Proofs.Colors.Shade
import Retint.Proofs.ColorMap.Reading
import Retint.Proofs.Text.Lines

/-!
# One line of a variable text

A declaration on a line of its own is read as it stands there, even if a remark follows it. It is a
declaration of its name and no other; so as far as another name is concerned the line could be left
out, unless the other name is declared later on as an alias, and this alias leads over the name.

## Main definitions

* `Declaration.line` — a line with a declaration, and with what follows on it
* `ColorMap.LeadsOver` — an alias leads over a name

## Main results

* `Declaration.ofLine?_line` — what such a line is read as
* `ColorMap.isLastGiven_without` — another name, with the declaration and without it
* `ColorMap.line_exact` — the headline
* `ColorMap.ofLine?_with_underscore` — a name that is none
-/

namespace Retint

open Text

/-! ### The declaration on a line -/

namespace Declaration

variable {d : Declaration} {tail : Text}

/-- A line that starts with a declaration, and what else is on it. -/
def line (d : Declaration) (tail : Text) : Text := d.name ++ ": ".toList ++ d.value ++ ';' :: tail

/-- The name is read as it stands, and the value up to the last semicolon of the line. -/
theorem ofLine?_line (h : IsMarked d.name) (tail : Text) :
    ofLine? (d.line tail) = (cutLast? ';' (d.value ++ ';' :: tail)).map fun (value, _) =>
      ⟨d.name, trim value⟩ := by
  obtain ⟨⟨n, hn, hchars⟩, hmark⟩ := h
  have hline : d.line tail = '@' :: (n ++ ':' :: ' ' :: (d.value ++ ';' :: tail)) := by
    simp [line, hn]
  have hcolon : isNameChar ':' = false := by decide
  have hcontains : (n.contains '-' || n.contains '\'') = true := by
    rw [hn] at hmark
    simpa using hmark
  have hcut : cut? ':' (':' :: ' ' :: (d.value ++ ';' :: tail)) =
      some ([], ' ' :: (d.value ++ ';' :: tail)) := cut?_append_cons List.not_mem_nil _
  have hblank : isBlank ' ' = true := by decide
  simp only [hline, ofLine?, takeWhile_append_cons hchars hcolon,
    dropWhile_append_cons hchars hcolon, hcontains, if_true, hcut, hblank, hn]

theorem name_of_ofLine?_line {e : Declaration} (h : IsMarked d.name)
    (he : ofLine? (d.line tail) = some e) : e.name = d.name := by
  rw [ofLine?_line h, Option.map_eq_some_iff] at he
  obtain ⟨-, -, rfl⟩ := he
  rfl

/-- Without another semicolon on the line the declaration itself is read. -/
theorem ofLine?_line_of_not_mem (h : IsMarked d.name) (hvalue : trim d.value = d.value)
    (htail : ';' ∉ tail) : ofLine? (d.line tail) = some d := by
  simp only [ofLine?_line h, cutLast?_append_cons d.value htail, Option.map_some, hvalue]

end Declaration

namespace ColorMap

open Alias Declaration

variable {isColor : Text → Bool} {before after : List Declaration} {d e : Declaration}
  {name other color content content' : Text}

/-! ### Without a declaration -/

/-- The declaration is an alias that leads, by way of the declarations before it, over the name. -/
def LeadsOver (before : List Declaration) (d : Declaration) (name : Text) : Prop :=
  isAlias d.value = true ∧ ∃ chain, IsChain (latest before) d.value chain ∧ name ∈ chain

theorem latest_without (h : other ≠ d.name) :
    latest (before ++ d :: after) other = latest (before ++ after) other := by
  rw [List.append_cons, latest_append, latest_concat, if_neg h, latest_append]

/-- A declaration that does not lead over a name comes to the same without what is declared for
it. -/
theorem comesTo_without (h : ¬ LeadsOver (before ++ after) e d.name) :
    ComesTo (before ++ d :: after) e color ↔ ComesTo (before ++ after) e color := by
  unfold ComesTo
  split
  · rename_i halias
    refine (endsIn_latest_congr fun chain hchain a ha => ?_).symm
    -- The two differ in what is declared for the name, and the chain does not come to it.
    have hne : a ≠ d.name := by
      rintro rfl
      exact h ⟨halias, chain, hchain, ha⟩
    rw [latest_without hne]
  · rfl

/-- **Without a declaration** another name has what it has with it, unless a later declaration of
the other name leads over the name that is declared. -/
theorem isLastGiven_without (isColor : Text → Bool) (hname : d.name ≠ other)
    (hover : ∀ l e r, after = l ++ e :: r → e.name = other → ¬ LeadsOver (before ++ l) e d.name) :
    ∃ given, IsLastGiven isColor (before ++ d :: after) other given ∧
      IsLastGiven isColor (before ++ after) other given := by
  induction after using List.reverseRecOn with
  | nil =>
    obtain ⟨s, hs⟩ := exists_reads isColor before
    refine ⟨_, (hs.colors other).concat fun _ heq => absurd heq hname, ?_⟩
    rw [List.append_nil]
    exact hs.colors other
  | append_singleton after e ih =>
    obtain ⟨given, hwith, hwithout⟩ := ih fun l e' r hsplit =>
      hover l e' (r ++ [e]) (by rw [hsplit, List.append_assoc, List.cons_append])
    rw [← List.cons_append, ← List.append_assoc, ← List.append_assoc]
    by_cases heq : e.name = other
    · subst heq
      have hsame : ∀ color, ComesTo (before ++ d :: after) e color ↔
          ComesTo (before ++ after) e color := fun _ =>
        comesTo_without (hover after e [] rfl rfl)
      by_cases hgives : ∃ color, ComesTo (before ++ after) e color ∧ isColor color = true
      · obtain ⟨color, hcomes, hcolor⟩ := hgives
        exact ⟨some color, isLastGiven_concat ((hsame color).mpr hcomes) hcolor,
          isLastGiven_concat hcomes hcolor⟩
      · have hnone : ∀ color, ComesTo (before ++ after) e color → isColor color = false :=
          fun color hcomes => Bool.eq_false_iff.mpr fun hcolor => hgives ⟨color, hcomes, hcolor⟩
        exact ⟨given, hwith.concat fun color _ hcomes => hnone color ((hsame color).mp hcomes),
          hwithout.concat fun color _ => hnone color⟩
    · exact ⟨given, hwith.concat fun _ h => absurd h heq, hwithout.concat fun _ h => absurd h heq⟩

/-- The same for a line that declares the name, if it declares any. -/
theorem get?_ofText_without {line : Text} {ls ls' : List Text}
    (hwith : lines content = ls ++ line :: ls') (hwithout : lines content' = ls ++ ls')
    (hline : ∀ e, declarationOn? line = some e → e.name = name) (hname : name ≠ other)
    (hover : ∀ l e r, ls'.filterMap declarationOn? = l ++ e :: r → e.name = other →
      ¬ LeadsOver (ls.filterMap declarationOn? ++ l) e name) :
    (ofText isColor content).get? other = (ofText isColor content').get? other := by
  have hcontent := isLastGiven_ofText isColor content other
  have hcontent' := isLastGiven_ofText isColor content' other
  simp only [declarations, hwith, hwithout, List.filterMap_append, List.filterMap_cons]
    at hcontent hcontent'
  cases hd : declarationOn? line with
  | none => exact (hd ▸ hcontent).unique hcontent'
  | some d =>
    obtain rfl := hline d hd
    obtain ⟨given, hgiven, hgiven'⟩ := isLastGiven_without isColor hname hover
    rw [hd] at hcontent
    exact (hcontent.unique hgiven).trans (hgiven'.unique hcontent')

/-! ### A line with a declaration -/

/-- A text of this line alone gives the name its color. -/
theorem get?_ofText_line (hname : IsMarked d.name) (hvalue : trim d.value = d.value)
    (halias : isAlias d.value = false) (hfeed : '\n' ∉ d.line [])
    (hcolor : isColor d.value = true) :
    (ofText isColor (d.line [])).get? d.name = some d.value := by
  have hlines : lines (d.line []) = [d.line []] := lines_of_not_mem hfeed (by simp [line])
  have hcandidate : isCandidate (d.line []) = true := by
    obtain ⟨n, hn, -⟩ := hname.isName
    simp [isCandidate, line, hn]
  have hds : declarations (d.line []) = [] ++ [d] := by
    simp [declarations, hlines, declarationOn?, hcandidate,
      ofLine?_line_of_not_mem hname hvalue List.not_mem_nil]
  have hcomes : ComesTo [] d d.value := by simp [ComesTo, halias]
  have hgiven := isLastGiven_ofText isColor (d.line []) d.name
  rw [hds] at hgiven
  exact hgiven.unique (isLastGiven_concat hcomes hcolor)

/-- **A line with a declaration** of a name that a theme takes notice of, and with a value that has
no white space around it. If there is no other semicolon on the line, it is read as just this
declaration. Whatever follows on the line, it changes nothing for any other name: the color map has
the same for it without the line, unless the other name is declared later on as an alias that leads
over the name. -/
theorem line_exact (isColor : Text → Bool) (tail : Text) (hname : IsMarked d.name)
    (hvalue : trim d.value = d.value) :
    (';' ∉ tail → ofLine? (d.line tail) = some d) ∧
      ∀ (content content' : Text) (ls ls' : List Text), lines content = ls ++ d.line tail :: ls' →
        lines content' = ls ++ ls' → ∀ other, d.name ≠ other →
          (∀ l e r, ls'.filterMap declarationOn? = l ++ e :: r → e.name = other →
            ¬ LeadsOver (ls.filterMap declarationOn? ++ l) e d.name) →
          (ofText isColor content).get? other = (ofText isColor content').get? other := by
  refine ⟨ofLine?_line_of_not_mem hname hvalue, ?_⟩
  intro content content' ls ls' hwith hwithout other hother hover
  refine get?_ofText_without hwith hwithout (fun e he => ?_) hother hover
  unfold declarationOn? at he
  split at he
  · exact name_of_ofLine?_line hname he
  · cases he

/-- The declaration of a link's color, with a remark. -/
theorem line_exact_remarked :
    let d : Declaration := ⟨"@link-color".toList, "#1890ff".toList⟩
    let tail := " // was: @blue-6".toList
    let content := "@blue-6: red;\n".toList ++ d.line tail ++ "\n@text-color: @blue-6;\n".toList
    (IsMarked d.name ∧ trim d.value = d.value) ∧ ofLine? (d.line tail) = some d ∧
      (ofText (Color.isColor []) content).get? "@blue-6".toList =
        (ofText (Color.isColor []) "@blue-6: red;\n@text-color: @blue-6;\n".toList).get?
          "@blue-6".toList := by
  intro d tail content
  have hname : IsMarked d.name := ⟨⟨"link-color".toList, rfl, by decide⟩, .inl (by decide)⟩
  have hvalue : trim d.value = d.value := by decide
  obtain ⟨hread, hothers⟩ := line_exact (Color.isColor []) tail hname hvalue
  refine ⟨⟨hname, hvalue⟩, hread (by decide), ?_⟩
  refine hothers content _ ["@blue-6: red;".toList] ["@text-color: @blue-6;".toList]
    (by decide +kernel) (by decide +kernel) _ (by decide) ?_
  intro l e r hsplit he
  have hlater : e ∈ ["@text-color: @blue-6;".toList].filterMap declarationOn? := by
    rw [hsplit]
    simp
  have hall : ∀ e ∈ ["@text-color: @blue-6;".toList].filterMap declarationOn?,
      e.name ≠ "@blue-6".toList := by decide
  exact absurd he (hall e hlater)

/-- An underscore does not belong to a name: a line with a name that starts with `@my_own` is not
read as a declaration. -/
theorem ofLine?_with_underscore :
    let d : Declaration := ⟨"@my_own-color".toList, "#fff".toList⟩
    (∀ c ∈ d.name.tail, c.isAlphanum = true ∨ c = '-' ∨ c = '_') ∧ '-' ∈ d.name ∧
      trim d.value = d.value ∧ ';' ∉ d.value ∧ ofLine? (d.line []) = none := by
  decide

end ColorMap

end Retint
