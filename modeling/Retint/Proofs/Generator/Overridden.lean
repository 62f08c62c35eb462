import Retint.Proofs.ColorMap.Joined
import Retint.Proofs.Generator.Made
import Retint.Proofs.Theme.FlatSource
import Retint.Proofs.Theme.Leftover
import Retint.Proofs.Theme.ProbeKeys
import Retint.Proofs.Theme.Restored

/-!
# Whose color a variable has

A main file can declare a variable of the library with a color of its own. Which of the two colors
counts is settled twice. The color map, from which the probes and the head of the theme are made,
is that of the variable text with the colors of the main file put over it. The compiler reads one
source, in which the variable text stands after the main file, and of two declarations the later
one counts. So a variable that the main file colors is compiled with the main file's color exactly
if what counts for the compiler comes to the same color: the last declaration in the variable text
if it has one, and only else one in the main file.

## Main results

* `Theme.exists_theme_line` — a property with a color of the table in a theme
* `Generator.overridden_iff` — when the compiler agrees with the color map
* `Generator.override_lost` — a run where it does not
-/

namespace Retint

open Text Color Flat

/-! ### Properties of a theme -/

namespace Theme

variable {selected : List (Text × Text)} {css variableText p x y : Text} {table : ColorTable}
  {e : Text × Text}

/-- **A property with a color of the table** in the stylesheet has the name of the color in the
theme, or its palette call, if no other name has the same color and the color can be looked for. -/
theorem exists_theme_line (variableText : Text) (hnames : ∀ e ∈ selected, Declaration.IsName e.1)
    (h : table.IsPlain) (hat : '@' ∉ css) (htick : '`' ∉ css) (he : e ∈ table.searched.entries)
    (honly : ∀ e' ∈ table.entries, e'.2 = e.2 → e'.1 = e.1) (hp : IsBare p)
    (hcss : css = x ++ '\n' :: (propertyLine p e.2 ++ y)) :
    ∃ x' y', Assembly.theme (table.substitute css) variableText selected =
      x' ++ '\n' :: (propertyLine p (ColorTable.replacement e.1) ++ y') := by
  have hliteral := h.searched.literal
  have hsubstituted : table.substitute css = replaceWith table.searched.find? x ++
      '\n' :: (propertyLine p (ColorTable.replacement e.1) ++
        replaceWith table.searched.find? y) := by
    have hbefore := ColorTable.turns_find?_concat hliteral (c := '\n') (by decide) (by decide) x
    have hvalue := ColorTable.turns_find?_propertyLine hliteral (hp.not_mem _ (by decide))
      (isToken_of_isLiteral (hliteral e he))
    rw [ColorTable.replaceEnd_entry hliteral he fun e' he' hsame => by
      rw [honly e' (ColorTable.mem_searched.mp he').1 hsame]] at hvalue
    have hall := hbefore.append hvalue y
    rw [ColorTable.substitute_eq_replaceWith h hat htick, hcss]
    simpa only [List.append_assoc, List.cons_append, List.nil_append] using hall
  have hmark : '\\' ∉ propertyLine p (ColorTable.replacement e.1) := by
    rw [propertyLine_eq]
    simp only [List.mem_append, not_or]
    exact ⟨⟨⟨⟨⟨by decide, hp.unsigned _ (by decide)⟩, by decide⟩, by decide⟩,
      ColorTable.not_mem_replacement (h.searched.name e he) (by decide), by decide⟩, by decide⟩
  have hkept : replaceWith hackFind (table.substitute css) =
      replaceWith hackFind (replaceWith table.searched.find? x) ++
        '\n' :: (propertyLine p (ColorTable.replacement e.1) ++
          replaceWith hackFind (replaceWith table.searched.find? y)) := by
    rw [hsubstituted, hack_append_cons (by decide), startsWith_hackFind.turns hmark]
  refine ⟨Text.replace Assembly.hackToken [] (head variableText selected) ++
    '\n' :: replaceWith hackFind (replaceWith table.searched.find? x), replaceWith hackFind
      (replaceWith table.searched.find? y) ++ List.replicate selected.length '\n', ?_⟩
  have hreplaced : Text.replace Assembly.hackToken [] (table.substitute css) =
      replaceWith hackFind (table.substitute css) := rfl
  rw [theme_substitute_eq hnames h hat htick, hreplaced, hkept]
  simp only [List.append_assoc, List.cons_append]

end Theme

namespace Generator

variable {importLimit : Nat} {options : Options} {sources : Sources} {parts : Parts}
  {library main name color : Text} {bs cs : List Block}

/-! ### The selected variables -/

theorem isMarked_of_get? {content : Text}
    (h : (ColorMap.ofText options.isColor content).get? name = some color) :
    Declaration.IsMarked name :=
  Theme.isMarked_of_contains (Option.isSome_iff_exists.mpr ⟨color, h⟩)

/-- The theme variables that have a color are marked. -/
theorem isMarked_of_mem_selected {e : Text × Text} (he : e ∈ parts.selected options sources) :
    Declaration.IsMarked e.1 := by
  obtain ⟨name, -, hname⟩ := List.mem_filterMap.mp he
  obtain ⟨color, hcolor, rfl⟩ := Option.map_eq_some_iff.mp hname
  cases hcustom : sources.custom with
  | none =>
    rw [hcustom] at hcolor
    exact isMarked_of_get? hcolor
  | some main =>
    rw [hcustom, get?_colorMap, Option.or_eq_some_iff] at hcolor
    exact hcolor.elim isMarked_of_get? fun h => isMarked_of_get? h.2

/-! ### Whose color the compiler takes -/

theorem reads_of_isFlatSource {t : Text} (h : Theme.IsFlatSource (splitOn '\n' t) bs) :
    ∃ out, Reads (t ++ ['\n']) out ∧ IsBody (out.flatMap Line.body) bs := by
  rw [← flatMap_splitOn]
  exact h.reads fun l hl => not_mem_of_mem_splitOn hl

/-- Between the library's styles and the variable text: what is declared last counts. -/
theorem get?_declaredIn_source (hlibrary : Theme.IsFlatSource (splitOn '\n' library) bs)
    (hmain : Theme.IsFlatSource (splitOn '\n' main) cs) (variableText name : Text) :
    (declaredIn (library ++ '\n' :: (main ++ '\n' :: variableText))).get? name =
      ((declaredIn variableText).get? name).or
        (((declaredIn (main ++ ['\n'])).get? name).or
          ((declaredIn (library ++ ['\n'])).get? name)) := by
  obtain ⟨ls, hls, -⟩ := reads_of_isFlatSource hlibrary
  obtain ⟨ms, hms, -⟩ := reads_of_isFlatSource hmain
  have hsource : library ++ '\n' :: (main ++ '\n' :: variableText) =
      library ++ ['\n'] ++ (main ++ ['\n'] ++ variableText) := by simp
  rw [hsource, hls.get?_declaredIn, hms.get?_declaredIn, Option.or_assoc]

/-- The rules of the library and of the main file come first in what is compiled, with their values
evaluated. -/
theorem exists_libraryCss_eq (hparts : parts.IsFrom options sources Flat.compiler importLimit)
    (hinlined : inlineImports parts.files (includes options) importDepth
      (sources.content ++ '\n' :: parts.variableText) =
        .ok (library ++ '\n' :: (main ++ '\n' :: parts.variableText)))
    (hlibrary : Theme.IsFlatSource (splitOn '\n' library) bs)
    (hmain : Theme.IsFlatSource (splitOn '\n' main) cs) :
    ∃ more, parts.libraryCss = ((bs ++ cs).flatMap fun b => (b.mapValues (evaluate
      (declaredIn (library ++ '\n' :: (main ++ '\n' :: parts.variableText))))).text) ++ more := by
  obtain ⟨ls, hls, hbody⟩ := reads_of_isFlatSource hlibrary
  obtain ⟨ms, hms, hbody'⟩ := reads_of_isFlatSource hmain
  have hsource : library ++ '\n' :: (main ++ '\n' :: parts.variableText) =
      library ++ ['\n'] ++ (main ++ ['\n']) ++ parts.variableText := by simp
  have hcompiled : compileInlined (library ++ ['\n'] ++ (main ++ ['\n']) ++ parts.variableText) =
      .ok parts.libraryCss := by
    have hlibraryCss : compile parts.files (sources.content ++ '\n' :: parts.variableText)
        (includes options) = .ok parts.libraryCss := hparts.library
    rwa [compile, hinlined, hsource] at hlibraryCss
  have hbodies : IsBody ((ls ++ ms).flatMap Line.body) (bs ++ cs) := by
    rw [List.flatMap_append]
    exact hbody.append hbody'
  rw [hsource]
  exact exists_compiled_append (hls.append hms) hbodies hcompiled

/-- A variable of a main file comes to a color exactly if it has a value that does. -/
theorem evaluate_eq_iff {declared : Dict Text} (hmain : Theme.IsFlatSource (splitOn '\n' main) cs)
    (hcolor : (ColorMap.ofText options.isColor main).get? name = some color)
    (hliteral : IsLiteral color) :
    evaluate declared name = color ↔
      ∃ value, declared.get? name = some value ∧ evaluateFor declared 15 value = color := by
  obtain ⟨n, rfl, hyphen, hchars⟩ := hmain.isVariable_of_get? hcolor
  have hne : n ≠ [] := List.ne_nil_of_mem hyphen
  have hname : ∀ c ∈ n, Flat.isNameChar c = true := fun c hc =>
    Theme.isNameChar_of_isVariableChar (hchars c hc)
  constructor
  · intro heq
    cases hdeclared : declared.get? ('@' :: n) with
    | none =>
      -- It would be its own color.
      rw [evaluate_name_eq_self hne hname hdeclared] at heq
      exact absurd (heq ▸ List.mem_cons_self ..) (hliteral.not_mem (c := '@') (by decide))
    | some value => exact ⟨value, rfl, (evaluate_name hne hname hdeclared).symm.trans heq⟩
  · rintro ⟨value, hvalue, heq⟩
    exact (evaluate_name hne hname hvalue).trans heq

/-- **When the compiler agrees with the color map.** A theme that was not found in the cache is made
of such parts (`exists_of_generate`). A main file gives a variable a color, and the compiler reads
it between the library's styles and the variable text. The color map has the color of the main file.
The compiler has the rules of the library and of the main file, in which the variable comes to this
color exactly if the value comes to it that counts: the last one in the variable text, else the last
one in the main file, else the last one in the library's styles. Where the stylesheet of the theme
has a property with this color, the theme has it with the variable, if no other name that was asked
for has the same color, and the color has no more than the 327670 bytes with which it can be looked
for. -/
theorem overridden_iff (hparts : parts.IsFrom options sources Flat.compiler importLimit)
    (hcustom : sources.custom = some main)
    (hinlined : inlineImports parts.files (includes options) importDepth
      (sources.content ++ '\n' :: parts.variableText) =
        .ok (library ++ '\n' :: (main ++ '\n' :: parts.variableText)))
    (hlibrary : Theme.IsFlatSource (splitOn '\n' library) bs)
    (hmain : Theme.IsFlatSource (splitOn '\n' main) cs)
    (hcolor : (ColorMap.ofText options.isColor main).get? name = some color)
    (hliteral : IsLiteral color) :
    let declared := declaredIn (library ++ '\n' :: (main ++ '\n' :: parts.variableText))
    (colorMap options parts.variableText sources.custom).get? name = some color ∧
    (∃ more, parts.libraryCss =
      ((bs ++ cs).flatMap fun b => (b.mapValues (evaluate declared)).text) ++ more) ∧
    (evaluate declared name = color ↔
      ∃ value, ((declaredIn parts.variableText).get? name).or
          (((declaredIn (main ++ ['\n'])).get? name).or
            ((declaredIn (library ++ ['\n'])).get? name)) = some value ∧
        evaluateFor declared 15 value = color) ∧
    (parts.table.IsPlain → (name, color) ∈ parts.table.entries → Text.size color ≤ 327670 →
      (∀ e ∈ parts.table.entries, e.2 = color → e.1 = name) →
      ColorTable.replacement name = name → '@' ∉ parts.css → '`' ∉ parts.css →
      ∀ p, IsBare p → ∀ x y, parts.css = x ++ '\n' :: (propertyLine p color ++ y) →
        ∃ x' y', parts.theme options sources = x' ++ '\n' :: (propertyLine p name ++ y')) := by
  intro declared
  refine ⟨?_, exists_libraryCss_eq hparts hinlined hlibrary hmain, ?_, ?_⟩
  · rw [hcustom, get?_colorMap, hcolor, Option.some_or]
  · rw [← get?_declaredIn_source hlibrary hmain]
    exact evaluate_eq_iff hmain hcolor hliteral
  · intro hplain hentry hsize honly hself hat htick p hp x y hcss
    have hnames : ∀ e ∈ parts.selected options sources, Declaration.IsName e.1 := fun _ he =>
      (isMarked_of_mem_selected he).isName
    have hsearched : (name, color) ∈ parts.table.searched.entries :=
      ColorTable.mem_searched.mpr ⟨hentry, ColorTable.canFind_iff.mpr hsize⟩
    have hline := Theme.exists_theme_line parts.variableText hnames hplain hat htick hsearched honly
      hp hcss
    rwa [hself] at hline

/-! ### A main file with a color of its own -/

/-- A main file that gives a variable a color. -/
def linkMain : Text := "@link-color: #123123;\n.app \x7b color: @link-color; \x7d\n".toList

/-- A library with the variable file and a style that its entry imports, and the main file. -/
def linkWorld (variableText : Text) : Surroundings where
  files := ⟨.dir [
    ("lib".toList, .dir [("style".toList, .dir [
      ("index.less".toList, .file (.text "@line-width: 1px;\n@import \"alert\";\n".toList) false),
      ("alert.less".toList,
        .file (.text ".alert \x7b\n  color: @link-color;\n\x7d\n".toList) false),
      ("themes".toList, .dir [("default.less".toList, .file (.text variableText) false)])])]),
    ("app".toList, .dir [("main.less".toList, .file (.text linkMain) false)])], []⟩

/-- The options for them. -/
def linkOptions : Options :=
  { Options.of ⟨"/lib".toList⟩ ⟨"/styles".toList⟩ with
    mainFile := some ⟨"/app/main.less".toList⟩
    themeVariables := ["@link-color".toList] }

/-- What is loaded. -/
def linkSources : Sources where
  content := "@line-width: 1px;\n@import \"alert\";\n\n\n".toList ++ linkMain
  custom := some linkMain

/-- The library's styles with the imported one in them. -/
def linkLibrary : Text :=
  "@line-width: 1px;\n.alert \x7b\n  color: @link-color;\n\x7d\n\n\n".toList

/-- What the theme is made of if the variable text does not declare the variable. -/
def linkParts : Parts :=
  let variableText := "@line-color: #1890ff;\n".toList
  let compiled (source : Text) : Text :=
    ((compile (linkWorld variableText).files source (includes linkOptions)).toOption).getD []
  { files := (linkWorld variableText).files
    variableText := variableText
    probeCss := compiled (variableText ++
      '\n' :: Probe.text [("@link-color".toList, "#123123".toList)])
    libraryCss := compiled (linkSources.content ++ '\n' :: variableText)
    customCss := [] }

theorem eq_ok_of_toOption {ε α : Type} {x : Except ε α} {a : α} (h : x.toOption = some a) :
    x = .ok a := by
  cases x with
  | error => cases h
  | ok b => rw [Option.some.inj h]

theorem isFrom_link : linkParts.IsFrom linkOptions linkSources Flat.compiler 2 :=
  ⟨⟨linkWorld linkParts.variableText, eq_ok_of_toOption (by decide +kernel)⟩,
    ⟨linkParts.files, eq_ok_of_toOption (by decide +kernel)⟩, eq_ok_of_toOption (by decide +kernel)⟩

/-- The blocks of a rule that gives a color. -/
def colorBlock (selector value : Text) : Block := ⟨selector, [("color".toList, value)]⟩

theorem isFlatSource_linkLibrary : Theme.IsFlatSource (splitOn '\n' linkLibrary)
    [colorBlock ".alert".toList "@link-color".toList] := by
  have hsplit : splitOn '\n' linkLibrary =
      [Theme.declarationLine [] "line-width".toList 0 "1px".toList []] ++
        ([".alert \x7b".toList, "  color: @link-color;".toList, "\x7d".toList] ++
          [[], [], []]) := by decide
  have hlines : ∀ l ∈ [".alert \x7b".toList, "  color: @link-color;".toList, "\x7d".toList],
      Theme.IsRuleLine l := by
    simp only [List.forall_mem_cons]
    exact ⟨⟨by decide, by decide, by decide⟩, ⟨by decide, by decide, by decide⟩,
      ⟨by decide, by decide, by decide⟩, nofun⟩
  have hrule : Rule.IsOf ⟨".alert ".toList, "\n  color: @link-color;\n".toList⟩
      (colorBlock ".alert".toList "@link-color".toList) :=
    ⟨by decide, by decide, eq_ok_of_toOption (by decide), by decide⟩
  have hrest := Theme.IsFlatSource.rule hrule hlines (by decide)
    (.line (.blank .nil) (.line (.blank .nil) (.line (.blank .nil) .nil)))
  rw [hsplit]
  exact .line (.declaration .nil .nil ⟨by decide, by decide, by decide, by decide⟩) hrest

theorem isFlatSource_linkMain : Theme.IsFlatSource (splitOn '\n' linkMain)
    [colorBlock ".app".toList "@link-color".toList] := by
  have hsplit : splitOn '\n' linkMain =
      [Theme.declarationLine [] "link-color".toList 0 "#123123".toList []] ++
        ([".app \x7b color: @link-color; \x7d".toList] ++ [[]]) := by decide
  have hlines : ∀ l ∈ [".app \x7b color: @link-color; \x7d".toList], Theme.IsRuleLine l := by
    simp only [List.forall_mem_cons]
    exact ⟨⟨by decide, by decide, by decide⟩, nofun⟩
  have hrule : Rule.IsOf ⟨".app ".toList, " color: @link-color; ".toList⟩
      (colorBlock ".app".toList "@link-color".toList) :=
    ⟨by decide, by decide, eq_ok_of_toOption (by decide), by decide⟩
  have hrest := Theme.IsFlatSource.rule hrule hlines (by decide) (.line (.blank .nil) .nil)
  rw [hsplit]
  exact .line (.declaration .nil .nil ⟨by decide, by decide, by decide, by decide⟩) hrest

/-- The colors of the probes: those of the shades, and the one of the main file. -/
theorem entries_link : linkParts.table.entries = Shade.indices.reverse.map (fun i =>
    (Shade.name "@link-color".toList i, paletteColor (Nat.toDigits 10 i))) ++
      [("@link-color".toList, "#123123".toList)] := by
  decide +kernel

theorem isPlain_link : linkParts.table.IsPlain := by
  have hmarked : Declaration.IsMarked "@link-color".toList :=
    ⟨⟨_, rfl, by decide⟩, by decide⟩
  have hentry : ∀ e ∈ linkParts.table.entries, Declaration.IsName e.1 ∧ IsLiteral e.2 := by
    intro e he
    rw [entries_link, List.mem_append, List.mem_map, List.mem_singleton] at he
    obtain ⟨i, hi, rfl⟩ | rfl := he
    · have hindex := List.mem_reverse.mp hi
      rw [Nat.toDigits_of_lt_base (Shade.lt_ten hindex)]
      exact ⟨(Shade.isMarked_name hmarked i).isName,
        Theme.isLiteral_paletteColor (Theme.mem_shadeDigits hindex)⟩
    · exact ⟨hmarked.isName, .hex (by decide)⟩
  exact ⟨fun e he => (hentry e he).2, fun e he => (hentry e he).1⟩

/-- Without a declaration in the variable text the color is that of the main file. -/
theorem overridden_iff_link :
    let name := "@link-color".toList
    let color := "#123123".toList
    (linkParts.IsFrom linkOptions linkSources Flat.compiler 2 ∧ linkSources.custom = some linkMain ∧
      inlineImports linkParts.files (includes linkOptions) importDepth
        (linkSources.content ++ '\n' :: linkParts.variableText) =
          .ok (linkLibrary ++ '\n' :: (linkMain ++ '\n' :: linkParts.variableText)) ∧
      Theme.IsFlatSource (splitOn '\n' linkLibrary) [colorBlock ".alert".toList name] ∧
      Theme.IsFlatSource (splitOn '\n' linkMain) [colorBlock ".app".toList name] ∧
      (ColorMap.ofText linkOptions.isColor linkMain).get? name = some color ∧ IsLiteral color) ∧
    evaluate (declaredIn (linkLibrary ++ '\n' :: (linkMain ++ '\n' :: linkParts.variableText)))
        name = color ∧
      ∃ x y, linkParts.theme linkOptions linkSources =
        x ++ '\n' :: (propertyLine "color".toList name ++ y) := by
  intro name color
  have hinlined : inlineImports linkParts.files (includes linkOptions) importDepth
      (linkSources.content ++ '\n' :: linkParts.variableText) =
        .ok (linkLibrary ++ '\n' :: (linkMain ++ '\n' :: linkParts.variableText)) :=
    eq_ok_of_toOption (by decide +kernel)
  have hcolor : (ColorMap.ofText linkOptions.isColor linkMain).get? name = some color := by
    decide +kernel
  have hliteral : IsLiteral color := .hex (by decide)
  obtain ⟨-, -, hvalue, htheme⟩ := overridden_iff isFrom_link rfl hinlined isFlatSource_linkLibrary
    isFlatSource_linkMain hcolor hliteral
  refine ⟨⟨isFrom_link, rfl, hinlined, isFlatSource_linkLibrary, isFlatSource_linkMain, hcolor,
    hliteral⟩, hvalue.mpr ?_, ?_⟩
  · exact ⟨color, by decide +kernel, evaluateFor_of_eq 13 (replaceReferences_eq_self (by decide))
      (replaceReferences_eq_self (by decide))⟩
  · have hcss : linkParts.css = "\n.alert \x7b".toList ++
        '\n' :: (propertyLine "color".toList color ++
          "\x7d\n.app \x7b\n  color: #123123;\n\x7d\n".toList) := by decide +kernel
    have hbare : IsBare "color".toList := ⟨⟨by decide, by decide, by decide⟩, by decide, by decide⟩
    exact htheme isPlain_link (by rw [entries_link]; decide) (by decide)
      (by rw [entries_link]; decide) (by decide) (by rw [hcss]; decide) (by rw [hcss]; decide)
      "color".toList hbare _ _ hcss

/-- A variable file with another color for the variable. -/
def linkVariables : Text := "@link-color: #1890ff;\n".toList

/-- The theme that is made then: it starts with the color of the main file, but the rule of the main
file has the color of the variable file. -/
def linkTheme : Text :=
  ("@link-color: #123123;\n\n\n\n.alert \x7b\n  color: #1890ff;\n\x7d\n".toList ++
    ".app \x7b\n  color: #1890ff;\n\x7d\n\n".toList)

/-- With a declaration in the variable text the main file's color is lost. -/
theorem override_lost :
    (colorMap linkOptions linkVariables (some linkMain)).get? "@link-color".toList =
        some "#123123".toList ∧
      (Action.run Flat.compiler (generate 2 linkOptions).run (linkWorld linkVariables)).1.toOption =
        some linkTheme ∧
      Text.contains (propertyLine "color".toList "@link-color".toList) linkTheme = false :=
  ⟨by decide +kernel, by decide +kernel, by decide⟩

end Generator

end Retint
