import Retint.Proofs.Colors.Attribution
import Retint.Proofs.Generator.Cached
import Retint.Proofs.Theme.Probes

/-!
# What a theme is made of

A generation that comes to a theme has gone through all of its stages, unless it found the theme in
the cache. So the theme is made of four texts that the stages hand on: the variable text, what the
compiler made of it and the probes, what the compiler made of the library's styles, and the custom
styles. What each of them is does not depend on the order in which the compilations took their
steps.

## Main definitions

* `Generator.Parts` — the texts that a theme is made of
* `Generator.Parts.IsFrom` — they come from the variable file and the compiler

## Main results

* `Action.run_both_request` — the reply to a request that runs together with an action
* `Generator.exists_parts` — the texts of a theme that is made
* `Generator.Parts.IsFrom.isProbed` — a variable text without rules
* `Generator.generate_attributed_iff` — when all colors in a theme go by names of its variables
-/

namespace Retint

variable {compiler : Compiler}

namespace Action

variable {β : Type}

/-- The reply to a request that runs together with an action is one that the surroundings give at
some step of it. -/
theorem run_both_request (compiler : Compiler) (r : Request) : ∀ (q : Action β) (s : Surroundings),
    ∃ t : Surroundings, (run compiler (both (request r) q) s).1.1 = (t.answer compiler r).1
  | done _, s => ⟨s, rfl⟩
  | ask q more, s => by
    have hnow : ∀ t : Surroundings, (run compiler (ask r fun reply =>
        both (done reply) (ask q more)) t).1.1 = (t.answer compiler r).1 := by
      intro t
      simp only [run, both, run_bind]
    have hstep : (run compiler (both (request r) (ask q more)) s).1.1 =
        (run compiler (if s.turns.headD true then ask r fun reply => both (done reply) (ask q more)
          else ask q fun reply => both (request r) (more reply))
          { s with turns := s.turns.tail }).1.1 := rfl
    rw [hstep]
    split
    · exact ⟨_, hnow _⟩
    · exact run_both_request compiler r (more _) _

end Action

namespace Generator

open Stage

/-! ### The texts of a theme -/

/-- Where the imports of the library's styles and of the probes are looked for. -/
def includes (options : Options) : List Path :=
  [options.libraryDir.join Library.styleDir, options.stylesDir]

/-- The texts that a theme is made of, and the files that the library's styles are compiled with. -/
structure Parts where
  files : FileSystem
  variableText : Text
  probeCss : Text
  libraryCss : Text
  customCss : Text

namespace Parts

variable (options : Options) (sources : Sources) (parts : Parts)

/-- The theme variables that have a color. -/
def selected : List (Text × Text) :=
  select options.themeVariables (colorMap options parts.variableText sources.custom)

/-- The colors of the probes. -/
def table : ColorTable := ColorTable.ofCss parts.probeCss

/-- The stylesheet that the colors are replaced in. -/
def css : Text := Sheet.reduce (parts.customCss ++ '\n' :: parts.libraryCss)

/-- The theme that is made of the texts. -/
def theme : Text :=
  Assembly.theme (parts.table.substitute parts.css) parts.variableText
    (parts.selected options sources)

/-- The texts come from the variable file and from the compiler, at some steps of a generation. -/
structure IsFrom (compiler : Compiler) (importLimit : Nat) : Prop where
  flattened : ∃ s, (Action.run compiler
    (Bundle.bundle diskSource importLimit options.variableFile) s).1 = .ok parts.variableText
  probes : ∃ files, (compiler.compile files
    (parts.variableText ++ '\n' :: Probe.text (parts.selected options sources))
    (includes options)).1 = .ok parts.probeCss
  library : (compiler.compile parts.files (sources.content ++ '\n' :: parts.variableText)
    (includes options)).1 = .ok parts.libraryCss

end Parts

variable {importLimit : Nat} {options : Options} {sources : Sources} {s s' : Surroundings}
  {theme : Text}

theorem exists_compile (compiler : Compiler) (s : Surroundings) (source : Text)
    (includes : List Path) :
    ∃ files, (s.answer compiler (.compile source includes)).1 =
      (compiler.compile files source includes).1 := ⟨_, rfl⟩

/-- **The texts of a theme that is made.** -/
theorem exists_parts
    (h : Action.run compiler (produce importLimit options sources).run s = (.ok theme, s')) :
    ∃ parts : Parts, parts.IsFrom options sources compiler importLimit ∧
      theme = parts.theme options sources := by
  unfold produce at h
  obtain ⟨variableText, s₁, hvariables, h⟩ := exists_of_run_bind h
  obtain ⟨-, s₂, -, h⟩ := exists_of_run_bind h
  obtain ⟨-, s₃, -, h⟩ := exists_of_run_bind h
  obtain ⟨s₄, h⟩ := exists_of_run_ite h
  obtain ⟨probeCss, s₅, hprobes, h⟩ := exists_of_run_bind h
  obtain ⟨-, s₆, -, h⟩ := exists_of_run_bind h
  obtain ⟨⟨library, customCss⟩, s₇, hlibrary, h⟩ := exists_of_run_bind h
  obtain ⟨libraryCss, s₈, hcompiled, h⟩ := exists_of_run_bind h
  obtain ⟨-, s₉, -, h⟩ := exists_of_run_bind h
  obtain ⟨files, hfiles⟩ : ∃ files, (compiler.compile files
      (sources.content ++ '\n' :: variableText) (includes options)).1 = .ok libraryCss := by
    obtain ⟨t, ht⟩ := Action.run_both_request compiler
      (.compile (sources.content ++ '\n' :: variableText) (includes options))
      (CustomStyles.compile options.stylesDir options.libraryDir) s₆
    obtain ⟨files, hfiles⟩ := exists_compile compiler t (sources.content ++ '\n' :: variableText)
      (includes options)
    have hreply : library = .ok libraryCss := congrArg Prod.fst hcompiled
    rw [run_of] at hlibrary
    have hboth := congrArg Prod.fst (Except.ok.inj (congrArg Prod.fst hlibrary))
    exact ⟨files, (hfiles.symm.trans ht.symm).trans (hboth.trans hreply)⟩
  refine ⟨⟨files, variableText, probeCss, libraryCss, customCss⟩,
    ⟨⟨s, congrArg Prod.fst hvariables⟩, ?_, hfiles⟩, (Except.ok.inj (congrArg Prod.fst h)).symm⟩
  obtain ⟨files, hfiles⟩ := exists_compile compiler s₄
    (variableText ++ '\n' :: Probe.text (select options.themeVariables
      (colorMap options variableText sources.custom))) (includes options)
  exact ⟨files, hfiles.symm.trans (congrArg Prod.fst hprobes)⟩

theorem exists_of_compute
    (h : Action.run compiler (compute importLimit options sources).run s = (.ok theme, s')) :
    ∃ t, Action.run compiler (produce importLimit options sources).run s = (.ok theme, t) := by
  obtain ⟨made, t, hmade, h⟩ := exists_of_run_bind h
  refine ⟨t, hmade.trans ?_⟩
  have hlogged : ∀ (message : Text) (t : Surroundings), Action.run compiler (do
      of (Action.log .info message)
      return made : Stage Text).run t = (.ok theme, s') → made = theme := by
    intro message t hlog
    obtain ⟨-, u, -, hdone⟩ := exists_of_run_bind hlog
    exact Except.ok.inj (congrArg Prod.fst hdone)
  cases hfile : options.outputFile with
  | none =>
    simp only [hfile] at h
    rw [hlogged _ t h]
  | some path =>
    simp only [hfile] at h
    obtain ⟨-, u, -, hlog⟩ := exists_of_run_bind h
    rw [hlogged _ u hlog]

/-- **Where a theme comes from:** the cache, or the texts that it is made of. -/
theorem exists_of_generate
    (h : Action.run compiler (generate importLimit options).run s = (.ok theme, s')) :
    ∃ sources t, Action.run compiler (load options).run s = (.ok sources, t) ∧
      (t.cache.get? (Digest.ofText sources.content) = some theme ∨
        ∃ parts : Parts, parts.IsFrom options sources compiler importLimit ∧
          theme = parts.theme options sources) := by
  obtain ⟨sources, hloaded, ⟨hfound, -⟩ | ⟨-, u, hmade, -⟩⟩ := generate_ok_cases h
  · exact ⟨sources, s, hloaded, .inl hfound⟩
  · obtain ⟨t, hproduced⟩ := exists_of_compute hmade
    exact ⟨sources, s, hloaded, .inr (exists_parts hproduced)⟩

/-! ### Whose colors are replaced -/

/-- A variable text without rules: all names in the table are asked for. -/
theorem Parts.IsFrom.isProbed {parts : Parts}
    (h : parts.IsFrom options sources Flat.compiler importLimit)
    (hlines : ∀ l ∈ Text.splitOn '\n' parts.variableText, ∃ d, Theme.IsVariableLine l d)
    (hselected : ∀ e ∈ parts.selected options sources, Theme.IsEntry e ∧ '/' ∉ e.2) :
    ∀ name ∈ parts.table.names, Probe.IsProbed (parts.selected options sources) name := by
  intro name hname
  obtain ⟨files, hfiles⟩ := h.probes
  obtain ⟨css, hcss, htable⟩ := Theme.compile_probes hlines hselected files (includes options)
  obtain rfl : css = parts.probeCss := Except.ok.inj (hcss.symm.trans hfiles)
  rw [Parts.table, htable] at hname
  obtain ⟨e, he, rfl⟩ := List.mem_map.mp hname
  obtain ⟨r, hr, rfl⟩ := List.mem_map.mp (Dict.mem_ofList he)
  exact Probe.isProbed_key (fun e he => (hselected e he).1.name.isMarked) hr

/-- **When all colors in a theme go by names of its variables.** A theme comes from the cache, or
the names in the table that it is made with are its variables and their shades exactly if the
stylesheet compiled from the variable text and the probes has no other rule that looks like a
probe. -/
theorem generate_attributed_iff (importLimit : Nat) (options : Options)
    (h : Action.run compiler (generate importLimit options).run s = (.ok theme, s')) :
    ∃ sources t, Action.run compiler (load options).run s = (.ok sources, t) ∧
      (t.cache.get? (Digest.ofText sources.content) = some theme ∨
        ∃ parts : Parts, parts.IsFrom options sources compiler importLimit ∧
          theme = parts.theme options sources ∧
          ((∀ name ∈ parts.table.names, Probe.IsProbed (parts.selected options sources) name) ↔
            ∀ name value, ColorTable.HasRule (ColorTable.stripComments parts.probeCss) name value →
              ColorTable.isConcrete (Text.trim value) = true →
                Probe.IsProbed (parts.selected options sources) ('@' :: name))) := by
  obtain ⟨sources, t, hloaded, hfrom⟩ := exists_of_generate h
  refine ⟨sources, t, hloaded, hfrom.imp_right ?_⟩
  rintro ⟨parts, hparts, htheme⟩
  refine ⟨parts, hparts, htheme, fun hall name value hrule hcolor => ?_, fun hall key hkey => ?_⟩
  · exact hall _ (ColorTable.mem_names_ofCss_iff.mpr ⟨name, value, hrule, hcolor, rfl⟩)
  · obtain ⟨name, value, hrule, hcolor, rfl⟩ := ColorTable.mem_names_ofCss_iff.mp hkey
    exact hall name value hrule hcolor

/-- A variable file with a rule in it. -/
def boxedVariables : Text := "@primary-color: #1890ff;\n.my-box \x7b color: #fff; \x7d\n".toList

/-- A library with this variable file, and a style with the color of the rule. -/
def boxedWorld : Surroundings where
  files := ⟨.dir [("lib".toList, .dir [("style".toList, .dir [
    ("index.less".toList, .file (.text ".btn \x7b color: #fff; \x7d\n".toList) false),
    ("themes".toList, .dir [("default.less".toList, .file (.text boxedVariables) false)])])])], []⟩

/-- The options for it, with the default variables. -/
def boxedOptions : Options := .of ⟨"lib".toList⟩ ⟨"styles".toList⟩

/-- The theme that is made of it. -/
def boxedTheme : Text :=
  "@primary-color: #1890ff;\n\n.my-box \x7b color: #fff; \x7d\n\n\n".toList ++
    ".btn \x7b\n  color: @my-box;\n\x7d\n.my-box \x7b\n  color: @my-box;\n\x7d\n\n".toList

theorem generate_boxed :
    (Action.run Flat.compiler (generate 2 boxedOptions).run boxedWorld).1.toOption =
      some boxedTheme := by
  decide +kernel

/-- The rule is the one that looks like a probe and is none. -/
theorem generate_attributed_iff_boxed :
    ∃ theme s',
      Action.run Flat.compiler (generate 2 boxedOptions).run boxedWorld = (.ok theme, s') ∧
      ∃ sources, ∃ parts : Parts, theme = parts.theme boxedOptions sources ∧
        ((∀ name ∈ parts.table.names,
            Probe.IsProbed (parts.selected boxedOptions sources) name) ↔
          ∀ name value, ColorTable.HasRule (ColorTable.stripComments parts.probeCss) name value →
            ColorTable.isConcrete (Text.trim value) = true →
              Probe.IsProbed (parts.selected boxedOptions sources) ('@' :: name)) := by
  cases hrun : Action.run Flat.compiler (generate 2 boxedOptions).run boxedWorld with
  | mk result s' =>
    have hmade := generate_boxed
    rw [hrun] at hmade
    cases result with
    | error => cases hmade
    | ok theme =>
      obtain ⟨sources, t, hloaded, hfound | ⟨parts, -, htheme, hiff⟩⟩ :=
        generate_attributed_iff 2 boxedOptions hrun
      · have hcache := Action.run_cache Flat.compiler
          (Action.Asks.isCacheFree (asks_load boxedOptions)) boxedWorld {}
        rw [show ({ boxedWorld with cache := {} } : Surroundings) = boxedWorld from rfl,
          hloaded] at hcache
        rw [(congrArg Surroundings.cache (congrArg Prod.snd hcache))] at hfound
        cases hfound
      · exact ⟨theme, s', rfl, sources, parts, htheme, hiff⟩

/-- The name of the rule stands for its color in the theme, though the theme has no variable or
shade of this name. -/
theorem attributed_to_box :
    (Action.run Flat.compiler (generate 2 boxedOptions).run boxedWorld).1.toOption =
        some boxedTheme ∧
      Text.contains "  color: @my-box;\n".toList boxedTheme = true ∧
      ¬ Probe.IsProbed (select boxedOptions.themeVariables
        (colorMap boxedOptions boxedVariables none)) "@my-box".toList :=
  ⟨generate_boxed, by decide, by decide +kernel⟩

end Generator

end Retint
