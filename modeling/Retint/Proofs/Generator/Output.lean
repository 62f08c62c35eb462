import Retint.Proofs.Files.Written
import Retint.Proofs.Generator.Failed

/-!
# Whether the output file is there

A call that makes a theme writes it to the output file that its options name, and has it written
when it returns. A call that finds its theme remembered returns before that: it logs a message and
leaves every file alone. The options are not part of what the digest is taken of, so the call that
made the theme can have been one with another output file, or with none.

The log file is written to after the output file. It is assumed to be another one, since otherwise
no output file could hold the theme alone.

## Main definitions

* `Surroundings.LogsBeside` — the log file is not the file at a path
* `Generator.Visit.after` — what a call leaves behind

## Main results

* `Surroundings.readText_log_iff` — logging a message leaves other files as they are
* `Generator.readText_of_compute` — a theme that has been made has been written
* `Generator.Visit.after_of_ok` — the two ways to succeed
* `Generator.session_output` — the headline: what the output file holds when a call has succeeded
* `Generator.session_output_missing` — it need not be there
-/

namespace Retint

namespace Surroundings

variable {s : Surroundings} {path : Path} {t : Text}

/-- If there is a log file, then it is not the file at the path. -/
def LogsBeside (s : Surroundings) (path : Path) : Prop :=
  ∀ logger, s.logger = some logger → s.files.place? logger.file ≠ s.files.place? path

theorem LogsTo.cache {log : Option (List Text)} (h : s.LogsTo log) (c : Cache) :
    ({ s with cache := c } : Surroundings).LogsTo log := by
  cases log <;> exact h

/-- Logging a message writes the log file or changes no file. -/
theorem log_cases (s : Surroundings) (level : Level) (message : Text) :
    (s.log level message).files = s.files ∨
      ∃ logger content, s.logger = some logger ∧ (s.log level message).logger = some logger ∧
        s.files.write logger.file content = .ok (s.log level message).files := by
  cases hlogger : s.logger with
  | none =>
    left
    simp only [log, hlogger]
  | some logger =>
    by_cases hlevel : level.rank ≤ logger.detail
    · cases hwrite : s.files.write logger.file (.text
          ((s.files.readText logger.file).toOption.getD [] ++ logLine level message)) with
      | error fault =>
        left
        simp only [log, hlogger, if_pos hlevel, hwrite]
        rfl
      | ok files =>
        right
        refine ⟨logger, _, rfl, ?_, hwrite.trans ?_⟩
        · simp only [log, hlogger, if_pos hlevel]
        · simp only [log, hlogger, if_pos hlevel, hwrite]
          rfl
    · left
      simp only [log, hlogger, if_neg hlevel]

/-- A text is there still after a message has been logged to another file. -/
theorem readText_log {level : Level} {message : Text}
    (hbeside : (s.log level message).LogsBeside path) (ht : s.files.readText path = .ok t) :
    (s.log level message).files.readText path = .ok t := by
  rcases log_cases s level message with hsame | ⟨logger, content, -, hlogger, hwrite⟩
  · rw [hsame]
    exact ht
  · exact FileSystem.readText_of_write hwrite (hbeside logger hlogger) ht

/-- Logging a message to a log file that is there leaves other files as they are. -/
theorem readText_log_iff {level : Level} {message : Text} {log : Option (List Text)}
    (hlog : s.LogsTo log) (hbeside : (s.log level message).LogsBeside path) :
    (s.log level message).files.readText path = .ok t ↔ s.files.readText path = .ok t := by
  refine ⟨fun ht => ?_, readText_log hbeside⟩
  rcases log_cases s level message with hsame | ⟨logger, content, hs, hlogger, hwrite⟩
  · rwa [hsame] at ht
  · cases log with
    | none => cases (show s.logger = none from hlog).symm.trans hs
    | some place =>
      obtain ⟨logger', old, executable, hs', hplace, hfile⟩ := hlog
      obtain rfl : logger' = logger := Option.some.inj (hs'.symm.trans hs)
      exact FileSystem.readText_of_replace hplace hfile hwrite (hbeside logger' hlogger) ht

end Surroundings

namespace Generator

open Stage

variable {compiler : Compiler} {s s' : Surroundings} {path : Path} {theme : Text}

/-! ### A theme that is made -/

theorem readText_of_writeText {doing : Text} {u : Unit}
    (h : Action.run compiler
      (orFail doing (Action.request (.writeText path theme))).run s = (.ok u, s')) :
    s'.files.readText path = .ok theme := by
  rw [run_orFail] at h
  simp only [Action.request, Action.run, Surroundings.answer] at h
  cases hwrite : s.files.write path (.text theme) with
  | error fault => simp [hwrite, Surroundings.change] at h
  | ok files =>
    simp only [hwrite, Surroundings.change] at h
    obtain rfl := (Prod.mk.inj h).2
    exact FileSystem.readText_write hwrite

/-- Writing the theme ends with writing the file. -/
theorem readText_of_run_write {u : Unit}
    (h : Action.run compiler (write path theme).run s = (.ok u, s')) :
    s'.files.readText path = .ok theme := by
  unfold write at h
  cases hparent : path.parent? with
  | none =>
    rw [hparent] at h
    exact readText_of_writeText h
  | some dir =>
    rw [hparent] at h
    obtain ⟨t, ht⟩ := exists_of_run_ite h
    exact readText_of_writeText ht

/-- **A theme that has been made has been written**, if the options name a file for it. -/
theorem readText_of_compute {importLimit : Nat} {options : Options} {sources : Sources}
    (hfile : options.outputFile = some path) (hbeside : s'.LogsBeside path)
    (h : Action.run compiler (compute importLimit options sources).run s = (.ok theme, s')) :
    s'.files.readText path = .ok theme := by
  obtain ⟨made, s₁, -, h⟩ := exists_of_run_bind h
  simp only [hfile] at h
  obtain ⟨_, s₂, hwritten, h⟩ := exists_of_run_bind h
  obtain ⟨_, s₃, hlogged, h⟩ := exists_of_run_bind h
  obtain rfl : s₃ = s' := congrArg Prod.snd h
  obtain rfl : made = theme := Except.ok.inj (congrArg Prod.fst h)
  rw [run_of] at hlogged
  obtain rfl : s₂.log .info (successMessage (some path)) = s₃ := congrArg Prod.snd hlogged
  exact Surroundings.readText_log hbeside (readText_of_run_write hwritten)

/-! ### The two ways to succeed -/

/-- What a call leaves behind that finds this cache. -/
def Visit.after (compiler : Compiler) (v : Visit) (cache : Cache) : Surroundings :=
  (Action.run compiler
    (generate (Bundle.treeLimit v.world.files) v.options).run { v.world with cache := cache }).2

/-- **The two ways to succeed.** The theme has been made, and is in the output file; or it has been
remembered, and then a message has been logged and nothing else has been done. -/
theorem Visit.after_of_ok {v : Visit} {cache : Cache} (hfile : v.options.outputFile = some path)
    (hbeside : (v.after compiler cache).LogsBeside path)
    (h : (v.call compiler cache).1 = .ok theme) :
    ∃ digest, v.digest? compiler = some digest ∧
      (cache.get? digest = none ∧ (v.after compiler cache).files.readText path = .ok theme ∨
        cache.get? digest = some theme ∧ v.after compiler cache =
          ({ v.world with cache := cache } : Surroundings).log .info reuseMessage) := by
  have hrun : Action.run compiler (generate (Bundle.treeLimit v.world.files) v.options).run
      { v.world with cache := cache } = (.ok theme, v.after compiler cache) := Prod.ext h rfl
  obtain ⟨sources, hloaded, hcases⟩ := generate_ok_cases hrun
  have hdigest : v.digest? compiler = some (Digest.ofText sources.content) := by
    have hload := Action.run_cache compiler (Action.Asks.isCacheFree (asks_load v.options)) v.world
      cache
    rw [hloaded] at hload
    rw [digest?, ← congrArg Prod.fst hload]
  refine ⟨_, hdigest, ?_⟩
  rcases hcases with ⟨hfound, hafter⟩ | ⟨hnone, t, hmade, hafter⟩
  · exact .inr ⟨hfound, hafter⟩
  · rw [hafter] at hbeside ⊢
    have hwritten : t.files.readText path = .ok theme :=
      readText_of_compute hfile hbeside hmade
    exact .inl ⟨hnone, hwritten⟩

/-! ### Many calls -/

variable {visits : List Visit} {i : Nat} {v : Visit} {log : Option (List Text)}

/-- **What the output file holds** when a call has succeeded that names one, whatever calls there
were before. If no theme is remembered of what is loaded, the file holds the theme. Else the theme
is the one that an earlier call made, and the file holds it if it held it before. -/
theorem session_output (compiler : Compiler) (visits : List Visit) (i : Nat) (v : Visit)
    (hv : visits[i]? = some v) (hfile : v.options.outputFile = some path)
    (hanswer : (session compiler {} visits)[i]? = some (.ok theme)) (hlog : v.world.LogsTo log)
    (hbeside : (v.after compiler (cacheAt compiler {} visits i)).LogsBeside path) :
    ∃ digest, v.digest? compiler = some digest ∧
      ((cacheAt compiler {} visits i).get? digest = none ∧
          (v.after compiler (cacheAt compiler {} visits i)).files.readText path = .ok theme ∨
        (∃ j, MadeAt compiler visits i j digest theme) ∧
          ((v.after compiler (cacheAt compiler {} visits i)).files.readText path = .ok theme ↔
            v.world.files.readText path = .ok theme)) := by
  have hlt : i < visits.length := (List.getElem?_eq_some_iff.mp hv).1
  rw [getElem?_session, hv, Option.map_some, Option.some.injEq] at hanswer
  obtain ⟨digest, hdigest, hmade | ⟨hfound, hafter⟩⟩ := Visit.after_of_ok hfile hbeside hanswer
  · exact ⟨digest, hdigest, .inl hmade⟩
  · refine ⟨digest, hdigest, .inr ⟨?_, ?_⟩⟩
    · exact exists_madeAt (Nat.le_of_lt hlt) (Cache.get?_eq_some_iff.mp hfound)
    · rw [hafter] at hbeside ⊢
      exact Surroundings.readText_log_iff (hlog.cache _) hbeside

/-! The library of `variableVisit` is called for twice: at first for the theme alone, and then for
the output file too. -/

def outputPath : Path := ⟨"out/theme.less".toList⟩

/-- The second call. -/
def savedVisit : Visit where
  world := (variableVisit darkVariables).world
  options := { (variableVisit darkVariables).options with outputFile := some outputPath }

/-- The calls. -/
def savedVisits : List Visit := [variableVisit darkVariables, savedVisit]

theorem session_savedVisits : (session blankCompiler {} savedVisits)[1]? =
    some (.ok (darkVariables ++ "\n\n\n\n".toList)) := by
  have hdigest : savedVisit.digest? blankCompiler = some (Digest.ofText ['\n']) :=
    digest?_variableVisit (.inl rfl)
  rw [getElem?_session]
  simp only [savedVisits, cacheAt, List.getElem?_cons_succ, List.getElem?_cons_zero,
    Option.map_some]
  rw [Visit.call_eq _ savedVisit, hdigest, Visit.call_eq, digest?_variableVisit (.inl rfl),
    fresh_variableVisit (.inl rfl)]
  simp [Cache.get?, Cache.store]

/-- Neither call has a log file. -/
theorem logger_savedVisit : (savedVisit.after blankCompiler
    (cacheAt blankCompiler {} savedVisits 1)).logger = none := by
  decide +kernel

theorem session_output_saved :
    (session blankCompiler {} savedVisits)[1]? =
        some (.ok (darkVariables ++ "\n\n\n\n".toList)) ∧
      ∃ digest, savedVisit.digest? blankCompiler = some digest ∧
        ((cacheAt blankCompiler {} savedVisits 1).get? digest = none ∧
            (savedVisit.after blankCompiler (cacheAt blankCompiler {} savedVisits 1)).files.readText
              outputPath = .ok (darkVariables ++ "\n\n\n\n".toList) ∨
          (∃ j, MadeAt blankCompiler savedVisits 1 j digest
              (darkVariables ++ "\n\n\n\n".toList)) ∧
            ((savedVisit.after blankCompiler
                (cacheAt blankCompiler {} savedVisits 1)).files.readText outputPath =
                  .ok (darkVariables ++ "\n\n\n\n".toList) ↔
              savedVisit.world.files.readText outputPath =
                .ok (darkVariables ++ "\n\n\n\n".toList))) := by
  have hlog : savedVisit.world.LogsTo none := rfl
  refine ⟨session_savedVisits, session_output blankCompiler savedVisits 1 savedVisit rfl rfl
    session_savedVisits hlog fun logger hlogger => ?_⟩
  cases logger_savedVisit.symm.trans hlogger

/-- **The output file need not be there.** The second call answers with the theme, and there is no
file at the path that it was to be written to. -/
theorem session_output_missing :
    savedVisits[1]? = some savedVisit ∧ savedVisit.options.outputFile = some outputPath ∧
      (session blankCompiler {} savedVisits)[1]? =
        some (.ok (darkVariables ++ "\n\n\n\n".toList)) ∧
      ((savedVisit.after blankCompiler (cacheAt blankCompiler {} savedVisits 1)).files.readText
        outputPath).toOption = none :=
  ⟨rfl, rfl, session_savedVisits, by decide +kernel⟩

end Generator

end Retint
