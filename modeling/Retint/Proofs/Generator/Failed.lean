import Retint.Proofs.Files.Growth
import Retint.Proofs.Generator.Cached

/-!
# What a failed generation leaves behind

A generation writes the theme last, and remembers it after that. Up to the writing nothing is
changed but the log file, and directories are created for the output at most. So a generation that
fails leaves the cache and every file as they were.

The compiler is a program of its own and could do anything to the files; it is assumed not to. The
log file is told apart by its place. Where no logger has been installed, all files are meant.

## Main definitions

* `Compiler.SparesFiles` — a compiler that changes no files
* `Surroundings.LogsTo` — where the log messages go
* `Surroundings.Spares` — the cache and all files but the log file are as they were

## Main results

* `Surroundings.spares_answer` — one request that is sparing
* `Action.spares_run` — an action that asks for such requests only
* `Generator.generate_error` — the headline
-/

namespace Retint

open Files

/-- The compiler changes no files. -/
def Compiler.SparesFiles (compiler : Compiler) : Prop :=
  ∀ files source includes, (compiler.compile files source includes).2 = files

namespace Surroundings

variable {compiler : Compiler} {s s' s'' : Surroundings} {log : Option (List Text)}

/-- Log messages go to the file at the place that is given, or nowhere. -/
def LogsTo (s : Surroundings) : Option (List Text) → Prop
  | none => s.logger = none
  | some place => ∃ logger content executable, s.logger = some logger ∧
      s.files.place? logger.file = .ok place ∧
      s.files.root.at? place = some (.file content executable)

/-- The cache and all files, but perhaps the log file, are as they were. -/
structure Spares (log : Option (List Text)) (s s' : Surroundings) : Prop where
  cache : s'.cache = s.cache
  logger : s'.logger = s.logger
  files : s.files.Grows log s'.files

theorem Spares.refl (log : Option (List Text)) (s : Surroundings) : Spares log s s :=
  ⟨rfl, rfl, .refl log s.files⟩

theorem Spares.trans (h : Spares log s s') (h' : Spares log s' s'') : Spares log s s'' :=
  ⟨h'.cache.trans h.cache, h'.logger.trans h.logger, h.files.trans h'.files⟩

/-- The log messages go to the same place still. -/
theorem Spares.logsTo (h : Spares log s s') (hlog : s.LogsTo log) : s'.LogsTo log := by
  cases log with
  | none => exact h.logger.trans hlog
  | some place =>
    obtain ⟨logger, content, executable, hlogger, hplace, hfile⟩ := hlog
    obtain ⟨e, he, ha⟩ := h.files.alike hfile
    cases ha with
    | file =>
      exact ⟨logger, _, _, h.logger.trans hlogger, h.files.place? hplace, he⟩

/-! ### One request -/

theorem spares_log (hlog : s.LogsTo log) (level : Level) (message : Text) :
    Spares log s (s.log level message) := by
  unfold Surroundings.log
  cases log with
  | none =>
    have hnone : s.logger = none := hlog
    rw [hnone]
    exact .refl none s
  | some place =>
    obtain ⟨logger, content, executable, hlogger, hplace, hfile⟩ := hlog
    rw [hlogger]
    dsimp only
    split
    · obtain ⟨files, hwritten, hgrows⟩ := FileSystem.grows_write
        (.text ((s.files.readText logger.file).toOption.getD [] ++ logLine level message))
        hplace hfile
      refine ⟨rfl, hlogger.symm, ?_⟩
      rw [hwritten]
      exact hgrows
    · exact .refl (some place) s

/-- **One request** that is sparing. -/
theorem spares_answer (hc : compiler.SparesFiles) (hlog : s.LogsTo log) {r : Request}
    (hr : r.isSparing = true) : Spares log s (s.answer compiler r).2 := by
  cases r with
  | remembered | remember | writeText | openLog | print | printError =>
    simp [Request.isSparing] at hr
  | readText | canonical | list | isFile | walk => exact .refl log s
  | turn => exact ⟨rfl, rfl, .refl log s.files⟩
  | createDirs p => exact ⟨rfl, rfl, FileSystem.grows_makeDirs log s.files p⟩
  | log level message => exact spares_log hlog level message
  | compile source includes =>
    have hcompiled : ∀ t : Surroundings, Spares log t
        { t with
          files := (compiler.compile t.files source includes).2
          calls := t.calls ++ [⟨source, includes⟩] } := fun t =>
      ⟨rfl, rfl, (hc t.files source includes).symm ▸ .refl log t.files⟩
    simp only [answer]
    cases compiler.announce includes with
    | none => exact hcompiled s
    | some message => exact (spares_log hlog .debug message).trans (hcompiled _)

end Surroundings

open Surroundings

variable {compiler : Compiler} {s : Surroundings} {log : Option (List Text)}

/-- **An action** whose requests are all sparing, in whatever order its parts take their steps. -/
theorem Action.spares_run {α : Type} (hc : compiler.SparesFiles) :
    ∀ {p : Action α} {s : Surroundings}, p.Asks Request.isSparing → s.LogsTo log →
      Spares log s (p.run compiler s).2
  | done _, s, _, _ => .refl log s
  | ask r next, s, h, hlog => by
    have hstep := spares_answer hc hlog h.1
    exact hstep.trans (spares_run hc (h.2 _) (hstep.logsTo hlog))

namespace Generator

open Stage

variable {failure : Failure} {s' : Surroundings}

/-- A file is written, or everything is spared. -/
theorem spares_writeText {doing theme : Text} {path : Path}
    (h : Action.run compiler
      (orFail doing (Action.request (.writeText path theme))).run s = (.error failure, s')) :
    s' = s := by
  rw [run_orFail] at h
  simp only [Action.request, Action.run, answer] at h
  cases hwrite : s.files.write path (.text theme) with
  | ok files => simp [hwrite, change] at h
  | error fault =>
    simp only [hwrite, change] at h
    exact (Prod.mk.inj h).2.symm

/-- Writing the theme succeeds, or nothing but directories has come. -/
theorem spares_write (hc : compiler.SparesFiles) (hlog : s.LogsTo log) {path : Path}
    {theme : Text} (h : Action.run compiler (write path theme).run s = (.error failure, s')) :
    Spares log s s' := by
  unfold write at h
  cases hparent : path.parent? with
  | none =>
    rw [hparent] at h
    exact spares_writeText h ▸ .refl log s
  | some dir =>
    rw [hparent] at h
    dsimp only at h
    split at h
    · have hdirs := Action.spares_run hc (p := (orFail ("Failed to create ".toList ++ dir.text)
        (Action.request (.createDirs dir))).run) (asks_orFail _ (Action.asks_request rfl)) hlog
      rw [run_bind] at h
      split at h
      · rename_i hmade
        rw [hmade] at hdirs
        exact spares_writeText h ▸ hdirs
      · rename_i hfailed
        rw [hfailed] at hdirs
        obtain rfl := (Prod.mk.inj h).2
        exact hdirs
    · exact spares_writeText h ▸ .refl log s

/-- Making the theme and writing it. -/
theorem spares_compute (hc : compiler.SparesFiles) (hlog : s.LogsTo log) {importLimit : Nat}
    {options : Options} {sources : Sources}
    (h : Action.run compiler (compute importLimit options sources).run s = (.error failure, s')) :
    Spares log s s' := by
  have hproduce := Action.spares_run hc (asks_produce importLimit options sources) hlog
  rw [compute, run_bind] at h
  split at h
  · rename_i theme t hmade
    rw [hmade] at hproduce
    cases hfile : options.outputFile with
    | none =>
      simp only [hfile] at h
      cases h
    | some path =>
      simp only [hfile] at h
      rw [run_bind] at h
      split at h
      · cases h
      · rename_i hfailed
        obtain rfl := (Prod.mk.inj h).2
        exact hproduce.trans (spares_write hc (hproduce.logsTo hlog) hfailed)
  · rename_i hfailed
    rw [hfailed] at hproduce
    obtain rfl := (Prod.mk.inj h).2
    exact hproduce

/-- A generation that fails, at whichever stage. -/
theorem spares_generate (hc : compiler.SparesFiles) (hlog : s.LogsTo log) {importLimit : Nat}
    {options : Options}
    (h : Action.run compiler (generate importLimit options).run s = (.error failure, s')) :
    Spares log s s' := by
  have hload := Action.spares_run hc (asks_load options) hlog
  rw [run_generate] at h
  split at h
  · rename_i hfailed
    rw [hfailed] at hload
    obtain rfl := (Prod.mk.inj h).2
    exact hload
  · rename_i sources t hloaded
    rw [hloaded] at hload
    split at h
    · cases h
    split at h
    · rename_i hfailed
      obtain rfl := (Prod.mk.inj h).2
      exact hload.trans (spares_compute hc (hload.logsTo hlog) hfailed)
    · cases h

/-- **What a failed generation leaves behind.** The cache is as it was, and so is the content of
every file, the log file apart; what some path led to, it leads to still. It does not matter at
which stage the generation fails, or in which order the compilations take place. -/
theorem generate_error (hc : compiler.SparesFiles) (importLimit : Nat) (options : Options)
    {s s' : Surroundings} {log : Option (List Text)} (hlog : s.LogsTo log) {failure : Failure}
    (h : Action.run compiler (generate importLimit options).run s = (.error failure, s')) :
    s'.cache = s.cache ∧
      (∀ names, some names ≠ log → s'.files.file? names = s.files.file? names) ∧
      ∀ path names, s.files.place? path = .ok names → s'.files.place? path = .ok names := by
  have hspares : Spares log s s' := spares_generate hc hlog h
  exact ⟨hspares.cache, fun names hne => hspares.files.file? hne,
    fun path names hp => hspares.files.place? hp⟩

/-- A library, a log file, and a theme that is remembered of other sources. -/
def loggedWorld : Surroundings where
  files := ⟨.dir [
    ("lib".toList, .dir [("style".toList, .dir [
      ("index.less".toList, .file (.text []) false),
      ("themes".toList, .dir [("default.less".toList,
        .file (.text "@primary-color: #111;".toList) false)])])]),
    ("log".toList, .file (.text []) false)], []⟩
  cache := ⟨some ("0".toList, "a".toList)⟩
  logger := some ⟨⟨"log".toList⟩, 5⟩

/-- The output is to be where the library is, on a way through a directory that is not there. -/
def blockedOptions : Options :=
  { Options.of ⟨"lib".toList⟩ ⟨"styles".toList⟩ with outputFile := some ⟨"out/../lib".toList⟩ }

/-- The directory for the output has been created when the writing fails. -/
theorem generate_error_blocked :
    blankCompiler.SparesFiles ∧ loggedWorld.LogsTo (some ["log".toList]) ∧
      ∃ failure s', Action.run blankCompiler (generate 2 blockedOptions).run loggedWorld =
          (.error failure, s') ∧
        s'.files.isDir ⟨"out".toList⟩ = true ∧ s'.cache = loggedWorld.cache ∧
        ∀ names, names ≠ ["log".toList] → s'.files.file? names = loggedWorld.files.file? names := by
  have hc : blankCompiler.SparesFiles := fun _ _ _ => rfl
  have hlog : loggedWorld.LogsTo (some ["log".toList]) := ⟨_, _, _, rfl, rfl, rfl⟩
  have hcomputed :
      (Action.run blankCompiler (generate 2 blockedOptions).run loggedWorld).1.toOption = none ∧
        (Action.run blankCompiler (generate 2 blockedOptions).run
          loggedWorld).2.files.isDir ⟨"out".toList⟩ = true := by
    decide +kernel
  cases hrun : Action.run blankCompiler (generate 2 blockedOptions).run loggedWorld with
  | mk result s' =>
    rw [hrun] at hcomputed
    cases result with
    | ok theme => exact absurd hcomputed.1 (by simp [Except.toOption])
    | error failure =>
      obtain ⟨hcache, hfiles, -⟩ := generate_error hc 2 blockedOptions hlog hrun
      exact ⟨hc, hlog, failure, s', rfl, hcomputed.2, hcache,
        fun names hne => hfiles names fun h => hne (Option.some.inj h)⟩

end Generator

end Retint
