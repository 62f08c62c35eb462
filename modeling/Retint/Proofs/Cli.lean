import Retint.Cli
import Retint.Proofs.Generator.Silent

/-!
# All or nothing

The command either does everything that it is called for or leaves nothing behind but messages. It
succeeds if an argument is given, the configuration in that file can be had, its log file can be
opened, the configuration is valid, and the theme can be generated. If one of these fails, then
nothing is printed on the standard output and no file is changed but the log file, which may not
even be there. If it succeeds, the theme goes to one of two places: to the output file, and then a
message is printed; or, if there is none, to the standard output, and then no file is written.

The compiler is assumed to change no files, and the log file not to be the output file.

## Main definitions

* `Surroundings.Keeps` — no file has been written but the log file
* `Cli.Starts` — everything before the generation goes well
* `Cli.IsNew` — a process that has just been started

## Main results

* `Cli.run_prepare_cons` — the stages before the generation
* `Cli.starts_iff` — whether a generation is started, and in which surroundings
* `Cli.keeps_prepare` — what these stages leave behind
* `Cli.run_all_or_nothing` — the headline
-/

namespace Retint

open Surroundings

namespace Surroundings

variable {compiler : Compiler} {s t u : Surroundings} {log : Option (List Text)}

/-! ### Nothing but the log file -/

/-- No file has been written but the log file, if there is one now. There can be more
directories. -/
def Keeps (s t : Surroundings) : Prop := ∃ log, t.LogsTo log ∧ s.files.Grows log t.files

theorem keeps_of_logger_eq_none (h : s.logger = none) : s.Keeps s := ⟨none, h, .refl none _⟩

/-- More that is logged changes nothing else. -/
theorem Keeps.trans_spares (h : s.Keeps t) (hspares : ∀ log, t.LogsTo log → t.Spares log u) :
    s.Keeps u := by
  obtain ⟨log, hlog, hgrows⟩ := h
  exact ⟨log, (hspares log hlog).logsTo hlog, hgrows.trans (hspares log hlog).files⟩

/-- **Opening a log file** writes no other file, whether it can be opened or not. -/
theorem keeps_openLog (h : s.logger = none) (p : Path) (detail : Nat) :
    s.Keeps (s.openLog p detail).2 := by
  unfold openLog
  extract_lets made
  have hmade : ∀ but, s.files.Grows but made.2 := by
    intro but
    unfold made
    cases p.parent? with
    | none => exact .refl but s.files
    | some dir => exact FileSystem.grows_makeDirs but s.files dir
  obtain ⟨result, files⟩ := made
  cases result with
  | error f => exact ⟨none, h, hmade none⟩
  | ok u =>
    dsimp only
    cases hwrite : files.write p (.text []) with
    | error f => exact ⟨none, h, hmade none⟩
    | ok files' =>
      obtain ⟨names, executable, hplace, hfile, hgrows⟩ := FileSystem.exists_place_of_write hwrite
      exact ⟨some names, ⟨_, _, _, rfl, hplace, hfile⟩, (hmade _).trans hgrows⟩

end Surroundings

namespace Cli

variable {compiler : Compiler} {i : Invocation} {s t : Surroundings} {config : Config}
  {options : Options}

/-! ### Before the generation -/

/-- The log file: the one that the configuration names, or else the default one. -/
def Invocation.logFile? (i : Invocation) (config : Config) : Option Path :=
  config.logFile.or (i.dataDir.map defaultLog)

/-- Logs what the command is about to do. -/
def greet (i : Invocation) (s : Surroundings) : Surroundings :=
  (s.log .info "LESS theme generator starting".toList).log .info
    ("Command line arguments: ".toList ++ quotedList (i.name :: i.arguments))

/-- Logs that there is something that has no effect. -/
def remark (options : Options) (s : Surroundings) : Surroundings :=
  if options.cssModules then s.log .debug "CSS modules output requested".toList else s

/-- **Everything before the generation goes well:** an argument is given, the configuration in that
file can be had, its log file can be opened, and the configuration is valid. The generation then
starts in the surroundings `t`. -/
structure Starts (i : Invocation) (s : Surroundings) (config : Config) (options : Options)
    (t : Surroundings) : Prop where
  read : ∃ path rest, i.arguments = path :: rest ∧ Config.ofFile s.files ⟨path⟩ = .ok config
  opened : ∃ file, i.logFile? config = some file ∧
    (s.openLog file (detail i.logLevel)).1 = .ok () ∧
    t = remark options (greet i (s.openLog file (detail i.logLevel)).2)
  valid : config.validate = .ok options

theorem run_readConfig (path : Path) (s : Surroundings) :
    Action.run compiler (readConfig path) s = (Config.ofFile s.files path, s) := by
  refine (Action.run_bind compiler (Action.request (.readText path)) _ s).trans ?_
  simp only [Action.request, Action.run, answer, Config.ofFile]
  cases s.files.readText path <;> rfl

theorem run_openLog (i : Invocation) (config : Config) (s : Surroundings) :
    Action.run compiler (openLog i config.logFile) s =
      match i.logFile? config with
      | none => (.error "Could not determine local data directory".toList, s)
      | some file =>
        ((s.openLog file (detail i.logLevel)).1.mapError FileFault.message,
          (s.openLog file (detail i.logLevel)).2) := by
  unfold openLog Invocation.logFile?
  cases config.logFile.or (i.dataDir.map defaultLog) with
  | none => rfl
  | some file =>
    refine (Action.run_bind compiler (Action.request (.openLog file _)) _ s).trans ?_
    dsimp only [Action.request, Action.run, answer]
    cases (s.openLog file (detail i.logLevel)).1 <;> rfl

theorem run_check (config : Config) (s : Surroundings) :
    Action.run compiler (check config) s =
      match config.validate with
      | .error f => (none, s.log .error f.message)
      | .ok options => (some ⟨config.compiler, options⟩, remark options s) := by
  unfold check
  cases config.validate with
  | error f => rfl
  | ok options =>
    dsimp only
    unfold remark
    split <;> rfl

/-- **The stages before the generation,** if there is an argument. -/
theorem run_prepare_cons {path : Text} {rest : List Text} (h : i.arguments = path :: rest) :
    Action.run compiler (prepare i) s =
      match Config.ofFile s.files ⟨path⟩ with
      | .error f => (none, { s with
          errors := s.errors ++ asLine "Failed to load configuration: " f.message })
      | .ok config =>
        match i.logFile? config with
        | none => (none, { s with
            errors := s.errors ++ asLine "Failed to initialize logger: "
              "Could not determine local data directory".toList })
        | some file =>
          match s.openLog file (detail i.logLevel) with
          | (.error f, t) => (none, { t with
              errors := t.errors ++ asLine "Failed to initialize logger: " f.message })
          | (.ok (), t) => Action.run compiler (check config) (greet i t) := by
  obtain ⟨name, arguments, dataDir, logLevel⟩ := i
  obtain rfl : arguments = path :: rest := h
  refine (Action.run_bind compiler (readConfig ⟨path⟩) _ s).trans ?_
  rw [run_readConfig]
  cases Config.ofFile s.files ⟨path⟩ with
  | error f => rfl
  | ok config =>
    dsimp only
    refine (Action.run_bind compiler (openLog _ config.logFile) _ s).trans ?_
    rw [run_openLog]
    cases Invocation.logFile? _ config with
    | none => rfl
    | some file =>
      dsimp only
      cases s.openLog file (detail logLevel) with
      | mk result t => cases result <;> rfl

/-- **Whether a generation is started,** what for, and in which surroundings. -/
theorem starts_iff {job : Job} : Action.run compiler (prepare i) s = (some job, t) ↔
    ∃ config options, Starts i s config options t ∧ job = ⟨config.compiler, options⟩ := by
  constructor
  · intro h
    cases hargs : i.arguments with
    | nil =>
      rw [prepare, hargs] at h
      cases h
    | cons path rest =>
      rw [run_prepare_cons hargs] at h
      split at h
      · cases h
      rename_i config hread
      split at h
      · cases h
      rename_i file hfile
      split at h
      · cases h
      rename_i u hopen
      rw [run_check] at h
      split at h
      · cases h
      rename_i options hvalid
      obtain ⟨hjob, rfl⟩ := Prod.mk.inj h
      refine ⟨config, options, ⟨⟨path, rest, hargs, hread⟩, ⟨file, hfile, ?_, ?_⟩, hvalid⟩,
        (Option.some.inj hjob).symm⟩
      · rw [hopen]
      · rw [hopen]
  · rintro ⟨config, options, h, rfl⟩
    obtain ⟨path, rest, hargs, hread⟩ := h.read
    obtain ⟨file, hfile, hopen, rfl⟩ := h.opened
    rw [run_prepare_cons hargs, hread]
    dsimp only
    rw [hfile]
    dsimp only
    cases hlog : s.openLog file (detail i.logLevel) with
    | mk result u =>
      rw [hlog] at hopen
      obtain rfl : result = .ok () := hopen
      dsimp only
      rw [run_check, h.valid]

theorem asks_check {P : Request → Bool} (hlog : ∀ level message, P (.log level message) = true)
    (config : Config) : (check config).Asks P := by
  unfold check
  cases config.validate with
  | error f => exact Action.asks_do (Action.asks_request (hlog _ _)) fun _ => trivial
  | ok options =>
    dsimp only
    split
    · exact Action.asks_do (Action.asks_request (hlog _ _)) fun _ => trivial
    · trivial

theorem spares_greet {log : Option (List Text)} (hlog : s.LogsTo log) (i : Invocation) :
    s.Spares log (greet i s) :=
  have hfirst := spares_log hlog .info _
  hfirst.trans (spares_log (hfirst.logsTo hlog) .info _)

/-- **What the stages before the generation leave behind.** -/
theorem keeps_prepare (hc : compiler.SparesFiles) (h : s.logger = none) (i : Invocation) :
    s.Keeps (Action.run compiler (prepare i) s).2 := by
  cases hargs : i.arguments with
  | nil =>
    rw [prepare, hargs]
    exact keeps_of_logger_eq_none h
  | cons path rest =>
    rw [run_prepare_cons hargs]
    split
    · exact keeps_of_logger_eq_none h
    split
    · exact keeps_of_logger_eq_none h
    rename_i file _
    have hkeeps := keeps_openLog h file (detail i.logLevel)
    split
    · rename_i hopen
      rw [hopen] at hkeeps
      exact hkeeps
    · rename_i hopen
      rw [hopen] at hkeeps
      refine hkeeps.trans_spares fun log hlog => ?_
      have hgreet := spares_greet hlog i
      exact hgreet.trans (Action.spares_run hc (asks_check (fun _ _ => rfl) _) (hgreet.logsTo hlog))

/-- What comes before the generation prints nothing and does not look at the cache. -/
theorem asks_prepare {P : Request → Bool} (hread : ∀ p, P (.readText p) = true)
    (hopen : ∀ p detail, P (.openLog p detail) = true)
    (hlog : ∀ level message, P (.log level message) = true)
    (herror : ∀ t, P (.printError t) = true) (i : Invocation) : (prepare i).Asks P := by
  have asks_report : ∀ t : Text, (do
      Action.request (.printError t)
      pure none : Action (Option Job)).Asks P :=
    fun t => Action.asks_do (Action.asks_request (herror t)) fun _ => trivial
  unfold prepare
  split
  · exact asks_report _
  refine Action.asks_do (Action.asks_do (Action.asks_request (hread _)) fun text => ?_)
    fun config => ?_
  · cases text <;> trivial
  cases config with
  | error f => exact asks_report _
  | ok config =>
    refine Action.asks_do ?_ fun opened => ?_
    · unfold openLog
      split
      · trivial
      · refine Action.asks_do (Action.asks_request (hopen _ _)) fun opened => ?_
        cases opened <;> trivial
    cases opened with
    | error report => exact asks_report _
    | ok u =>
      refine Action.asks_do (Action.asks_request (hlog _ _)) fun _ => ?_
      exact Action.asks_do (Action.asks_request (hlog _ _)) fun _ => asks_check hlog config

theorem output_prepare (compiler : Compiler) (i : Invocation) (s : Surroundings) :
    (Action.run compiler (prepare i) s).2.output = s.output :=
  Action.run_output (asks_prepare (fun _ => rfl) (fun _ _ => rfl) (fun _ _ => rfl) (fun _ => rfl) i)

theorem cache_prepare (compiler : Compiler) (i : Invocation) (s : Surroundings) :
    (Action.run compiler (prepare i) s).2.cache = s.cache :=
  congrArg (·.2.cache) (Action.run_cache compiler (asks_prepare (P := Request.isCacheFree)
    (fun _ => rfl) (fun _ _ => rfl) (fun _ _ => rfl) (fun _ => rfl) i) s s.cache)

/-! ### The generation -/

/-- What is printed when a theme has been generated. -/
def report (options : Options) (theme : Text) : Text :=
  match options.outputFile with
  | some _ => asLine "" (Generator.successMessage options.outputFile)
  | none => theme

theorem run_perform (importLimit : Nat) (options : Options) (s : Surroundings) :
    Action.run compiler (perform importLimit options) s =
      match Action.run compiler (Generator.generate importLimit options).run s with
      | (.ok theme, t) => (success, { t with output := t.output ++ report options theme })
      | (.error f, t) =>
        (failure, t.log .error ("Theme generation failed: ".toList ++ f.message)) := by
  refine (Action.run_bind compiler (Generator.generate importLimit options).run _ s).trans ?_
  cases Action.run compiler (Generator.generate importLimit options).run s with
  | mk result t =>
    cases result with
    | error f => rfl
    | ok theme =>
      dsimp only
      unfold report
      cases options.outputFile <;> rfl

/-- A process that has just been started: nothing is remembered, logged to, or printed yet. -/
structure IsNew (s : Surroundings) : Prop where
  cache : s.cache = {}
  logger : s.logger = none
  output : s.output = []

variable {compilerOf : ScriptCompiler → Compiler} {theme : Text}

/-- The surroundings in which a generation starts. -/
theorem Starts.world (h : Starts i s config options t) (hs : IsNew s)
    (hc : ∀ c, (compilerOf c).SparesFiles) : t.cache = {} ∧ t.output = [] ∧ s.Keeps t := by
  have hprepare : Action.run (compilerOf {}) (prepare i) s =
      (some ⟨config.compiler, options⟩, t) := starts_iff.mpr ⟨config, options, h, rfl⟩
  have hcache := cache_prepare (compilerOf {}) i s
  have houtput := output_prepare (compilerOf {}) i s
  have hkeeps := keeps_prepare (hc {}) hs.logger i
  rw [hprepare] at hcache houtput hkeeps
  exact ⟨hcache.trans hs.cache, houtput.trans hs.output, hkeeps⟩

/-- A generation that is started with nothing remembered answers what a first call does. -/
theorem fresh_eq (h : t.cache = {}) (options : Options) :
    (Generator.Visit.mk t options).fresh compiler =
      (Action.run compiler
        (Generator.generate (Bundle.treeLimit t.files) options).run t).1 := by
  unfold Generator.Visit.fresh Generator.Visit.call
  rw [← h]

/-- **A command that starts a generation.** -/
theorem Starts.run_eq (h : Starts i s config options t) :
    run compilerOf i s =
      match Action.run (compilerOf config.compiler)
        (Generator.generate (Bundle.treeLimit t.files) options).run t with
      | (.ok theme, u) => (success, { u with output := u.output ++ report options theme })
      | (.error f, u) =>
        (failure, u.log .error ("Theme generation failed: ".toList ++ f.message)) := by
  have hprepare : Action.run (compilerOf {}) (prepare i) s =
      (some ⟨config.compiler, options⟩, t) := starts_iff.mpr ⟨config, options, h, rfl⟩
  rw [run, hprepare]
  exact run_perform _ options t

/-- A command starts a generation, or ends before. -/
theorem starts_or_failure (compilerOf : ScriptCompiler → Compiler) (i : Invocation)
    (s : Surroundings) : (∃ config options t, Starts i s config options t) ∨
      run compilerOf i s = (failure, (Action.run (compilerOf {}) (prepare i) s).2) := by
  cases hprepare : Action.run (compilerOf {}) (prepare i) s with
  | mk job t =>
    cases job with
    | some job =>
      obtain ⟨config, options, h, -⟩ := starts_iff.mp hprepare
      exact .inl ⟨config, options, t, h⟩
    | none => exact .inr (by rw [run, hprepare])

/-! ### The outcomes -/

theorem failure_ne_success : failure ≠ success := by decide

/-- **The exit status** of a command that starts a generation. -/
theorem Starts.status_eq_success_iff (h : Starts i s config options t) (hs : IsNew s)
    (hc : ∀ c, (compilerOf c).SparesFiles) : (run compilerOf i s).1 = success ↔
      ∃ theme, (Generator.Visit.mk t options).fresh (compilerOf config.compiler) = .ok theme := by
  rw [fresh_eq (h.world hs hc).1, h.run_eq]
  cases Action.run (compilerOf config.compiler)
      (Generator.generate (Bundle.treeLimit t.files) options).run t with
  | mk result u =>
    cases result with
    | ok theme => exact iff_of_true rfl ⟨theme, rfl⟩
    | error f => exact iff_of_false failure_ne_success fun ⟨_, h⟩ => nomatch h

/-- **A command that fails** prints nothing and writes no file but the log file. -/
theorem keeps_of_failure (hs : IsNew s) (hc : ∀ c, (compilerOf c).SparesFiles)
    (h : (run compilerOf i s).1 ≠ success) :
    (run compilerOf i s).2.output = [] ∧ s.Keeps (run compilerOf i s).2 := by
  rcases starts_or_failure compilerOf i s with ⟨config, options, t, hstarts⟩ | hrun
  · obtain ⟨-, houtput, hkeeps⟩ := hstarts.world hs hc
    rw [hstarts.run_eq] at h ⊢
    have hsilent := Generator.run_generate_output (compilerOf config.compiler)
      (Bundle.treeLimit t.files) options t
    cases hgenerate : Action.run (compilerOf config.compiler)
        (Generator.generate (Bundle.treeLimit t.files) options).run t with
    | mk result u =>
      rw [hgenerate] at h hsilent
      cases result with
      | ok theme => exact absurd rfl h
      | error f =>
        refine ⟨(output_log u _ _).trans (hsilent.trans houtput), ?_⟩
        refine hkeeps.trans_spares fun log hlog => ?_
        have hspares := Generator.spares_generate (hc _) hlog hgenerate
        exact hspares.trans (spares_log (hspares.logsTo hlog) _ _)
  · rw [hrun]
    exact ⟨(output_prepare (compilerOf {}) i s).trans hs.output, keeps_prepare (hc {}) hs.logger i⟩

/-- **A command that succeeds** prints the theme, or prints a message and has written the theme. -/
theorem Starts.result (h : Starts i s config options t) (hs : IsNew s)
    (hc : ∀ c, (compilerOf c).SparesFiles)
    (htheme : (Generator.Visit.mk t options).fresh (compilerOf config.compiler) = .ok theme) :
    (run compilerOf i s).2.output = report options theme ∧
      (options.outputFile = none → s.Keeps (run compilerOf i s).2) ∧
      ∀ path, options.outputFile = some path → (run compilerOf i s).2.LogsBeside path →
        (run compilerOf i s).2.files.readText path = .ok theme := by
  obtain ⟨hcache, houtput, hkeeps⟩ := h.world hs hc
  rw [fresh_eq hcache] at htheme
  rw [h.run_eq]
  have hsilent := Generator.run_generate_output (compilerOf config.compiler)
    (Bundle.treeLimit t.files) options t
  cases hgenerate : Action.run (compilerOf config.compiler)
      (Generator.generate (Bundle.treeLimit t.files) options).run t with
  | mk result u =>
    rw [hgenerate] at htheme hsilent
    obtain rfl : result = .ok theme := htheme
    refine ⟨?_, fun hfile => ?_, fun path hfile hbeside => ?_⟩
    · show u.output ++ report options theme = report options theme
      rw [hsilent, houtput, List.nil_append]
    · obtain ⟨log, hlog, hgrows⟩ := hkeeps
      obtain ⟨hlog', hgrows'⟩ := Generator.grows_generate (hc _) hfile hlog hgenerate
      exact ⟨log, hlog', hgrows.trans hgrows'⟩
    · obtain ⟨sources, -, ⟨hfound, -⟩ | ⟨-, v, hmade, rfl⟩⟩ := Generator.generate_ok_cases hgenerate
      · rw [hcache] at hfound
        cases hfound
      · have hwritten : v.files.readText path = .ok theme :=
          Generator.readText_of_compute hfile hbeside hmade
        exact hwritten

/-- **All or nothing.** The exit status is that of success exactly if a generation is started and
comes to a theme, being the first one of its process. A command that fails prints nothing and writes
no file but the log file. One that succeeds with an output file has written exactly the theme there,
if that is not the log file, and prints a message; one that succeeds without an output file prints
exactly the theme, and writes no file but the log file. -/
theorem run_all_or_nothing (hs : IsNew s) (hc : ∀ c, (compilerOf c).SparesFiles)
    (i : Invocation) :
    ((run compilerOf i s).1 = success ↔
        ∃ config options t theme, Starts i s config options t ∧
          (Generator.Visit.mk t options).fresh (compilerOf config.compiler) = .ok theme) ∧
      ((run compilerOf i s).1 ≠ success →
        (run compilerOf i s).2.output = [] ∧ s.Keeps (run compilerOf i s).2) ∧
      ∀ config options t theme, Starts i s config options t →
        (Generator.Visit.mk t options).fresh (compilerOf config.compiler) = .ok theme →
        (∀ path, options.outputFile = some path →
          ((run compilerOf i s).2.LogsBeside path →
            (run compilerOf i s).2.files.readText path = .ok theme) ∧
          (run compilerOf i s).2.output =
            asLine "" (Generator.successMessage (some path))) ∧
        (options.outputFile = none →
          (run compilerOf i s).2.output = theme ∧ s.Keeps (run compilerOf i s).2) := by
  refine ⟨⟨fun hstatus => ?_, ?_⟩, keeps_of_failure hs hc, ?_⟩
  · rcases starts_or_failure compilerOf i s with ⟨config, options, t, hstarts⟩ | hrun
    · obtain ⟨theme, htheme⟩ := (hstarts.status_eq_success_iff hs hc).mp hstatus
      exact ⟨config, options, t, theme, hstarts, htheme⟩
    · rw [hrun] at hstatus
      exact absurd hstatus failure_ne_success
  · rintro ⟨config, options, t, theme, hstarts, htheme⟩
    exact (hstarts.status_eq_success_iff hs hc).mpr ⟨theme, htheme⟩
  · intro config options t theme hstarts htheme
    obtain ⟨hprinted, hkeeps, hwritten⟩ := hstarts.result hs hc htheme
    refine ⟨fun path hfile => ⟨hwritten path hfile, ?_⟩, fun hfile => ⟨?_, hkeeps hfile⟩⟩
    · rw [hprinted, report, hfile]
    · rw [hprinted, report, hfile]

/-- A library and a configuration that names an output file. -/
def shop : Surroundings where
  files := ⟨.dir [
    ("theme.json".toList, .file (.text ("\x7b\"antd_styles_dir\": \"lib\", ".toList ++
      "\"styles_dir\": \"styles\", \"output_file_path\": \"out/theme.css\", ".toList ++
      "\"log_file\": \"logs/log\"\x7d".toList)) false),
    ("lib".toList, .dir [("style".toList, .dir [
      ("index.less".toList, .file (.text []) false),
      ("themes".toList, .dir [("default.less".toList,
        .file (.text "@primary-color: #111;".toList) false)])])])], []⟩

def order : Invocation := ⟨"retint".toList, ["theme.json".toList], none, none⟩

/-- A compiler that makes nothing of everything. -/
def blank (_ : ScriptCompiler) : Compiler := Generator.blankCompiler

theorem status_shop : (run blank order shop).1 = success ∧
    (run blank order shop).2.logger = some ⟨⟨"logs/log".toList⟩, 3⟩ ∧
    ((run blank order shop).2.files.place? ⟨"logs/log".toList⟩).toOption ≠
      ((run blank order shop).2.files.place? ⟨"out/theme.css".toList⟩).toOption := by
  decide +kernel

theorem logsBeside_shop : (run blank order shop).2.LogsBeside ⟨"out/theme.css".toList⟩ := by
  obtain ⟨-, hlogger, hplaces⟩ := status_shop
  intro logger hlogger' heq
  obtain rfl := Option.some.inj (hlogger.symm.trans hlogger')
  exact hplaces (congrArg Except.toOption heq)

theorem run_all_or_nothing_shop :
    ((IsNew shop ∧ ∀ c, (blank c).SparesFiles) ∧ (run blank order shop).1 = success ∧
        (run blank order shop).2.LogsBeside ⟨"out/theme.css".toList⟩) ∧
      ((run blank order shop).1 = success ↔
        ∃ config options t theme, Starts order shop config options t ∧
          (Generator.Visit.mk t options).fresh (blank config.compiler) = .ok theme) ∧
      ((run blank order shop).1 ≠ success →
        (run blank order shop).2.output = [] ∧ shop.Keeps (run blank order shop).2) ∧
      ∀ config options t theme, Starts order shop config options t →
        (Generator.Visit.mk t options).fresh (blank config.compiler) = .ok theme →
        (∀ path, options.outputFile = some path →
          ((run blank order shop).2.LogsBeside path →
            (run blank order shop).2.files.readText path = .ok theme) ∧
          (run blank order shop).2.output =
            asLine "" (Generator.successMessage (some path))) ∧
        (options.outputFile = none →
          (run blank order shop).2.output = theme ∧ shop.Keeps (run blank order shop).2) :=
  have hs : IsNew shop := ⟨rfl, rfl, rfl⟩
  have hc : ∀ c, (blank c).SparesFiles := fun _ _ _ _ => rfl
  ⟨⟨⟨hs, hc⟩, status_shop.1, logsBeside_shop⟩, run_all_or_nothing hs hc order⟩

/-- The theme is written, and a message is printed. -/
example : (run blank order shop).2.output =
      "Theme generated successfully. OutputFile: out/theme.css\n".toList ∧
    ((run blank order shop).2.files.readText ⟨"out/theme.css".toList⟩).toOption =
      some "@primary-color: #111;\n\n\n\n".toList := by
  decide +kernel

end Cli

end Retint
