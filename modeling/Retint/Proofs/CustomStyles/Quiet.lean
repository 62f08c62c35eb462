import Retint.Proofs.CustomStyles.Together
import Retint.Proofs.Generator.Output

/-!
# Requests that change no files

While style files are read and compiled, nothing is changed but the log file, and that stays in its
place. So every file but the log file is read as it would have been at the start, whenever it is
read; and a compilation that is asked for results in what it would have resulted in then.

The compiler is taken to be a function of the source and the directories in which imports are
looked for.

## Main definitions

* `Compiler.Computes` — the compiler is a function of the source and the directories
* `Request.isQuiet` — the request changes no files but the log file
* `Surroundings.Steady` — all files, but perhaps the log file, are as they were, and none is new
* `Event.Fits` — the reply is the one that there would be in some surroundings

## Main results

* `Surroundings.steady_answer` — one request
* `Action.Answered.fits` — the replies to requests that come one after the other
* `Action.Answered.calls_eq` — the compilations that are asked for
-/

namespace Retint

/-- The compiler changes no files, and its results are those of a function of the source and the
directories in which imports are looked for. -/
def Compiler.Computes (compiler : Compiler) (f : Text → List Path → Except Failure Text) : Prop :=
  ∀ files source includes, compiler.compile files source includes = (f source includes, files)

/-- The request looks at files, compiles, or logs: it changes no files but the log file. -/
def Request.isQuiet : Request → Bool
  | .readText _ | .canonical _ | .list _ | .isFile _ | .walk _ | .compile .. | .log .. | .turn =>
    true
  | _ => false

/-- The compilation that is asked for. -/
def Request.call? : Request → Option Call
  | .compile source includes => some ⟨source, includes⟩
  | _ => none

theorem toOption_eq_some_iff {ε α : Type} {x : Except ε α} {a : α} :
    x.toOption = some a ↔ x = .ok a := by
  cases x <;> simp [Except.toOption]

namespace Surroundings

variable {compiler : Compiler} {f : Text → List Path → Except Failure Text}
  {s t u : Surroundings} {log : Option (List Text)} {path : Path} {text : Text}

/-! ### Nothing but the log file changes -/

/-- All files, but perhaps the log file, are as they were, and there are no new ones. -/
structure Steady (log : Option (List Text)) (s t : Surroundings) : Prop where
  logger : t.logger = s.logger
  grows : s.files.Grows log t.files
  back : t.files.Grows log s.files

theorem Steady.of_files (hlogger : t.logger = s.logger) (hfiles : t.files = s.files) :
    Steady log s t :=
  ⟨hlogger, hfiles ▸ .refl log s.files, hfiles ▸ .refl log s.files⟩

theorem Steady.trans (h : Steady log s t) (h' : Steady log t u) : Steady log s u :=
  ⟨h'.logger.trans h.logger, h.grows.trans h'.grows, h'.back.trans h.back⟩

theorem Steady.logsTo (h : Steady log s t) (hlog : s.LogsTo log) : t.LogsTo log := by
  cases log with
  | none => exact h.logger.trans hlog
  | some place =>
    obtain ⟨logger, content, executable, hlogger, hplace, hfile⟩ := hlog
    obtain ⟨e, he, halike⟩ := h.grows.alike hfile
    cases halike with
    | file =>
      exact ⟨logger, _, _, h.logger.trans hlogger, h.grows.place? hplace, he⟩

/-- A file that is not the log file is not at its place. -/
theorem LogsBeside.ne_log (hbeside : s.LogsBeside path) (hlog : s.LogsTo log) {names : List Text}
    (hplace : s.files.place? path = .ok names) : some names ≠ log := by
  rintro rfl
  obtain ⟨logger, content, executable, hlogger, hplace', -⟩ := hlog
  exact hbeside logger hlogger (hplace'.trans hplace.symm)

/-- **Every file but the log file** can be read as before. -/
theorem Steady.readText_iff (h : Steady log s t) (hlog : s.LogsTo log)
    (hbeside : s.LogsBeside path) :
    t.files.readText path = .ok text ↔ s.files.readText path = .ok text := by
  rw [FileSystem.readText_eq_ok_iff, FileSystem.readText_eq_ok_iff]
  constructor
  · rintro ⟨names, hplace, hfile⟩
    have hplace' := h.back.place? hplace
    rw [← h.back.file? (hbeside.ne_log hlog hplace')] at hfile
    exact ⟨names, hplace', hfile⟩
  · rintro ⟨names, hplace, hfile⟩
    rw [← h.grows.file? (hbeside.ne_log hlog hplace)] at hfile
    exact ⟨names, h.grows.place? hplace, hfile⟩

theorem Steady.toOption_readText (h : Steady log s t) (hlog : s.LogsTo log)
    (hbeside : s.LogsBeside path) :
    (t.files.readText path).toOption = (s.files.readText path).toOption := by
  ext text
  rw [toOption_eq_some_iff, toOption_eq_some_iff]
  exact h.readText_iff hlog hbeside

/-- A file that is not the log file has not become it. -/
theorem Steady.logsBeside (h : Steady log s t) (hlog : s.LogsTo log)
    (hbeside : s.LogsBeside path) : t.LogsBeside path := by
  intro logger hlogger heq
  rw [h.logger] at hlogger
  cases log with
  | none => cases (show s.logger = none from hlog).symm.trans hlogger
  | some place =>
    obtain ⟨logger', content, executable, hlogger', hplace, -⟩ := hlog
    obtain rfl : logger' = logger := Option.some.inj (hlogger'.symm.trans hlogger)
    have hpath : t.files.place? path = .ok place := heq.symm.trans (h.grows.place? hplace)
    exact hbeside logger' hlogger' (hplace.trans (h.back.place? hpath).symm)

/-! ### One request -/

theorem steady_log (hlog : s.LogsTo log) (level : Level) (message : Text) :
    Steady log s (s.log level message) := by
  have hspares := spares_log hlog level message
  refine ⟨hspares.logger, hspares.files, ?_⟩
  rcases log_cases s level message with hsame | ⟨logger, content, hlogger, -, hwrite⟩
  · rw [hsame]
    exact .refl log s.files
  · cases log with
    | none => cases (show s.logger = none from hlog).symm.trans hlogger
    | some place =>
      obtain ⟨logger', old, executable, hlogger', hplace, hfile⟩ := hlog
      obtain rfl : logger' = logger := Option.some.inj (hlogger'.symm.trans hlogger)
      have hput := Except.ok.inj
        (hwrite.symm.trans (FileSystem.write_eq_put content hplace hfile))
      refine hspares.files.symm fun hat => ?_
      rw [hput] at hat
      exact FileSystem.exists_at?_of_put_file hfile hat

theorem log_calls (s : Surroundings) (level : Level) (message : Text) :
    (s.log level message).calls = s.calls := by
  unfold log
  split
  · rfl
  · dsimp only
    split <;> rfl

/-- The surroundings after a compilation with these directories has been announced. -/
def announced (compiler : Compiler) (s : Surroundings) (includes : List Path) : Surroundings :=
  match compiler.announce includes with
  | some message => s.log .debug message
  | none => s

theorem steady_announced (compiler : Compiler) (hlog : s.LogsTo log) (includes : List Path) :
    Steady log s (s.announced compiler includes) := by
  unfold announced
  split
  · exact steady_log hlog .debug _
  · exact .of_files rfl rfl

theorem announced_calls (compiler : Compiler) (s : Surroundings) (includes : List Path) :
    (s.announced compiler includes).calls = s.calls := by
  unfold announced
  split
  · exact log_calls s .debug _
  · rfl

theorem answer_compile (hc : compiler.Computes f) (s : Surroundings) (source : Text)
    (includes : List Path) :
    s.answer compiler (.compile source includes) =
      (f source includes, { s.announced compiler includes with
        calls := s.calls ++ [⟨source, includes⟩] }) := by
  have hcompiled := hc (s.announced compiler includes).files source includes
  have hresult := congrArg Prod.fst hcompiled
  refine Prod.ext hresult ?_
  show ({ s.announced compiler includes with
      files := (compiler.compile (s.announced compiler includes).files source includes).2
      calls := (s.announced compiler includes).calls ++ [Call.mk source includes] } :
        Surroundings) = _
  rw [hcompiled, announced_calls]

/-- **One request** that changes no files. -/
theorem steady_answer (hc : compiler.Computes f) (hlog : s.LogsTo log) {r : Request}
    (hr : r.isQuiet = true) : Steady log s (s.answer compiler r).2 := by
  cases r with
  | createDirs | writeText | remembered | remember | openLog | print | printError => cases hr
  | readText | canonical | list | isFile | walk | turn => exact .of_files rfl rfl
  | log level message => exact steady_log hlog level message
  | compile source includes =>
    rw [answer_compile hc]
    exact (steady_announced compiler hlog includes).trans (.of_files rfl rfl)

/-- A compilation that is asked for is recorded after those before it. -/
theorem calls_answer (hc : compiler.Computes f) (s : Surroundings) {r : Request}
    (hr : r.isQuiet = true) :
    (s.answer compiler r).2.calls = s.calls ++ r.call?.toList := by
  cases r with
  | createDirs | writeText | remembered | remember | openLog | print | printError => cases hr
  | readText | canonical | list | isFile | walk | turn => exact (List.append_nil _).symm
  | log level message => exact (log_calls s level message).trans (List.append_nil _).symm
  | compile source includes =>
    rw [answer_compile hc]
    rfl

end Surroundings

/-! ### Requests one after the other -/

open Surroundings

/-- A file that is not the log file is read as it is in the surroundings, and a compilation results
in what the function gives. -/
def Event.Fits (f : Text → List Path → Except Failure Text) (s : Surroundings) : Event → Prop
  | ⟨.readText path, reply⟩ =>
    s.LogsBeside path → Except.toOption reply = (s.files.readText path).toOption
  | ⟨.compile source includes, reply⟩ => reply = f source includes
  | _ => True

namespace Surroundings

variable {compiler : Compiler} {f : Text → List Path → Except Failure Text}
  {s t : Surroundings} {log : Option (List Text)}

/-- The reply to a request. -/
theorem fits_answer (hc : compiler.Computes f) (s : Surroundings) (r : Request) :
    Event.Fits f s ⟨r, (s.answer compiler r).1⟩ := by
  cases r with
  | readText path => exact fun _ => rfl
  | compile source includes => exact congrArg Prod.fst (answer_compile hc s source includes)
  | _ => trivial

/-- A later reply is the one that there would have been before. -/
theorem Steady.fits (h : Steady log s t) (hlog : s.LogsTo log) {e : Event} (he : e.Fits f t) :
    e.Fits f s := by
  obtain ⟨r, reply⟩ := e
  cases r with
  | readText path =>
    intro hbeside
    exact (he (h.logsBeside hlog hbeside)).trans (h.toOption_readText hlog hbeside)
  | compile source includes => exact he
  | _ => trivial

end Surroundings

namespace Action

variable {compiler : Compiler} {f : Text → List Path → Except Failure Text}
  {s s' : Surroundings} {log : Option (List Text)} {events : List Event}

/-- **The replies to requests that change no files** are those that there would be at the start. -/
theorem Answered.fits (h : Answered compiler s events s') (hc : compiler.Computes f)
    (hlog : s.LogsTo log) (hquiet : ∀ e ∈ events, e.request.isQuiet = true) :
    ∀ e ∈ events, e.Fits f s := by
  induction h with
  | nil => simp
  | @cons s s' r events h ih =>
    obtain ⟨hr, hrest⟩ := List.forall_mem_cons.mp hquiet
    have hstep := steady_answer hc hlog hr
    refine List.forall_mem_cons.mpr ⟨fits_answer hc s r, fun e he => ?_⟩
    exact hstep.fits hlog (ih (hstep.logsTo hlog) hrest e he)

/-- **The compilations that have been asked for**, after those before. -/
theorem Answered.calls_eq (h : Answered compiler s events s') (hc : compiler.Computes f)
    (hquiet : ∀ e ∈ events, e.request.isQuiet = true) :
    s'.calls = s.calls ++ events.filterMap fun e => e.request.call? := by
  induction h with
  | nil s => exact (List.append_nil _).symm
  | @cons s s' r events h ih =>
    obtain ⟨hr, hrest⟩ := List.forall_mem_cons.mp hquiet
    rw [ih hrest, calls_answer hc s hr, List.append_assoc]
    cases hcall : r.call? <;> simp [hcall]

end Action

end Retint
