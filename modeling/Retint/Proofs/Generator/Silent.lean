import Retint.Proofs.Generator.Output

/-!
# What a generation prints

A generation logs messages and writes a file, but it prints nothing: what goes to the standard
output is left to whoever has asked for the theme. If it is not to write a file either, it changes
no file but the log file, whether it succeeds or not.

## Main definitions

* `Request.isSilent` — the request prints nothing on the standard output

## Main results

* `Action.run_output` — an action that is silent leaves the standard output as it is
* `Generator.asks_generate` — a generation is silent
* `Generator.grows_generate` — a generation without an output file changes no file but the log file
-/

namespace Retint

/-- The request prints nothing on the standard output. -/
def Request.isSilent : Request → Bool
  | .print _ => false
  | _ => true

theorem Request.isSilent_of_isSparing {r : Request} (h : r.isSparing = true) :
    r.isSilent = true := by
  cases r with
  | print => cases h
  | _ => rfl

namespace Surroundings

variable {compiler : Compiler} {s s' : Surroundings} {log : Option (List Text)}

theorem output_log (s : Surroundings) (level : Level) (message : Text) :
    (s.log level message).output = s.output := by
  unfold Surroundings.log
  split
  · rfl
  · split <;> rfl

theorem output_change (s : Surroundings) (result : Except FileFault FileSystem) :
    (s.change result).2.output = s.output := by
  cases result <;> rfl

theorem output_openLog (s : Surroundings) (p : Path) (detail : Nat) :
    (s.openLog p detail).2.output = s.output := by
  unfold openLog
  dsimp only
  split
  · rfl
  · split <;> rfl

theorem output_answer {r : Request} (h : r.isSilent = true) :
    (s.answer compiler r).2.output = s.output := by
  cases r with
  | print => cases h
  | writeText p t => exact output_change s _
  | openLog p detail => exact output_openLog s p detail
  | log level message => exact output_log s level message
  | compile source includes =>
    simp only [answer]
    cases compiler.announce includes with
    | none => rfl
    | some message => exact output_log s .debug message
  | readText | canonical | list | isFile | walk | createDirs | remembered | remember | printError
  | turn => rfl

end Surroundings

open Surroundings

variable {compiler : Compiler}

/-- **An action that is silent** leaves the standard output as it is. -/
theorem Action.run_output {α : Type} :
    ∀ {p : Action α} {s : Surroundings}, p.Asks Request.isSilent →
      (p.run compiler s).2.output = s.output
  | done _, _, _ => rfl
  | ask _ _, _, h => (run_output (h.2 _)).trans (output_answer h.1)

namespace Generator

open Request Stage

/-- **A generation prints nothing.** -/
theorem asks_generate (importLimit : Nat) (options : Options) :
    (generate importLimit options).Asks isSilent := by
  rw [generate_eq]
  refine asks_bind ((asks_load options).mono fun _ => isSilent_of_isSparing) fun sources => ?_
  refine asks_bind (asks_of (Action.asks_request rfl)) fun found => ?_
  cases found with
  | some theme => exact asks_bind (asks_of (Action.asks_request rfl)) fun _ => trivial
  | none =>
    refine asks_bind (asks_compute_of (fun _ => isSilent_of_isSparing) ?_ _ _) fun theme => ?_
    · exact fun path theme _ => asks_write_of (fun _ => rfl) rfl
    · exact asks_bind (asks_of (Action.asks_request rfl)) fun _ => trivial

theorem run_generate_output (compiler : Compiler) (importLimit : Nat) (options : Options)
    (s : Surroundings) :
    (Action.run compiler (generate importLimit options).run s).2.output = s.output :=
  Action.run_output (asks_generate importLimit options)

/-- **A generation without an output file** changes no file but the log file. -/
theorem grows_generate (hc : compiler.SparesFiles) {importLimit : Nat} {options : Options}
    (hfile : options.outputFile = none) {s s' : Surroundings} {log : Option (List Text)}
    (hlog : s.LogsTo log) {theme : Text}
    (h : Action.run compiler (generate importLimit options).run s = (.ok theme, s')) :
    s'.LogsTo log ∧ s.files.Grows log s'.files := by
  obtain ⟨sources, hloaded, ⟨-, rfl⟩ | ⟨-, t, hmade, rfl⟩⟩ := generate_ok_cases h
  · have hspares := spares_log hlog .info reuseMessage
    exact ⟨hspares.logsTo hlog, hspares.files⟩
  · have hcompute : (compute importLimit options sources).Asks isSparing :=
      asks_compute_of (fun _ => id) (fun path theme hpath => by cases hfile.symm.trans hpath) _ _
    have hspares := Action.spares_run hc hcompute hlog
    rw [hmade] at hspares
    exact ⟨(hspares.logsTo hlog).cache _, hspares.files⟩

end Generator

end Retint
