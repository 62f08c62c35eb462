import Retint.Proofs.CustomStyles.Discovery
import Retint.Proofs.CustomStyles.Quiet

/-!
# One slot for each style file

The style files under a directory are compiled together, and the steps of their compilations come
in any order. The result has one slot for each file, in the order of the walk. What is in a slot is
a matter of that file alone: it is what the file compiles to, or nothing if it cannot be read or
does not compile.

The order of the steps is what the surroundings reply to the questions for turns, so it is any
order at all. The log file is taken to be none of the style files.

## Main definitions

* `CustomStyles.slot` — what a file contributes
* `CustomStyles.call?` — the compilation that is asked for it

## Main results

* `CustomStyles.replied_compileFile` — one file, by what it is replied
* `CustomStyles.run_all` — all files, in whatever order their steps come
* `CustomStyles.compile_slots` — the headline
-/

namespace Retint.CustomStyles

open Retint.Action

variable {compiler : Compiler} {f : Text → List Path → Except Failure Text}
  {s : Surroundings} {log : Option (List Text)} {stylesDir libraryDir file : Path}
  {files : List Path}

/-- What a file contributes: what its text compiles to, or nothing. -/
def slot (f : Text → List Path → Except Failure Text) (files : FileSystem)
    (stylesDir libraryDir file : Path) : Text :=
  match files.readText file with
  | .error _ => []
  | .ok source =>
    match f source (includes stylesDir libraryDir file) with
    | .error _ => []
    | .ok css => css

/-- The compilation that is asked for a file, if it can be read. -/
def call? (files : FileSystem) (stylesDir libraryDir file : Path) : Option Call :=
  (files.readText file).toOption.map (⟨·, includes stylesDir libraryDir file⟩)

/-! ### One file -/

/-- A file that could not be read contributes nothing, and nothing is compiled for it. -/
theorem slot_of_unread (f : Text → List Path → Except Failure Text) (stylesDir libraryDir : Path)
    (h : (s.files.readText file).toOption = none) :
    slot f s.files stylesDir libraryDir file = [] ∧
      call? s.files stylesDir libraryDir file = none := by
  unfold slot call?
  cases hread : s.files.readText file with
  | error fault => exact ⟨rfl, rfl⟩
  | ok source => simp [hread, Except.toOption] at h

/-- **One file**: what it contributes, and the compilation that is asked for it. -/
theorem replied_compileFile {events : List Event} {css : Text}
    (h : Replied (compileFile stylesDir libraryDir file) events (done css))
    (hfits : ∀ e ∈ events, e.Fits f s) (hbeside : s.LogsBeside file) :
    css = slot f s.files stylesDir libraryDir file ∧
      events.filterMap (fun e => e.request.call?) =
        (call? s.files stylesDir libraryDir file).toList := by
  cases h with
  | @step _ _ reply more _ h =>
    obtain ⟨hread, hmore⟩ := List.forall_mem_cons.mp hfits
    replace hread : Except.toOption reply = (s.files.readText file).toOption := hread hbeside
    cases reply with
    | error fault =>
      obtain ⟨hslot, hcall⟩ := slot_of_unread f stylesDir libraryDir hread.symm
      rw [hslot, hcall]
      cases h with
      | step h =>
        obtain ⟨rfl, hcss⟩ := h.eq_of_done
        exact ⟨done.inj hcss, rfl⟩
    | ok source =>
      have hsource : s.files.readText file = .ok source :=
        toOption_eq_some_iff.mp hread.symm
      rw [slot, call?, hsource]
      cases h with
      | @step _ _ result last _ h =>
        obtain ⟨hresult, -⟩ := List.forall_mem_cons.mp hmore
        replace hresult : result = f source (includes stylesDir libraryDir file) := hresult
        dsimp only
        rw [← hresult]
        cases result with
        | ok css' =>
          obtain ⟨rfl, hcss⟩ := h.eq_of_done
          exact ⟨done.inj hcss, rfl⟩
        | error fault =>
          cases h with
          | step h =>
            obtain ⟨rfl, hcss⟩ := h.eq_of_done
            exact ⟨done.inj hcss, rfl⟩

theorem isQuiet_compileFile (stylesDir libraryDir file : Path) :
    (compileFile stylesDir libraryDir file).Asks Request.isQuiet := by
  refine asks_do (asks_request rfl) fun source => ?_
  cases source with
  | error => exact asks_do (asks_request rfl) fun _ => trivial
  | ok source =>
    refine asks_do (asks_request rfl) fun css => ?_
    cases css with
    | ok => trivial
    | error => exact asks_do (asks_request rfl) fun _ => trivial

/-! ### All files -/

/-- What all files contribute together, and the compilations that are asked for. -/
theorem replied_compileFiles {runs : List (List Event × Text)}
    (hruns : List.Forall₂ (fun p run => Replied p run.1 (done run.2))
      (files.map (compileFile stylesDir libraryDir)) runs)
    (hfits : ∀ run ∈ runs, ∀ e ∈ run.1, e.Fits f s) (hbeside : ∀ file ∈ files, s.LogsBeside file) :
    runs.map Prod.snd = files.map (slot f s.files stylesDir libraryDir) ∧
      (runs.flatMap Prod.fst).filterMap (fun e => e.request.call?) =
        files.filterMap (call? s.files stylesDir libraryDir) := by
  induction files generalizing runs with
  | nil =>
    cases hruns
    exact ⟨rfl, rfl⟩
  | cons file files ih =>
    cases hruns with
    | @cons _ run _ runs hrun hruns =>
      obtain ⟨hfit, hfits⟩ := List.forall_mem_cons.mp hfits
      obtain ⟨hfirst, hrest⟩ := List.forall_mem_cons.mp hbeside
      obtain ⟨hcss, hcall⟩ := replied_compileFile hrun hfit hfirst
      obtain ⟨hslots, hcalls⟩ := ih hruns hfits hrest
      refine ⟨?_, ?_⟩
      · rw [List.map_cons, List.map_cons, hcss, hslots]
      · rw [List.flatMap_cons, List.filterMap_append, hcall, hcalls]
        cases hcall? : call? s.files stylesDir libraryDir file <;> simp [hcall?]

/-- **All files**, in whatever order their steps come: each has its slot, in the order of the files,
and a compilation is asked for each of them that can be read. -/
theorem run_all (stylesDir libraryDir : Path) (hc : compiler.Computes f) (hlog : s.LogsTo log)
    (hbeside : ∀ file ∈ files, s.LogsBeside file) :
    (run compiler (all (files.map (compileFile stylesDir libraryDir))) s).1 =
        files.map (slot f s.files stylesDir libraryDir) ∧
      ∃ calls, (run compiler (all (files.map (compileFile stylesDir libraryDir))) s).2.calls =
          s.calls ++ calls ∧
        calls.Perm (files.filterMap (call? s.files stylesDir libraryDir)) := by
  have hasks : (all (files.map (compileFile stylesDir libraryDir))).Asks Request.isQuiet := by
    refine asks_all rfl _ fun p hp => ?_
    obtain ⟨file, -, rfl⟩ := List.mem_map.mp hp
    exact isQuiet_compileFile stylesDir libraryDir file
  obtain ⟨events, hreplied, hanswered⟩ := exists_answered compiler
    (all (files.map (compileFile stylesDir libraryDir))) s
  have hquiet := hreplied.of_asks hasks
  have hfits := hanswered.fits hc hlog hquiet
  obtain ⟨runs, hanswer, hruns, turns, hturns, hperm⟩ := replied_all hreplied
  rw [List.append_nil] at hperm
  have hslots := replied_compileFiles hruns (fun run hrun e he => hfits e (hperm.mem_iff.mpr
    (List.mem_append_left _ (List.mem_flatMap.mpr ⟨run, hrun, he⟩)))) hbeside
  refine ⟨hanswer.trans hslots.1, _, hanswered.calls_eq hc hquiet, ?_⟩
  have hnone : turns.filterMap (fun e => e.request.call?) = [] :=
    List.filterMap_eq_nil_iff.mpr fun e he => by rw [hturns e he]; rfl
  have hcalls := hperm.filterMap fun e : Event => e.request.call?
  rw [List.filterMap_append, hnone, List.append_nil, hslots.2] at hcalls
  exact hcalls

/-! ### The directory -/

/-- A style file has a directory, in which its imports are looked for at first. -/
theorem includes_of_mem_sheets (stylesDir libraryDir : Path) (h : file ∈ sheets files) :
    ∃ dir, file.parent? = some dir ∧
      includes stylesDir libraryDir file = [dir, stylesDir, libraryDir] := by
  have hextension : file.extension? = some Import.extension :=
    of_decide_eq_true (List.mem_filter.mp h).2
  cases hpart : file.lastPart? with
  | none => simp [Path.extension?, Path.fileName?, hpart] at hextension
  | some part =>
    obtain ⟨name, before⟩ := part
    have hparent : file.parent?.isSome := by simp [Path.parent?, hpart]
    obtain ⟨dir, hdir⟩ := Option.isSome_iff_exists.mp hparent
    exact ⟨dir, hdir, by rw [includes, hdir]; rfl⟩

/-- If the directory cannot be walked, that is logged and nothing else is done. -/
theorem run_compile_of_error {fault : FileFault} (h : s.files.walk stylesDir = .error fault) :
    run compiler (compile stylesDir libraryDir) s =
      ([], s.log .error ("Failed to scan custom styles in ".toList ++ stylesDir.text ++
        ": ".toList ++ walkReport stylesDir fault)) := by
  refine (run_bind compiler (request (.walk stylesDir)) _ s).trans ?_
  simp only [request, run, Surroundings.answer, h]
  rfl

/-- If it can, the style files are compiled together. -/
theorem run_compile_of_ok (h : s.files.walk stylesDir = .ok files) :
    run compiler (compile stylesDir libraryDir) s =
      (Text.joinWith ['\n'] (run compiler
          (all ((sheets files).map (compileFile stylesDir libraryDir))) s).1,
        (run compiler (all ((sheets files).map (compileFile stylesDir libraryDir))) s).2) := by
  refine (run_bind compiler (request (.walk stylesDir)) _ s).trans ?_
  simp only [request, run, Surroundings.answer, h]
  exact run_bind compiler _ _ s

/-- **One slot for each style file.** Whatever the compiler does and in whatever order the steps
come, the result has the slots of the style files in the order of the walk; the compiler is called
once for each file that can be read. If all files but one would contribute the same under another
compiler in other surroundings, then so they do. If the directory cannot be walked, the result is
empty and the compiler is not called. -/
theorem compile_slots (compiler : Compiler) (f : Text → List Path → Except Failure Text)
    (hc : compiler.Computes f) (s : Surroundings) (log : Option (List Text)) (hlog : s.LogsTo log)
    (stylesDir libraryDir : Path) :
    (∀ fault, s.files.walk stylesDir = .error fault →
        (run compiler (compile stylesDir libraryDir) s).1 = [] ∧
          (run compiler (compile stylesDir libraryDir) s).2.calls = s.calls) ∧
      ∀ files, s.files.walk stylesDir = .ok files →
        (∀ file ∈ sheets files, s.LogsBeside file) →
        (∀ file ∈ sheets files, ∃ dir, file.parent? = some dir ∧
          includes stylesDir libraryDir file = [dir, stylesDir, libraryDir]) ∧
        (run compiler (compile stylesDir libraryDir) s).1 =
          Text.joinWith ['\n'] ((sheets files).map (slot f s.files stylesDir libraryDir)) ∧
        (∃ calls, (run compiler (compile stylesDir libraryDir) s).2.calls = s.calls ++ calls ∧
          calls.Perm ((sheets files).filterMap (call? s.files stylesDir libraryDir))) ∧
        ∀ (compiler' : Compiler) (g : Text → List Path → Except Failure Text) (t : Surroundings)
          (log' : Option (List Text)) (changed : Path), compiler'.Computes g → t.LogsTo log' →
          t.files.walk stylesDir = .ok files → (∀ file ∈ sheets files, t.LogsBeside file) →
          (∀ file ∈ sheets files, file ≠ changed → slot g t.files stylesDir libraryDir file =
            slot f s.files stylesDir libraryDir file) →
          (run compiler' (compile stylesDir libraryDir) t).1 =
            Text.joinWith ['\n'] ((sheets files).map fun file =>
              if file = changed then slot g t.files stylesDir libraryDir changed
              else slot f s.files stylesDir libraryDir file) := by
  refine ⟨fun fault hwalk => ?_, fun files hwalk hbeside => ?_⟩
  · rw [run_compile_of_error hwalk]
    exact ⟨rfl, Surroundings.log_calls s .error _⟩
  obtain ⟨hslots, hcalls⟩ := run_all stylesDir libraryDir hc hlog hbeside
  refine ⟨fun file hfile => includes_of_mem_sheets stylesDir libraryDir hfile, ?_, ?_, ?_⟩
  · rw [run_compile_of_ok hwalk, hslots]
  · rwa [run_compile_of_ok hwalk]
  · intro compiler' g t log' changed hc' hlog' hwalk' hbeside' hothers
    have hslots' := (run_all stylesDir libraryDir hc' hlog' hbeside').1
    rw [run_compile_of_ok hwalk', hslots']
    refine congrArg (Text.joinWith ['\n']) (List.map_congr_left fun file hfile => ?_)
    by_cases hchanged : file = changed
    · rw [if_pos hchanged, hchanged]
    · rw [if_neg hchanged]
      exact hothers file hfile hchanged

/-! Of three style files one does not compile and one is no text. The last file takes its steps
first. -/

/-- The compiler. -/
def mixedCompiler : Compiler :=
  .byRules [⟨"@broken".toList, .error "undefined".toList⟩, ⟨[], .ok ".a {}".toList⟩]

/-- The directory of the style files. -/
def mixedStyles : List (Text × Files.Entry) :=
  [("main.less".toList, .file (.text ".a { color: @x; }".toList) false),
    ("icons".toList, .dir [("raw.less".toList, .file (.raw [0xff]) false)]),
    ("broken.less".toList, .file (.text ".b { @broken; }".toList) false)]

/-- The surroundings. -/
def mixedWorld : Surroundings where
  files := ⟨.dir [("theme.log".toList, .file (.text []) false),
    ("styles".toList, .dir mixedStyles)], []⟩
  turns := [false, false, false, false]
  logger := some ⟨⟨"theme.log".toList⟩, 2⟩

/-- What is found in the directory. -/
def mixedFiles : List Path :=
  ["styles/broken.less", "styles/icons/raw.less", "styles/main.less"].map Path.ofString

theorem compile_slots_mixed :
    mixedWorld.LogsTo (some ["theme.log".toList]) ∧
      mixedWorld.files.walk ⟨"styles".toList⟩ = .ok mixedFiles ∧
      (∀ file ∈ sheets mixedFiles, mixedWorld.LogsBeside file) ∧
      (run mixedCompiler (compile ⟨"styles".toList⟩ ⟨"lib".toList⟩) mixedWorld).1 =
        "\n\n.a {}".toList ∧
      (run mixedCompiler (compile ⟨"styles".toList⟩ ⟨"lib".toList⟩) mixedWorld).2.calls.Perm [
        ⟨".b { @broken; }".toList, ["styles", "styles", "lib"].map Path.ofString⟩,
        ⟨".a { color: @x; }".toList, ["styles", "styles", "lib"].map Path.ofString⟩] := by
  have hlog : mixedWorld.LogsTo (some ["theme.log".toList]) :=
    ⟨⟨⟨"theme.log".toList⟩, 2⟩, .text [], false, rfl, by decide +kernel, rfl⟩
  have hwalk : mixedWorld.files.walk ⟨"styles".toList⟩ = .ok mixedFiles := by
    have hplaces : (Files.Entry.dir mixedStyles).walked = [["broken.less".toList],
        ["icons".toList, "raw.less".toList], ["main.less".toList]] :=
      Files.Entry.walked_eq_of_perm (by decide +kernel) (by decide +kernel) (by decide +kernel)
    rw [walk_dir (by rfl : mixedWorld.files.entry? ⟨"styles".toList⟩ = .ok (.dir mixedStyles)),
      Files.Entry.files_eq, hplaces]
    decide +kernel
  have hbeside : ∀ file ∈ sheets mixedFiles, mixedWorld.LogsBeside file := by
    rintro file hfile logger ⟨⟩
    revert file
    decide +kernel
  obtain ⟨-, hslots, ⟨calls, hcalls, hperm⟩, -⟩ := (compile_slots mixedCompiler
    (fun source includes => (mixedCompiler.compile mixedWorld.files source includes).1)
    (fun _ _ _ => rfl) mixedWorld _ hlog ⟨"styles".toList⟩ ⟨"lib".toList⟩).2 mixedFiles
    hwalk hbeside
  refine ⟨hlog, hwalk, hbeside, hslots.trans (by decide +kernel), ?_⟩
  rw [hcalls]
  refine hperm.trans (.of_eq ?_)
  decide +kernel

end Retint.CustomStyles
