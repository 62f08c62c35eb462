import Retint.Proofs.Generator.Asks

/-!
# What the cache hands out

A generator that is called again and again carries nothing but its cache from one call to the
next. Files, options and everything else may be different each time. What a call answers is
compared here with what a generator would answer that is called for the first time.

The cache goes by the digest of what is loaded at first: the library's entry, the names of the
components, and the user's own file. What is read later has no part in it: the variable file and
its imports, the styles of the components, the custom styles, and the options themselves.

## Main definitions

* `Generator.Visit` — the surroundings and the options of one call
* `Generator.Visit.fresh` — what a generator answers that is called for the first time
* `Generator.session` — the answers of one generator, call after call
* `Generator.MadeAt` — the call that made the theme that is remembered
* `Generator.HeldFrom` — a call since which the digest has been the same

## Main results

* `Generator.generate_eq` — the generation as loading, looking for a remembered theme, and making
  one
* `Generator.generate_ok_cases` — the two ways to come to a theme
* `Generator.Visit.call_eq` — one call: the remembered theme if the digest is the same, else the
  fresh answer, which is then remembered
* `Generator.session_of_same_digest` — every answer is the fresh one, of this call or of the last
  one that did the work, and then the digests are the same; and as long as the digests are the
  same, so are the answers
* `Generator.session_stale` — it need not be the fresh one of this call
* `Generator.session_eq_fresh` — it is, if what is loaded determines the theme
-/

namespace Retint.Generator

open Request Stage

variable {compiler : Compiler}

/-! ### One call -/

/-- What is said when a remembered theme is returned. -/
def reuseMessage : Text := "Sources unchanged, reusing the cached theme".toList

/-- The theme made of the sources and written, without regard to what has been remembered. -/
def compute (importLimit : Nat) (options : Options) (sources : Sources) : Stage Text := do
  let theme ← produce importLimit options sources
  match options.outputFile with
  | none => pure ()
  | some path => write path theme
  of (Action.log .info (successMessage options.outputFile))
  return theme

/-- Making the theme and writing it asks for what making it does, and what writing it does. -/
theorem asks_compute_of {P : Request → Bool} {options : Options}
    (hP : ∀ r, r.isSparing = true → P r = true)
    (hwrite : ∀ path theme, options.outputFile = some path → (write path theme).Asks P)
    (importLimit : Nat) (sources : Sources) : (compute importLimit options sources).Asks P := by
  have hproduce := Action.Asks.mono hP (asks_produce importLimit options sources)
  refine asks_bind hproduce fun theme => ?_
  have asks_message : ∀ _ : Unit, Stage.Asks P (do
      of (Action.log .info (successMessage options.outputFile))
      return theme) :=
    fun _ => asks_bind (asks_of (Action.asks_request (hP _ rfl))) fun _ => trivial
  cases hfile : options.outputFile with
  | none =>
    rw [hfile] at asks_message
    exact asks_bind (p := pure ()) trivial asks_message
  | some path =>
    rw [hfile] at asks_message
    exact asks_bind (hwrite path theme hfile) asks_message

theorem asks_compute (importLimit : Nat) (options : Options) (sources : Sources) :
    (compute importLimit options sources).Asks isCacheFree :=
  asks_compute_of (fun _ => isCacheFree_of_isSparing) (fun path theme _ => asks_write path theme)
    importLimit sources

/-- The generation as its three parts: loading, looking for a remembered theme, and making one. -/
theorem generate_eq (importLimit : Nat) (options : Options) :
    generate importLimit options = (do
      let sources ← load options
      match ← of (Action.request (.remembered (Digest.ofText sources.content))) with
      | some theme =>
        of (Action.log .info reuseMessage)
        return theme
      | none =>
        let theme ← compute importLimit options sources
        of (Action.request (.remember (Digest.ofText sources.content) theme))
        return theme) := by
  unfold generate compute
  refine bind_congr fun sources => bind_congr fun found => ?_
  cases found with
  | some theme => rfl
  | none =>
    dsimp only
    rw [bind_assoc]
    refine bind_congr fun theme => ?_
    cases options.outputFile with
    | none => simp only [bind_assoc, pure_bind]
    | some path => simp only [bind_assoc, pure_bind]

theorem run_generate (importLimit : Nat) (options : Options) (s : Surroundings) :
    Action.run compiler (generate importLimit options).run s =
      match Action.run compiler (load options).run s with
      | (.error failure, s) => (.error failure, s)
      | (.ok sources, s) =>
        match s.cache.get? (Digest.ofText sources.content) with
        | some theme => (.ok theme, s.log .info reuseMessage)
        | none =>
          match Action.run compiler (compute importLimit options sources).run s with
          | (.error failure, s) => (.error failure, s)
          | (.ok theme, s) =>
            (.ok theme,
              { s with cache := s.cache.store (Digest.ofText sources.content) theme }) := by
  rw [generate_eq, run_bind]
  cases Action.run compiler (load options).run s with
  | mk result s =>
    cases result with
    | error => rfl
    | ok sources =>
      dsimp only
      rw [run_bind, run_of]
      dsimp only [Action.request, Action.run, Surroundings.answer]
      cases s.cache.get? (Digest.ofText sources.content) with
      | some theme => rfl
      | none =>
        dsimp only
        rw [run_bind]
        cases Action.run compiler (compute importLimit options sources).run s with
        | mk result s => cases result <;> rfl

/-- A generation that succeeds has loaded sources. It has found a theme that is remembered of them,
or it has made one. -/
theorem generate_ok_cases {importLimit : Nat} {options : Options} {s s' : Surroundings}
    {theme : Text}
    (h : Action.run compiler (generate importLimit options).run s = (.ok theme, s')) :
    ∃ sources, Action.run compiler (load options).run s = (.ok sources, s) ∧
      (s.cache.get? (Digest.ofText sources.content) = some theme ∧
          s' = s.log .info reuseMessage ∨
        s.cache.get? (Digest.ofText sources.content) = none ∧
          ∃ t, Action.run compiler (compute importLimit options sources).run s = (.ok theme, t) ∧
            s' = { t with cache := t.cache.store (Digest.ofText sources.content) theme }) := by
  have hlooked := Action.run_of_isLooking compiler s (looks_load options)
  rw [run_generate] at h
  split at h
  · cases h
  · rename_i sources t hloaded
    obtain rfl : t = s := (congrArg Prod.snd hloaded).symm.trans hlooked
    refine ⟨sources, hloaded, ?_⟩
    split at h
    · rename_i found hfound
      obtain ⟨hanswer, rfl⟩ := Prod.mk.inj h
      exact .inl ⟨hfound.trans (congrArg some (Except.ok.inj hanswer)), rfl⟩
    · rename_i hnone
      split at h
      · cases h
      · rename_i made u hmade
        obtain ⟨hanswer, rfl⟩ := Prod.mk.inj h
        obtain rfl := Except.ok.inj hanswer
        exact .inr ⟨hnone, u, hmade, rfl⟩

/-- A call of a generator: all that it can see, the cache apart, and the options. -/
structure Visit where
  world : Surroundings
  options : Options

namespace Visit

/-- The answer to a call that finds this cache, and the cache after it. -/
def call (compiler : Compiler) (v : Visit) (cache : Cache) : Except Failure Text × Cache :=
  let (answer, world) := Action.run compiler
    (generate (Bundle.treeLimit v.world.files) v.options).run { v.world with cache := cache }
  (answer, world.cache)

/-- The answer to the call if it is the first one. -/
def fresh (compiler : Compiler) (v : Visit) : Except Failure Text := (v.call compiler {}).1

/-- The digest of what is loaded at first, if that can be had. -/
def digest? (compiler : Compiler) (v : Visit) : Option Text :=
  match (Action.run compiler (load v.options).run v.world).1 with
  | .ok sources => some (Digest.ofText sources.content)
  | .error _ => none

/-- **One call.** If the digest is the remembered one, the answer is the remembered theme. Else it
is that of a first call, and if it is a theme, this is what is remembered from now on. -/
theorem call_eq (compiler : Compiler) (v : Visit) (cache : Cache) :
    v.call compiler cache =
      match v.digest? compiler with
      | none => (v.fresh compiler, cache)
      | some digest =>
        match cache.get? digest with
        | some theme => (.ok theme, cache)
        | none =>
          match v.fresh compiler with
          | .ok theme => (.ok theme, cache.store digest theme)
          | .error failure => (.error failure, cache) := by
  have hload := Action.run_cache compiler (Action.Asks.isCacheFree (asks_load v.options)) v.world
  simp only [fresh, call, run_generate, digest?]
  rw [hload cache, hload {}]
  cases Action.run compiler (load v.options).run v.world with
  | mk result s =>
    cases result with
    | error => rfl
    | ok sources =>
      have hcompute := Action.run_cache compiler
        (asks_compute (Bundle.treeLimit v.world.files) v.options sources) s
      dsimp only
      cases hget : cache.get? (Digest.ofText sources.content) with
      | some theme => simp only [Surroundings.log_cache]
      | none =>
        have hempty : ({} : Cache).get? (Digest.ofText sources.content) = none := rfl
        simp only [hempty, hcompute cache, hcompute {}]
        cases Action.run compiler
          (compute (Bundle.treeLimit v.world.files) v.options sources).run s with
        | mk result s => cases result <;> rfl

/-- An answer is that of a first call, or the remembered theme. -/
theorem fresh_or_remembered (compiler : Compiler) (v : Visit) (cache : Cache) :
    (v.call compiler cache).1 = v.fresh compiler ∨
      ∃ digest theme, v.digest? compiler = some digest ∧ cache.slot = some (digest, theme) ∧
        (v.call compiler cache).1 = .ok theme := by
  rw [call_eq]
  cases hd : v.digest? compiler with
  | none => exact .inl rfl
  | some digest =>
    cases hget : cache.get? digest with
    | none =>
      refine .inl ?_
      simp only [hget]
      cases v.fresh compiler <;> rfl
    | some theme =>
      exact .inr ⟨digest, theme, rfl, Cache.get?_eq_some_iff.mp hget, by simp only [hget]⟩

/-- With the remembered digest the answer is the remembered theme. -/
theorem call_of_remembered {v : Visit} {cache : Cache} {digest theme : Text}
    (hd : v.digest? compiler = some digest) (hslot : cache.slot = some (digest, theme)) :
    v.call compiler cache = (.ok theme, cache) := by
  simp only [call_eq, hd, Cache.get?_eq_some_iff.mpr hslot]

/-- A theme that is handed out is remembered from then on. -/
theorem slot_of_call_eq_ok {v : Visit} {cache : Cache} {digest theme : Text}
    (hd : v.digest? compiler = some digest) (h : (v.call compiler cache).1 = .ok theme) :
    (v.call compiler cache).2.slot = some (digest, theme) := by
  rw [call_eq, hd] at h ⊢
  cases hget : cache.get? digest with
  | some found =>
    simp only [hget, Except.ok.injEq] at h ⊢
    exact h ▸ Cache.get?_eq_some_iff.mp hget
  | none =>
    cases hfresh : v.fresh compiler with
    | error failure => simp [hget, hfresh] at h
    | ok made =>
      simp only [hget, hfresh, Except.ok.injEq] at h ⊢
      rw [Cache.store, h]

/-- A call that fails leaves the cache as it is. -/
theorem cache_of_call_eq_error {v : Visit} {cache : Cache} {failure : Failure}
    (h : (v.call compiler cache).1 = .error failure) : (v.call compiler cache).2 = cache := by
  rw [call_eq] at h ⊢
  cases hd : v.digest? compiler with
  | none => rfl
  | some digest =>
    cases hget : cache.get? digest with
    | some found => simp [hd, hget] at h
    | none =>
      cases hfresh : v.fresh compiler with
      | error failure => simp only [hget]
      | ok made => simp [hd, hget, hfresh] at h

/-- Where nothing can be loaded, no theme can be had. -/
theorem exists_failure_of_digest?_eq_none {v : Visit} (h : v.digest? compiler = none) :
    ∃ failure, v.fresh compiler = .error failure := by
  have hload := Action.run_cache compiler (Action.Asks.isCacheFree (asks_load v.options)) v.world {}
  simp only [fresh, call, run_generate, digest?] at h ⊢
  rw [hload]
  cases hr : (Action.run compiler (load v.options).run v.world).1 with
  | error failure => exact ⟨failure, rfl⟩
  | ok sources => simp [hr] at h

end Visit

/-! ### Many calls -/

/-- The answers of a generator that starts with a cache, call after call. -/
def session (compiler : Compiler) : Cache → List Visit → List (Except Failure Text)
  | _, [] => []
  | cache, v :: rest =>
    (v.call compiler cache).1 :: session compiler (v.call compiler cache).2 rest

/-- The cache that the call with an index finds. -/
def cacheAt (compiler : Compiler) : Cache → List Visit → Nat → Cache
  | cache, v :: rest, i + 1 => cacheAt compiler (v.call compiler cache).2 rest i
  | cache, _, _ => cache

variable {visits : List Visit} {v : Visit} {i : Nat} {digest theme : Text}

theorem getElem?_session (compiler : Compiler) (cache : Cache) (visits : List Visit) (i : Nat) :
    (session compiler cache visits)[i]? =
      visits[i]?.map fun v => (v.call compiler (cacheAt compiler cache visits i)).1 := by
  induction visits generalizing cache i with
  | nil => rfl
  | cons v rest ih =>
    cases i with
    | zero => rfl
    | succ i =>
      rw [session, cacheAt, List.getElem?_cons_succ, List.getElem?_cons_succ]
      exact ih (v.call compiler cache).2 i

theorem cacheAt_succ (compiler : Compiler) (cache : Cache) (h : visits[i]? = some v) :
    cacheAt compiler cache visits (i + 1) =
      (v.call compiler (cacheAt compiler cache visits i)).2 := by
  induction visits generalizing cache i with
  | nil => simp at h
  | cons u rest ih =>
    cases i with
    | zero =>
      obtain rfl : u = v := by simpa using h
      cases rest <;> rfl
    | succ i =>
      rw [List.getElem?_cons_succ] at h
      rw [cacheAt, cacheAt]
      exact ih (u.call compiler cache).2 h

/-- What has been remembered when the call `i` comes: the theme was made by the call `j`, when the
digest was this one, and each call after that failed or was handed the same theme, with the same
digest. -/
def MadeAt (compiler : Compiler) (visits : List Visit) (i j : Nat) (digest theme : Text) : Prop :=
  j < i ∧
    (∃ w, visits[j]? = some w ∧ w.digest? compiler = some digest ∧ w.fresh compiler = .ok theme) ∧
    ∀ k, j < k → k < i → ∀ u, visits[k]? = some u →
      (∃ failure, (session compiler {} visits)[k]? = some (.error failure)) ∨
        u.digest? compiler = some digest ∧ (session compiler {} visits)[k]? = some (.ok theme)

/-- A call that fails or is handed the theme leaves it remembered. -/
theorem MadeAt.succ {j : Nat} (h : MadeAt compiler visits i j digest theme)
    (hv : visits[i]? = some v)
    (hi : (∃ failure, (session compiler {} visits)[i]? = some (.error failure)) ∨
      v.digest? compiler = some digest ∧ (session compiler {} visits)[i]? = some (.ok theme)) :
    MadeAt compiler visits (i + 1) j digest theme := by
  obtain ⟨hj, hmade, hsince⟩ := h
  refine ⟨Nat.lt_succ_of_lt hj, hmade, fun k hjk hk u hu => ?_⟩
  rcases Nat.lt_succ_iff_lt_or_eq.mp hk with hk | rfl
  · exact hsince k hjk hk u hu
  · obtain rfl : v = u := Option.some.inj (hv.symm.trans hu)
    exact hi

/-- What is in the cache was put there by a call before. -/
theorem exists_madeAt (h : i ≤ visits.length)
    (hslot : (cacheAt compiler {} visits i).slot = some (digest, theme)) :
    ∃ j, MadeAt compiler visits i j digest theme := by
  induction i generalizing digest theme with
  | zero =>
    have hnone : (cacheAt compiler {} visits 0).slot = none := by cases visits <;> rfl
    simp [hnone] at hslot
  | succ i ih =>
    have hv : visits[i]? = some visits[i] := List.getElem?_eq_getElem h
    have hanswer := getElem?_session compiler {} visits i
    rw [cacheAt_succ compiler {} hv, Visit.call_eq] at hslot
    rw [hv, Option.map_some, Visit.call_eq] at hanswer
    cases hd : visits[i].digest? compiler with
    | none =>
      simp only [hd] at hslot hanswer
      obtain ⟨j, hj⟩ := ih (Nat.le_of_lt h) hslot
      obtain ⟨failure, hf⟩ := Visit.exists_failure_of_digest?_eq_none hd
      exact ⟨j, hj.succ hv (.inl ⟨failure, by rw [hanswer, hf]⟩)⟩
    | some d =>
      simp only [hd] at hslot hanswer
      cases hget : (cacheAt compiler {} visits i).get? d with
      | some t =>
        simp only [hget] at hslot hanswer
        obtain ⟨j, hj⟩ := ih (Nat.le_of_lt h) hslot
        obtain ⟨rfl, rfl⟩ : digest = d ∧ theme = t :=
          Prod.mk.inj (Option.some.inj (hslot.symm.trans (Cache.get?_eq_some_iff.mp hget)))
        exact ⟨j, hj.succ hv (.inr ⟨hd, hanswer⟩)⟩
      | none =>
        simp only [hget] at hslot hanswer
        cases hfresh : visits[i].fresh compiler with
        | error failure =>
          simp only [hfresh] at hslot hanswer
          obtain ⟨j, hj⟩ := ih (Nat.le_of_lt h) hslot
          exact ⟨j, hj.succ hv (.inl ⟨failure, hanswer⟩)⟩
        | ok t =>
          simp only [hfresh, Cache.store, Option.some.injEq, Prod.mk.injEq] at hslot
          obtain ⟨rfl, rfl⟩ := hslot
          exact ⟨i, Nat.lt_succ_self i, ⟨_, hv, hd, hfresh⟩, fun k hk hk' => by omega⟩

/-- The call `j` was answered with the theme, when the digest was this one, and each call after it
and before the call `i` failed or had the same digest. -/
def HeldFrom (compiler : Compiler) (visits : List Visit) (i j : Nat) (digest theme : Text) : Prop :=
  j < i ∧
    (∃ w, visits[j]? = some w ∧ w.digest? compiler = some digest ∧
      (session compiler {} visits)[j]? = some (.ok theme)) ∧
    ∀ k, j < k → k < i → ∀ u, visits[k]? = some u →
      (∃ failure, (session compiler {} visits)[k]? = some (.error failure)) ∨
        u.digest? compiler = some digest

/-- **What has been handed out is kept.** The induction is on the calls since. -/
theorem HeldFrom.slot_eq {j : Nat} (h : HeldFrom compiler visits i j digest theme)
    (hi : i ≤ visits.length) : (cacheAt compiler {} visits i).slot = some (digest, theme) := by
  obtain ⟨hj, ⟨w, hw, hdigest, hanswer⟩, hsince⟩ := h
  induction i with
  | zero => exact absurd hj (Nat.not_lt_zero j)
  | succ i ih =>
    rcases Nat.lt_succ_iff_lt_or_eq.mp hj with hj | rfl
    · have hslot := ih (Nat.le_of_lt hi) hj fun k hjk hk => hsince k hjk (Nat.lt_succ_of_lt hk)
      have hv : visits[i]? = some visits[i] := List.getElem?_eq_getElem hi
      rw [cacheAt_succ compiler {} hv]
      rcases hsince i hj (Nat.lt_succ_self i) _ hv with ⟨failure, hfailed⟩ | hsame
      · rw [getElem?_session, hv, Option.map_some, Option.some.injEq] at hfailed
        rw [Visit.cache_of_call_eq_error hfailed]
        exact hslot
      · rw [Visit.call_of_remembered hsame hslot]
        exact hslot
    · rw [getElem?_session, hw, Option.map_some, Option.some.injEq] at hanswer
      rw [cacheAt_succ compiler {} hw]
      exact Visit.slot_of_call_eq_ok hdigest hanswer

/-- If what is loaded at first determines the theme, every answer is that of a first call. -/
theorem session_eq_fresh (compiler : Compiler) (visits : List Visit)
    (h : ∀ v ∈ visits, ∀ w ∈ visits, v.digest? compiler = w.digest? compiler →
      v.digest? compiler ≠ none → v.fresh compiler = w.fresh compiler) :
    session compiler {} visits = visits.map (·.fresh compiler) := by
  refine List.ext_getElem? fun i => ?_
  rw [List.getElem?_map, getElem?_session]
  cases hv : visits[i]? with
  | none => rfl
  | some v =>
    have hlt : i < visits.length := (List.getElem?_eq_some_iff.mp hv).1
    rw [Option.map_some, Option.map_some, Option.some.injEq]
    rcases v.fresh_or_remembered compiler (cacheAt compiler {} visits i) with
      hfresh | ⟨digest, theme, hd, hslot, hanswer⟩
    · exact hfresh
    · obtain ⟨j, -, ⟨w, hw, hdw, hfresh⟩, -⟩ := exists_madeAt (Nat.le_of_lt hlt) hslot
      rw [hanswer, ← hfresh]
      refine (h v (List.mem_of_getElem? hv) w (List.mem_of_getElem? hw) ?_ ?_).symm
      · rw [hd, hdw]
      · simp [hd]

/-- **What the cache hands out.** Every call of a generator has an answer. It is the answer of a
first call, or it is a theme that a first call would have made of what the generator was called
with before, at the last call that made one; and then what is loaded at first has had the same
digest at that call and at all calls since that did not fail. The other way round, if a call before
was answered with a theme and what is loaded at first has had the same digest ever since, failed
calls apart, then the answer is this theme, whatever else has changed. -/
theorem session_of_same_digest (compiler : Compiler) (visits : List Visit) (i : Nat) (v : Visit)
    (hv : visits[i]? = some v) :
    ∃ answer, (session compiler {} visits)[i]? = some answer ∧
      (answer = v.fresh compiler ∨
        ∃ j digest theme, answer = .ok theme ∧ v.digest? compiler = some digest ∧
          MadeAt compiler visits i j digest theme) ∧
      ∀ j digest theme, HeldFrom compiler visits i j digest theme →
        v.digest? compiler = some digest → answer = .ok theme := by
  have hlt : i < visits.length := (List.getElem?_eq_some_iff.mp hv).1
  refine ⟨_, by rw [getElem?_session, hv, Option.map_some], ?_, fun j digest theme hheld hd => ?_⟩
  · rcases v.fresh_or_remembered compiler (cacheAt compiler {} visits i) with
      hfresh | ⟨digest, theme, hd, hslot, hanswer⟩
    · exact .inl hfresh
    · obtain ⟨j, hj⟩ := exists_madeAt (Nat.le_of_lt hlt) hslot
      exact .inr ⟨j, digest, theme, hanswer, hd, hj⟩
  · rw [Visit.call_of_remembered hd (hheld.slot_eq (Nat.le_of_lt hlt))]

/-! A library with a variable file, called twice, with another color in the file the second
time. -/

/-- The compiler that answers every sheet with the empty one. -/
def blankCompiler : Compiler := .byRules [⟨[], .ok []⟩]

/-- The call for a library whose variable file has this text. -/
def variableVisit (sheet : Text) : Visit where
  world := {
    files := ⟨.dir [("lib".toList, .dir [("style".toList, .dir [
      ("index.less".toList, .file (.text []) false),
      ("themes".toList, .dir [("default.less".toList, .file (.text sheet) false)])])])], []⟩ }
  options := .of ⟨"lib".toList⟩ ⟨"styles".toList⟩

/-- The variable file at the first call. -/
def darkVariables : Text := "@primary-color: #111;".toList

/-- The variable file at the second call. -/
def lightVariables : Text := "@primary-color: #eee;".toList

theorem fresh_variableVisit {sheet : Text}
    (h : sheet = darkVariables ∨ sheet = lightVariables) :
    (variableVisit sheet).fresh blankCompiler = .ok (sheet ++ "\n\n\n\n".toList) := by
  have htheme : ((variableVisit sheet).fresh blankCompiler).toOption =
      some (sheet ++ "\n\n\n\n".toList) := by
    rcases h with rfl | rfl <;> decide +kernel
  cases hr : (variableVisit sheet).fresh blankCompiler with
  | error =>
    rw [hr] at htheme
    cases htheme
  | ok theme =>
    have heq : theme = sheet ++ "\n\n\n\n".toList := by
      rw [hr] at htheme
      exact Option.some.inj htheme
    rw [heq]

theorem digest?_variableVisit {sheet : Text}
    (h : sheet = darkVariables ∨ sheet = lightVariables) :
    (variableVisit sheet).digest? blankCompiler = some (Digest.ofText ['\n']) := by
  have hcontent : (Action.run blankCompiler (load (variableVisit sheet).options).run
      (variableVisit sheet).world).1.toOption.map Sources.content = some ['\n'] := by
    rcases h with rfl | rfl <;> decide +kernel
  unfold Visit.digest?
  cases hr : (Action.run blankCompiler (load (variableVisit sheet).options).run
      (variableVisit sheet).world).1 with
  | error =>
    rw [hr] at hcontent
    cases hcontent
  | ok sources =>
    have hsources : sources.content = ['\n'] := by
      rw [hr] at hcontent
      exact Option.some.inj hcontent
    simp only [hsources]

/-- **The answer can be out of date.** The second call is handed the theme of the first, though a
first call would make another one of its variable file. -/
theorem session_stale :
    (session blankCompiler {} [variableVisit darkVariables, variableVisit lightVariables])[1]? =
        some (.ok (darkVariables ++ "\n\n\n\n".toList)) ∧
      (variableVisit lightVariables).fresh blankCompiler =
        .ok (lightVariables ++ "\n\n\n\n".toList) ∧
      darkVariables ++ "\n\n\n\n".toList ≠ lightVariables ++ "\n\n\n\n".toList := by
  refine ⟨?_, fresh_variableVisit (.inr rfl), by decide⟩
  rw [getElem?_session]
  simp only [cacheAt, List.getElem?_cons_succ, List.getElem?_cons_zero, Option.map_some]
  rw [Visit.call_eq _ (variableVisit lightVariables), digest?_variableVisit (.inr rfl),
    Visit.call_eq, digest?_variableVisit (.inl rfl), fresh_variableVisit (.inl rfl)]
  simp [Cache.get?, Cache.store]

/-- The first call is answered with a theme, so the second one has the same answer. -/
theorem session_of_same_digest_variables :
    let visits := [variableVisit darkVariables, variableVisit lightVariables]
    visits[1]? = some (variableVisit lightVariables) ∧
      HeldFrom blankCompiler visits 1 0 (Digest.ofText ['\n'])
        (darkVariables ++ "\n\n\n\n".toList) ∧
      ∃ answer, (session blankCompiler {} visits)[1]? = some answer ∧
        (answer = (variableVisit lightVariables).fresh blankCompiler ∨
          ∃ j digest theme, answer = .ok theme ∧
            (variableVisit lightVariables).digest? blankCompiler = some digest ∧
            MadeAt blankCompiler visits 1 j digest theme) ∧
        answer = .ok (darkVariables ++ "\n\n\n\n".toList) := by
  intro visits
  have hheld : HeldFrom blankCompiler visits 1 0 (Digest.ofText ['\n'])
      (darkVariables ++ "\n\n\n\n".toList) := by
    refine ⟨Nat.one_pos, ⟨_, rfl, digest?_variableVisit (.inl rfl), ?_⟩, fun k hk hk' => by omega⟩
    rw [getElem?_session, ← fresh_variableVisit (.inl rfl)]
    rfl
  obtain ⟨answer, hanswer, hfresh, hkept⟩ := session_of_same_digest blankCompiler visits 1 _ rfl
  exact ⟨rfl, hheld, answer, hanswer, hfresh, hkept _ _ _ hheld (digest?_variableVisit (.inr rfl))⟩

end Retint.Generator
