import Retint.Generator
import Retint.Surroundings

/-!
# What an action asks for

An action can only depend on what it asks for. If it asks for some kinds of things only, whatever
the replies are, then what these requests do not touch has no influence on its answer and comes out
as it went in. This is worked out for the cache: no stage of the generation looks at it, apart from
the step that returns a remembered theme and the step that remembers one. The stages up to the
writing of the theme write no file either.

## Main definitions

* `Action.Asks` — whatever the replies are, all requests of the action are of a kind
* `Request.isCacheFree` — the request is not about the cache
* `Request.isSparing` — nor does it write a file
* `Request.isLooking` — it looks at the files and changes nothing

## Main results

* `Action.run_cache` — an action that does not ask for the cache runs the same with any other
* `Action.run_of_isLooking` — an action that only looks at the files leaves everything as it is
* `Stage.run_bind`, `Stage.exists_of_run_bind` — a stage that follows another one
* `Generator.asks_load`, `Generator.asks_produce`, `Generator.asks_write` — the stages
-/

namespace Retint

/-- The request neither looks at the cache nor changes it. -/
def Request.isCacheFree : Request → Bool
  | .remembered _ | .remember .. => false
  | _ => true

/-- The request is not about the cache and writes no file, the log file apart. It can create
directories. -/
def Request.isSparing : Request → Bool
  | .remembered _ | .remember .. | .writeText .. | .openLog .. | .print _ | .printError _ => false
  | _ => true

/-- The request looks at the files and changes nothing. -/
def Request.isLooking : Request → Bool
  | .readText _ | .canonical _ | .list _ | .isFile _ | .walk _ => true
  | _ => false

theorem Request.isSparing_of_isLooking {r : Request} (h : r.isLooking = true) :
    r.isSparing = true := by
  cases r with
  | readText | canonical | list | isFile | walk => rfl
  | _ => cases h

theorem Request.isCacheFree_of_isSparing {r : Request} (h : r.isSparing = true) :
    r.isCacheFree = true := by
  cases r with
  | remembered | remember => exact h
  | _ => rfl

namespace Action

variable {α β γ : Type} {P : Request → Bool}

/-- Whatever it is replied, the action asks only for what satisfies `P`. -/
def Asks (P : Request → Bool) : Action α → Prop
  | done _ => True
  | ask r next => P r = true ∧ ∀ reply, (next reply).Asks P

theorem asks_done (a : α) : (done a).Asks P := trivial

theorem Asks.mono {Q : Request → Bool} (hPQ : ∀ r, P r = true → Q r = true) :
    ∀ {p : Action α}, p.Asks P → p.Asks Q
  | done _, _ => trivial
  | ask r _, h => ⟨hPQ r h.1, fun reply => Asks.mono hPQ (h.2 reply)⟩

theorem Asks.isCacheFree {p : Action α} (h : p.Asks Request.isSparing) :
    p.Asks Request.isCacheFree :=
  h.mono fun _ => Request.isCacheFree_of_isSparing

theorem asks_request {r : Request} (h : P r = true) : (request r).Asks P :=
  ⟨h, fun reply => asks_done (P := P) reply⟩

theorem asks_bind {f : α → Action β} (hf : ∀ a, (f a).Asks P) :
    ∀ p : Action α, p.Asks P → (p.bind f).Asks P
  | done a, _ => hf a
  | ask _ next, h => ⟨h.1, fun reply => asks_bind hf (next reply) (h.2 reply)⟩

/-! ### Actions that run together -/

theorem asks_besides (hturn : P .turn = true) {r : Request} {next : r.Reply → Action β → Action γ}
    (hr : P r = true) (hnext : ∀ reply q, q.Asks P → (next reply q).Asks P) :
    ∀ q : Action β, q.Asks P → (besides r next q).Asks P
  | done b, _ => ⟨hr, fun reply => hnext reply (done b) trivial⟩
  | ask s more, h => by
    refine ⟨hturn, fun first => ?_⟩
    cases first with
    | true => exact ⟨hr, fun reply => hnext reply _ h⟩
    | false => exact ⟨h.1, fun reply => asks_besides hturn hr hnext (more reply) (h.2 reply)⟩

/-- Two actions that run together ask for what each of them asks for, and for turns. -/
theorem asks_both (hturn : P .turn = true) : ∀ (p : Action α) (q : Action β),
    p.Asks P → q.Asks P → (both p q).Asks P
  | done a, q, _, hq => asks_bind (fun b => asks_done (a, b)) q hq
  | ask _ next, q, hp, hq =>
    asks_besides hturn hp.1 (fun reply q' hq' => asks_both hturn (next reply) q' (hp.2 reply) hq')
      q hq

theorem asks_all (hturn : P .turn = true) : ∀ ps : List (Action α), (∀ p ∈ ps, p.Asks P) →
    (all ps).Asks P
  | [], _ => trivial
  | p :: ps, h => by
    obtain ⟨hp, hps⟩ := List.forall_mem_cons.mp h
    exact asks_bind (fun _ => asks_done _) _ (asks_both hturn p _ hp (asks_all hturn ps hps))

end Action

/-! ### Running with another cache -/

namespace Surroundings

variable {compiler : Compiler}

theorem log_cache (s : Surroundings) (c : Cache) (level : Level) (message : Text) :
    ({ s with cache := c } : Surroundings).log level message =
      { s.log level message with cache := c } := by
  obtain ⟨files, cache, turns, calls, logger, output, errors⟩ := s
  cases logger with
  | none => rfl
  | some logger =>
    unfold log
    by_cases h : level.rank ≤ logger.detail
    · simp only [h, if_true]
    · simp only [h, if_false]

theorem change_cache (s : Surroundings) (c : Cache) (result : Except FileFault FileSystem) :
    ({ s with cache := c } : Surroundings).change result =
      ((s.change result).1, { (s.change result).2 with cache := c }) := by
  cases result <;> rfl

theorem openLog_cache (s : Surroundings) (c : Cache) (p : Path) (detail : Nat) :
    ({ s with cache := c } : Surroundings).openLog p detail =
      ((s.openLog p detail).1, { (s.openLog p detail).2 with cache := c }) := by
  unfold openLog
  simp only
  split
  · rfl
  · split <;> rfl

/-- The reply to a request that is not about the cache does not depend on it, and the cache stays
as it is. -/
theorem answer_cache {r : Request} (h : r.isCacheFree = true) (s : Surroundings) (c : Cache) :
    ({ s with cache := c } : Surroundings).answer compiler r =
      ((s.answer compiler r).1, { (s.answer compiler r).2 with cache := c }) := by
  cases r with
  | remembered | remember => simp [Request.isCacheFree] at h
  | writeText p t => exact change_cache s c _
  | openLog p detail => exact openLog_cache s c p detail
  | log level message => simp only [answer, log_cache]
  | compile source includes =>
    simp only [answer]
    cases compiler.announce includes with
    | none => rfl
    | some message => simp only [log_cache]
  | readText | canonical | list | isFile | walk | createDirs | print | printError | turn => rfl

end Surroundings

namespace Action

variable {α : Type}

/-- **What does not ask for the cache does not depend on it.** The action comes to the same answer
with any cache, and leaves it as it is. -/
theorem run_cache (compiler : Compiler) : ∀ {p : Action α}, p.Asks Request.isCacheFree →
    ∀ (s : Surroundings) (c : Cache),
    p.run compiler { s with cache := c } =
      ((p.run compiler s).1, { (p.run compiler s).2 with cache := c })
  | done _, _, _, _ => rfl
  | ask r next, h, s, c => by
    simp only [run, Surroundings.answer_cache h.1 s c]
    exact run_cache compiler (h.2 _) _ c

/-- What only looks at the files leaves everything as it is. -/
theorem run_of_isLooking (compiler : Compiler) (s : Surroundings) :
    ∀ {p : Action α}, p.Asks Request.isLooking → (p.run compiler s).2 = s
  | done _, _ => rfl
  | ask r next, h => by
    have hsame : (s.answer compiler r).2 = s := by
      cases r with
      | readText | canonical | list | isFile | walk => rfl
      | _ => cases h.1
    rw [run]
    dsimp only
    rw [hsame]
    exact run_of_isLooking compiler s (h.2 _)

end Action

/-! ### Stages -/

namespace Stage

variable {α β : Type} {P : Request → Bool} {compiler : Compiler}

/-- Whatever it is replied, the stage asks only for what satisfies `P`. -/
def Asks (P : Request → Bool) (p : Stage α) : Prop := Action.Asks P p.run

theorem asks_bind {p : Stage α} {f : α → Stage β} (hp : p.Asks P) (hf : ∀ a, (f a).Asks P) :
    (p >>= f).Asks P := by
  refine Action.asks_bind (fun result => ?_) p.run hp
  cases result with
  | ok a => exact hf a
  | error f => trivial

theorem asks_of {p : Action α} (h : p.Asks P) : (of p).Asks P := by
  refine Action.asks_bind (fun a => ?_) p h
  trivial

/-- Something that is done only under a condition, and what comes after it. -/
theorem asks_ite {c : Prop} [Decidable c] {p : Stage Unit} {f : Unit → Stage β} (hp : p.Asks P)
    (hf : ∀ u, (f u).Asks P) : (if c then p >>= f else f ()).Asks P := by
  split
  · exact asks_bind hp hf
  · exact hf ()

theorem asks_mk {p : Action (Except Failure α)} (h : p.Asks P) : (ExceptT.mk p : Stage α).Asks P :=
  h

theorem asks_orFail (doing : Text) {p : Action (Except FileFault α)} (h : p.Asks P) :
    (orFail doing p).Asks P := by
  refine Action.asks_bind (fun result => ?_) p h
  cases result <;> trivial

/-- A stage that follows another runs in the surroundings that the other leaves, unless that
fails. -/
theorem run_bind (p : Stage α) (f : α → Stage β) (s : Surroundings) :
    Action.run compiler (p >>= f).run s =
      match Action.run compiler p.run s with
      | (.ok a, s) => Action.run compiler (f a).run s
      | (.error failure, s) => (.error failure, s) := by
  refine (Action.run_bind compiler p.run _ s).trans ?_
  cases Action.run compiler p.run s with
  | mk result s => cases result <;> rfl

/-- A stage that succeeds after another one ran in what the other one left. -/
theorem exists_of_run_bind {p : Stage α} {f : α → Stage β} {s s' : Surroundings} {b : β}
    (h : Action.run compiler (p >>= f).run s = (.ok b, s')) :
    ∃ a t, Action.run compiler p.run s = (.ok a, t) ∧
      Action.run compiler (f a).run t = (.ok b, s') := by
  rw [run_bind] at h
  split at h
  · rename_i a t hp
    exact ⟨a, t, hp, h⟩
  · cases h

/-- What comes after something that is done only under a condition. -/
theorem exists_of_run_ite {c : Prop} [Decidable c] {p : Stage Unit} {f : Unit → Stage β}
    {s s' : Surroundings} {b : β}
    (h : Action.run compiler (if c then p >>= f else f ()).run s = (.ok b, s')) :
    ∃ t, Action.run compiler (f ()).run t = (.ok b, s') := by
  split at h
  · obtain ⟨_, t, -, ht⟩ := exists_of_run_bind h
    exact ⟨t, ht⟩
  · exact ⟨s, h⟩

theorem run_of (p : Action α) (s : Surroundings) :
    Action.run compiler (of p).run s =
      (.ok (p.run compiler s).1, (p.run compiler s).2) :=
  Action.run_bind compiler p _ s

theorem run_orFail (doing : Text) (p : Action (Except FileFault α)) (s : Surroundings) :
    Action.run compiler (orFail doing p).run s =
      match p.run compiler s with
      | (.ok a, s) => (.ok a, s)
      | (.error fault, s) => (.error (.file doing fault), s) := by
  refine (Action.run_bind compiler p _ s).trans ?_
  cases p.run compiler s with
  | mk result s => cases result <;> rfl

end Stage

namespace Action

variable {P : Request → Bool}

theorem asks_do {α β : Type} {p : Action α} {f : α → Action β} (hp : p.Asks P)
    (hf : ∀ a, (f a).Asks P) : (p >>= f).Asks P :=
  asks_bind hf p hp

end Action

/-! ### The stages of the generation -/

open Request in
theorem Bundle.asks_expand {inline : List Path → Path → Action (Except Failure (Text × List Path))}
    (h : ∀ seen path, (inline seen path).Asks isSparing) (dir : Path) :
    ∀ (pieces : List Import.Piece) (seen : List Path),
      (expand inline dir pieces seen).Asks isSparing
  | [], _ => trivial
  | piece :: rest, seen => by
    unfold expand
    extract_lets goOn
    have asks_goOn : ∀ here, (goOn here).Asks isSparing := by
      intro here
      cases here with
      | error => trivial
      | ok here =>
        refine Action.asks_do (asks_expand h dir rest _) fun more => ?_
        cases more <;> trivial
    cases piece with
    | verbatim => exact Action.asks_do (p := pure _) trivial asks_goOn
    | statement t target =>
      dsimp only
      split
      · exact Action.asks_do (h _ _) asks_goOn
      · exact Action.asks_do (p := pure _) trivial asks_goOn

theorem Bundle.asks_flatten : ∀ (limit : Nat) (stack seen : List Path) (path : Path),
    (flatten Generator.diskSource limit stack seen path).Asks Request.isSparing
  | 0, _, _, _ => trivial
  | limit + 1, stack, seen, path => by
    rw [flatten]
    refine Action.asks_do (Action.asks_request rfl) fun file => ?_
    cases file with
    | error => trivial
    | ok file =>
      dsimp only
      split
      · trivial
      split
      · exact Action.asks_do (Action.asks_request rfl) fun _ => trivial
      refine Action.asks_do (Action.asks_request rfl) fun content => ?_
      cases content with
      | error => trivial
      | ok content => exact asks_expand (fun _ _ => asks_flatten limit _ _ _) _ _ _

theorem Bundle.asks_bundle (limit : Nat) (entry : Path) :
    (bundle Generator.diskSource limit entry).Asks Request.isSparing := by
  refine Action.asks_do (asks_flatten limit _ _ _) fun result => ?_
  cases result <;> trivial

theorem CustomStyles.asks_compileFile (stylesDir libraryDir file : Path) :
    (compileFile stylesDir libraryDir file).Asks Request.isSparing := by
  refine Action.asks_do (Action.asks_request rfl) fun source => ?_
  cases source with
  | error => exact Action.asks_do (Action.asks_request rfl) fun _ => trivial
  | ok source =>
    refine Action.asks_do (Action.asks_request rfl) fun css => ?_
    cases css with
    | ok => trivial
    | error => exact Action.asks_do (Action.asks_request rfl) fun _ => trivial

theorem CustomStyles.asks_compile (stylesDir libraryDir : Path) :
    (compile stylesDir libraryDir).Asks Request.isSparing := by
  refine Action.asks_do (Action.asks_request rfl) fun files => ?_
  cases files with
  | error => exact Action.asks_do (Action.asks_request rfl) fun _ => trivial
  | ok files =>
    refine Action.asks_do (Action.asks_all rfl _ fun p hp => ?_) fun _ => trivial
    obtain ⟨file, -, rfl⟩ := List.mem_map.mp hp
    exact asks_compileFile stylesDir libraryDir file

namespace Generator

open Request Stage

theorem asks_logAll (level : Level) : ∀ messages : List Text,
    (logAll level messages).Asks isSparing
  | [] => trivial
  | _ :: rest => Action.asks_do (Action.asks_request rfl) fun _ => asks_logAll level rest

theorem asks_componentEntries (libraryDir : Path) : ∀ names : List Text,
    (componentEntries names libraryDir).Asks isLooking
  | [] => trivial
  | _ :: rest => by
    refine Action.asks_do (Action.asks_request rfl) fun isFile => ?_
    exact Action.asks_do (asks_componentEntries libraryDir rest) fun _ => trivial

/-- Loading only looks at files. -/
theorem looks_load (options : Options) : (load options).Asks isLooking := by
  refine asks_bind (asks_orFail _ (Action.asks_request rfl)) fun library => ?_
  refine asks_bind (asks_orFail _ (Action.asks_request rfl)) fun names => ?_
  refine asks_bind (asks_of (asks_componentEntries _ _)) fun components => ?_
  dsimp only
  split
  · trivial
  · exact asks_bind (asks_orFail _ (Action.asks_request rfl)) fun _ => trivial

/-- Loading writes no file and does not look at the cache. -/
theorem asks_load (options : Options) : (load options).Asks isSparing :=
  Action.Asks.mono (fun _ => isSparing_of_isLooking) (looks_load options)

/-- What is done with loaded sources writes no file and does not look at the cache. -/
theorem asks_produce (importLimit : Nat) (options : Options) (sources : Sources) :
    (produce importLimit options sources).Asks isSparing := by
  refine asks_bind (asks_mk (Bundle.asks_bundle _ _)) fun variableText => ?_
  refine asks_bind (asks_of (asks_logAll _ _)) fun _ => ?_
  refine asks_bind (asks_of (Action.asks_request rfl)) fun _ => ?_
  refine asks_ite (asks_of (Action.asks_request rfl)) fun _ => ?_
  refine asks_bind (asks_mk (Action.asks_request rfl)) fun probeCss => ?_
  refine asks_bind (asks_of (Action.asks_request rfl)) fun _ => ?_
  refine asks_bind (asks_of ?_) fun compiled => ?_
  · exact Action.asks_both rfl _ _ (Action.asks_request rfl) (CustomStyles.asks_compile _ _)
  refine asks_bind (asks_mk trivial) fun libraryCss => ?_
  exact asks_bind (asks_of (asks_logAll _ _)) fun _ => trivial

/-- Writing creates a directory and writes a file, and asks for nothing else. -/
theorem asks_write_of {P : Request → Bool} {path : Path} {theme : Text}
    (hdirs : ∀ dir, P (.createDirs dir) = true) (hfile : P (.writeText path theme) = true) :
    (write path theme).Asks P := by
  have asks_file : ∀ _ : Unit, (orFail ("Failed to write ".toList ++ path.text)
      (Action.request (.writeText path theme))).Asks P :=
    fun _ => asks_orFail _ (Action.asks_request hfile)
  unfold write
  cases path.parent? with
  | none => exact asks_file ()
  | some dir => exact asks_ite (asks_orFail _ (Action.asks_request (hdirs dir))) asks_file

/-- Writing does not look at the cache. -/
theorem asks_write (path : Path) (theme : Text) : (write path theme).Asks isCacheFree :=
  asks_write_of (fun _ => rfl) rfl

end Generator

end Retint
