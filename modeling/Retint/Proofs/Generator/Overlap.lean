import Mathlib.Data.List.Induction
import Retint.Proofs.Generator.Replies

/-!
# Calls that overlap

A generator can be called again while earlier calls are on their way. Nothing keeps the calls
apart: between two steps of one of them, others can take any number of steps, further calls can
come, and files can change. What they share is the cache.

The calls are followed here through every order of their steps. All that has been asked for is
written down with the replies, so that the state at any time can be told from it: how far each call
has got, by the replies that it has had, and what the cache holds, by what was to be remembered
last. A step is a single request, which is less than what a call does between two points at which
it waits; so every order in which calls can really take turns is among these.

## Main definitions

* `Overlap` — the calls that there are, and what has happened so far
* `Overlap.move`, `Overlap.run` — one step, and many
* `Overlap.IsLastStored` — what was to be remembered last
* `Overlap.MadeBy`, `Overlap.FoundBy` — the two ways in which a call comes to a theme

## Main results

* `Overlap.Sound.move` — one step keeps the history, the calls and the cache in line
* `Overlap.overlap_exact` — the headline: the cache and the answers, whatever the order
-/

namespace Retint

open Retint.Action (Replied ask done)

/-- The cache after a request. -/
def Cache.after (cache : Cache) : Request → Cache
  | .remember digest theme => cache.store digest theme
  | _ => cache

theorem Cache.after_of_not_isStore (cache : Cache) {r : Request} (h : r.isStore = false) :
    cache.after r = cache := by
  cases r with
  | remember => cases h
  | _ => rfl

/-- No request changes the cache but the one to remember a theme. -/
theorem Surroundings.cache_answer (compiler : Compiler) (s : Surroundings) (r : Request) :
    (s.answer compiler r).2.cache = s.cache.after r := by
  by_cases h : r.isCacheFree = true
  · rw [Cache.after_of_not_isStore s.cache (Request.isStore_eq_false h)]
    exact congrArg (fun t => t.2.cache) (answer_cache h s s.cache)
  · cases r with
    | remembered | remember => rfl
    | _ => exact absurd rfl h

namespace Generator

/-- A call on its way, and what is left of it. -/
structure Task where
  importLimit : Nat
  options : Options
  rest : Action (Except Failure Text)

/-- Calls of one generator, in the order in which they came. -/
structure Overlap where
  world : Surroundings
  tasks : List Task := []
  /-- All that has been asked for, with the number of the call that did. -/
  history : List (Nat × Event) := []

/-- What can happen next. -/
inductive Move
  | call (importLimit : Nat) (options : Options)
  /-- The call with this number gets the reply to its request. -/
  | go (i : Nat)
  /-- Anything but the cache becomes different. -/
  | change (world : Surroundings)

namespace Overlap

variable {compiler : Compiler} {o : Overlap} {history : List (Nat × Event)} {i : Nat}
  {digest theme : Text}

/-- A generator that has not been called. -/
def start (world : Surroundings) : Overlap where
  world := { world with cache := {} }

/-- The call `i` gets the reply to its request. -/
def step (compiler : Compiler) (o : Overlap) (i : Nat) (task : Task) (r : Request)
    (next : r.Reply → Action (Except Failure Text)) : Overlap where
  world := (o.world.answer compiler r).2
  tasks := o.tasks.set i { task with rest := next (o.world.answer compiler r).1 }
  history := o.history ++ [(i, ⟨r, (o.world.answer compiler r).1⟩)]

def move (compiler : Compiler) (o : Overlap) : Move → Overlap
  | .call importLimit options =>
    { o with tasks := o.tasks ++ [⟨importLimit, options, (generate importLimit options).run⟩] }
  | .go i =>
    match o.tasks[i]? with
    | none => o
    | some task =>
      match task.rest with
      | .done _ => o
      | .ask r next => o.step compiler i task r next
  | .change world => { o with world := { world with cache := o.world.cache } }

def run (compiler : Compiler) (o : Overlap) (moves : List Move) : Overlap :=
  moves.foldl (move compiler) o

/-- The calls of a generator after some moves, which begin before the first call. -/
def reached (compiler : Compiler) (world : Surroundings) (moves : List Move) : Overlap :=
  (start world).run compiler moves

/-! ### The history -/

/-- What the call `i` has been replied. -/
def eventsIn (history : List (Nat × Event)) (i : Nat) : List Event :=
  (history.filter fun e => e.1 = i).map Prod.snd

theorem mem_eventsIn {e : Event} : e ∈ eventsIn history i ↔ (i, e) ∈ history := by
  simp [eventsIn]

theorem eventsIn_concat_self (history : List (Nat × Event)) (i : Nat) (e : Event) :
    eventsIn (history ++ [(i, e)]) i = eventsIn history i ++ [e] := by
  simp [eventsIn]

theorem eventsIn_concat_of_ne {j : Nat} (h : j ≠ i) (e : Event) :
    eventsIn (history ++ [(j, e)]) i = eventsIn history i := by
  simp [eventsIn, h]

theorem eventsIn_eq_nil (h : ∀ e ∈ history, e.1 < i) : eventsIn history i = [] := by
  rw [List.eq_nil_iff_forall_not_mem]
  intro e he
  have hlt : i < i := h _ (mem_eventsIn.mp he)
  omega

/-- The cache after all that has been asked for. -/
def stored (history : List (Nat × Event)) : Cache :=
  history.foldl (fun cache e => cache.after e.2.request) {}

theorem stored_concat (history : List (Nat × Event)) (e : Nat × Event) :
    stored (history ++ [e]) = (stored history).after e.2.request := by
  simp [stored]

/-- The last theme to be remembered was this one, of sources with the digest, for the call `i`. -/
def IsLastStored (history : List (Nat × Event)) (i : Nat) (digest theme : Text) : Prop :=
  ∃ before after, history = before ++ (i, ⟨.remember digest theme, ()⟩) :: after ∧
    ∀ e ∈ after, e.2.request.isStore = false

theorem IsLastStored.mem (h : IsLastStored history i digest theme) :
    (i, ⟨.remember digest theme, ()⟩) ∈ history := by
  obtain ⟨before, after, rfl, -⟩ := h
  simp

/-- What the cache holds, by the history: nothing if there was nothing to be remembered, else what
was to be remembered last. -/
theorem stored_cases (history : List (Nat × Event)) :
    ((stored history).slot = none ∧ ∀ e ∈ history, e.2.request.isStore = false) ∨
      ∃ i digest theme, (stored history).slot = some (digest, theme) ∧
        IsLastStored history i digest theme := by
  induction history using List.reverseRecOn with
  | nil => exact .inl ⟨rfl, by simp⟩
  | append_singleton history e ih =>
    obtain ⟨j, r, reply⟩ := e
    rw [stored_concat]
    by_cases hr : r.isStore = false
    · rw [Cache.after_of_not_isStore _ hr]
      rcases ih with ⟨hslot, hnone⟩ | ⟨i, digest, theme, hslot, before, after, rfl, hafter⟩
      · exact .inl ⟨hslot, List.forall_mem_append.mpr ⟨hnone, by simpa using hr⟩⟩
      · refine .inr ⟨i, digest, theme, hslot, before, after ++ [(j, ⟨r, reply⟩)], by simp, ?_⟩
        exact List.forall_mem_append.mpr ⟨hafter, by simpa using hr⟩
    · cases r with
      | remember digest theme => exact .inr ⟨j, digest, theme, rfl, history, [], rfl, by simp⟩
      | _ => exact absurd rfl hr

theorem exists_isLastStored (h : (stored history).get? digest = some theme) :
    ∃ i, IsLastStored history i digest theme := by
  rw [Cache.get?_eq_some_iff] at h
  rcases stored_cases history with ⟨hslot, -⟩ | ⟨i, d, t, hslot, hlast⟩
  · cases hslot.symm.trans h
  · cases hslot.symm.trans h
    exact ⟨i, hlast⟩

/-! ### One step -/

/-- The history, the calls and the cache are in line. -/
structure Sound (o : Overlap) : Prop where
  /-- Each call has got where its replies lead. -/
  replied : ∀ {i task}, o.tasks[i]? = some task →
    Replied (generate task.importLimit task.options).run (eventsIn o.history i) task.rest
  /-- Nobody else has asked for anything. -/
  called : ∀ e ∈ o.history, e.1 < o.tasks.length
  /-- The cache holds what was to be remembered last. -/
  cache : o.world.cache = stored o.history
  /-- This holds for every time at which a call has looked. -/
  looked : ∀ {before after i digest found},
    o.history = before ++ (i, ⟨.remembered digest, found⟩) :: after →
      found = (stored before).get? digest

theorem sound_start (world : Surroundings) : Sound (start world) where
  replied := by simp [start]
  called := by simp [start]
  cache := rfl
  looked := by simp [start]

theorem Sound.call (h : Sound o) (importLimit : Nat) (options : Options) :
    Sound (o.move compiler (.call importLimit options)) where
  replied := by
    intro i task htask
    rcases Nat.lt_trichotomy i o.tasks.length with hi | rfl | hi
    · rw [move, List.getElem?_append_left hi] at htask
      exact h.replied htask
    · obtain rfl : ⟨importLimit, options, (generate importLimit options).run⟩ = task := by
        simpa [move] using htask
      rw [show eventsIn (o.move compiler (.call importLimit options)).history o.tasks.length =
        [] from eventsIn_eq_nil h.called]
      exact .start _
    · rw [move, List.getElem?_eq_none (by simp; omega)] at htask
      cases htask
  called := by
    intro e he
    have := h.called e he
    simp only [move, List.length_append, List.length_singleton]
    omega
  cache := h.cache
  looked := h.looked

theorem Sound.step (h : Sound o) {task : Task} {r : Request}
    {next : r.Reply → Action (Except Failure Text)} (htask : o.tasks[i]? = some task)
    (hrest : task.rest = ask r next) : Sound (o.step compiler i task r next) where
  replied := by
    intro j other hother
    have hlt : i < o.tasks.length := (List.getElem?_eq_some_iff.mp htask).1
    by_cases hij : i = j
    · subst hij
      obtain rfl : { task with rest := next (o.world.answer compiler r).1 } = other := by
        simpa [Overlap.step, List.getElem?_set_self hlt] using hother
      simp only [Overlap.step, eventsIn_concat_self]
      exact Replied.concat (hrest ▸ h.replied htask) _
    · simp only [Overlap.step, eventsIn_concat_of_ne hij]
      exact h.replied (by simpa [Overlap.step, List.getElem?_set_ne hij] using hother)
  called := by
    have hlt : i < o.tasks.length := (List.getElem?_eq_some_iff.mp htask).1
    simp only [Overlap.step, List.length_set]
    exact List.forall_mem_append.mpr ⟨h.called, by simpa using hlt⟩
  cache := by
    simp only [Overlap.step, stored_concat, Surroundings.cache_answer, h.cache]
  looked := by
    intro before after j digest found hhistory
    simp only [Overlap.step] at hhistory
    rcases List.eq_nil_or_concat after with rfl | ⟨init, last, rfl⟩
    · obtain ⟨rfl, hlast⟩ := List.append_inj' hhistory rfl
      cases hlast
      rw [← h.cache]
      rfl
    · rw [List.concat_eq_append, ← List.cons_append, ← List.append_assoc] at hhistory
      exact h.looked (List.append_inj' hhistory rfl).1

/-- **One step** keeps the history, the calls and the cache in line. -/
theorem Sound.move (h : Sound o) (m : Move) : Sound (o.move compiler m) := by
  cases m with
  | call importLimit options => exact h.call importLimit options
  | go i =>
    unfold Overlap.move
    dsimp only
    split
    · exact h
    · rename_i task htask
      split
      · exact h
      · rename_i r next hrest
        exact h.step htask hrest
  | change world => exact ⟨h.replied, h.called, h.cache, h.looked⟩

/-- **Any number of steps** do. -/
theorem Sound.run (h : Sound o) (moves : List Move) : Sound (o.run compiler moves) := by
  induction moves generalizing o with
  | nil => exact h
  | cons m moves ih => exact ih (h.move m)

/-! ### Where themes come from -/

/-- The call `i` has come to the theme by making it, all the way through. -/
def MadeBy (o : Overlap) (i : Nat) (digest theme : Text) : Prop :=
  ∃ task, o.tasks[i]? = some task ∧ task.rest = done (.ok theme) ∧
    Makes task.importLimit task.options (eventsIn o.history i) digest theme

/-- The call `i` has come to the theme by finding it in the cache, where a call that had made it
of sources with the same digest was the last one to have had a theme remembered. It has compiled
nothing and written nothing: it has looked at files, found the theme, and said so. -/
def FoundBy (o : Overlap) (i : Nat) (digest theme : Text) : Prop :=
  ∃ task, o.tasks[i]? = some task ∧ task.rest = done (.ok theme) ∧
    Finds task.options (eventsIn o.history i) digest theme ∧
    (∀ e ∈ eventsIn o.history i, e.request.isLooking = true ∨
      e = ⟨.remembered digest, some theme⟩ ∨ e.request = .log .info reuseMessage) ∧
    ∃ before after j, o.history = before ++ (i, ⟨.remembered digest, some theme⟩) :: after ∧
      IsLastStored before j digest theme ∧ o.MadeBy j digest theme

/-- A theme is remembered when a call has made it, and then this call is at its end. -/
theorem Sound.madeBy (h : Sound o) (he : (i, ⟨.remember digest theme, ()⟩) ∈ o.history) :
    o.MadeBy i digest theme := by
  have hlt : i < o.tasks.length := h.called _ he
  have htask : o.tasks[i]? = some o.tasks[i] := List.getElem?_eq_getElem hlt
  have hmem := mem_eventsIn.mpr he
  rcases progress_of_replied (h.replied htask) with ⟨-, hnone⟩ | ⟨d, t, -, hfinds⟩ |
    ⟨d, t, hrest, hmakes⟩
  · cases hnone _ hmem
  · rcases hfinds.forall_mem _ hmem with hlook | hfound | hlog
    · cases hlook
    · cases hfound
    · cases hlog
  · cases hmakes.eq_of_mem hmem rfl
    exact ⟨_, htask, hrest, hmakes⟩

/-- What the cache holds, in line with the history. -/
theorem Sound.slot_cases (h : Sound o) :
    (o.world.cache.slot = none ∧ ∀ e ∈ o.history, e.2.request.isStore = false) ∨
      ∃ i digest theme, o.world.cache.slot = some (digest, theme) ∧
        IsLastStored o.history i digest theme ∧ o.MadeBy i digest theme := by
  rw [h.cache]
  rcases stored_cases o.history with hnone | ⟨i, digest, theme, hslot, hlast⟩
  · exact .inl hnone
  · exact .inr ⟨i, digest, theme, hslot, hlast, h.madeBy hlast.mem⟩

/-- The answer of a call, in line with the history. -/
theorem Sound.answer_cases (h : Sound o) {task : Task} {answer : Except Failure Text}
    (htask : o.tasks[i]? = some task) (hrest : task.rest = done answer) :
    ((∃ failure, answer = .error failure) ∧
        ∀ e ∈ eventsIn o.history i, e.request.isStore = false) ∨
      ∃ digest theme, answer = .ok theme ∧
        (o.MadeBy i digest theme ∨ o.FoundBy i digest theme) := by
  rcases progress_of_replied (h.replied htask) with ⟨hfailed, hnone⟩ |
    ⟨digest, theme, hok, hfinds⟩ |
    ⟨digest, theme, hok, hmakes⟩
  · refine .inl ⟨?_, hnone⟩
    cases answer with
    | error failure => exact ⟨failure, rfl⟩
    | ok theme => exact absurd hrest (hfailed theme)
  · obtain rfl : answer = .ok theme := by
      cases hrest.symm.trans hok
      rfl
    refine .inr ⟨digest, theme, rfl, .inr ⟨task, htask, hok, hfinds, hfinds.forall_mem, ?_⟩⟩
    have hlooked : (i, ⟨.remembered digest, some theme⟩) ∈ o.history := by
      obtain ⟨sources, loading, -, rfl, hevents⟩ := hfinds
      refine mem_eventsIn.mp ?_
      rw [hevents]
      simp
    obtain ⟨before, after, hhistory⟩ := List.append_of_mem hlooked
    obtain ⟨j, hlast⟩ := exists_isLastStored (h.looked hhistory).symm
    refine ⟨before, after, j, hhistory, hlast, h.madeBy ?_⟩
    rw [hhistory]
    exact List.mem_append_left _ hlast.mem
  · obtain rfl : answer = .ok theme := by
      cases hrest.symm.trans hok
      rfl
    exact .inr ⟨digest, theme, rfl, .inl ⟨task, htask, hok, hmakes⟩⟩

/-- What changes the cache is the last step of a call that has made a theme. -/
theorem Sound.move_cases (h : Sound o) (m : Move) :
    (o.move compiler m).world.cache = o.world.cache ∨
      ∃ i digest theme, m = .go i ∧ (o.move compiler m).MadeBy i digest theme ∧
        (o.move compiler m).world.cache.slot = some (digest, theme) := by
  cases m with
  | call importLimit options => exact .inl rfl
  | change world => exact .inl rfl
  | go i =>
    have hsound : Sound (o.move compiler (.go i)) := h.move (.go i)
    cases htask : o.tasks[i]? with
    | none =>
      left
      simp only [Overlap.move, htask]
    | some task =>
      cases hrest : task.rest with
      | done answer =>
        left
        simp only [Overlap.move, htask, hrest]
      | ask r next =>
        have hmove : o.move compiler (.go i) = o.step compiler i task r next := by
          simp only [Overlap.move, htask, hrest]
        rw [hmove] at hsound ⊢
        have hcache : (o.step compiler i task r next).world.cache = o.world.cache.after r :=
          Surroundings.cache_answer compiler o.world r
        by_cases hr : r.isStore = false
        · left
          rw [hcache, Cache.after_of_not_isStore _ hr]
        · cases r with
          | remember digest theme =>
            refine .inr ⟨i, digest, theme, rfl, hsound.madeBy ?_, ?_⟩
            · simp [Overlap.step]
            · rw [hcache]
              rfl
          | _ => exact absurd rfl hr

/-- **The cache and the answers, whatever the order.** Let any number of calls of one generator
overlap in any way, with any changes of files and all else in between. The cache is empty, or it
holds what the last call to have had a theme remembered has made. A call that has come to an end
has failed, or it has made its theme all by itself, or it has found a theme that an earlier call
has made of sources with the same digest. The cache changes when a call has made a theme, and at
no other time. -/
theorem overlap_exact (compiler : Compiler) (world : Surroundings) (moves : List Move) :
    (((reached compiler world moves).world.cache.slot = none ∧
        ∀ e ∈ (reached compiler world moves).history, e.2.request.isStore = false) ∨
      ∃ i digest theme, (reached compiler world moves).world.cache.slot = some (digest, theme) ∧
        IsLastStored (reached compiler world moves).history i digest theme ∧
        (reached compiler world moves).MadeBy i digest theme) ∧
    (∀ i task answer, (reached compiler world moves).tasks[i]? = some task →
      task.rest = done answer →
      ((∃ failure, answer = .error failure) ∧
          ∀ e ∈ eventsIn (reached compiler world moves).history i, e.request.isStore = false) ∨
        ∃ digest theme, answer = .ok theme ∧
          ((reached compiler world moves).MadeBy i digest theme ∨
            (reached compiler world moves).FoundBy i digest theme)) ∧
    ∀ m, ((reached compiler world moves).move compiler m).world.cache =
        (reached compiler world moves).world.cache ∨
      ∃ i digest theme, m = .go i ∧
        ((reached compiler world moves).move compiler m).MadeBy i digest theme ∧
        ((reached compiler world moves).move compiler m).world.cache.slot =
          some (digest, theme) := by
  have hsound : Sound (reached compiler world moves) := (sound_start world).run moves
  refine ⟨hsound.slot_cases, ?_, hsound.move_cases⟩
  intro i task answer htask hrest
  exact hsound.answer_cases htask hrest

/-- Two calls that both find nothing remembered. The second one is at its end before the variable
file changes and the first one goes on. A third call finds what the first one has made. -/
example :
    let visit := variableVisit darkVariables
    let o := reached blankCompiler visit.world
      ([.call 2 visit.options, .call 2 visit.options] ++ List.replicate 4 (.go 0) ++
        List.replicate 40 (.go 1) ++ [.change (variableVisit lightVariables).world] ++
        List.replicate 40 (.go 0) ++ [.call 2 visit.options] ++ List.replicate 40 (.go 2))
    o.world.cache.slot = some (Digest.ofText ['\n'], lightVariables ++ "\n\n\n\n".toList) ∧
      (eventsIn o.history 2).length = 5 := by
  decide +kernel

end Overlap

end Generator

end Retint
