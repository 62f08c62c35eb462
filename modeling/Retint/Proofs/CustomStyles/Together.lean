import Mathlib.Data.List.Forall2
import Retint.Proofs.Generator.Replies

/-!
# Actions that run together

When actions run together, each of them is replied what it would be replied alone, and the steps of
all of them come in some order, with the questions for turns in between. So what they come to can
be found by looking at each of them alone, whatever the order was.

A run in surroundings is described by its events too: they are answered one after the other.

## Main definitions

* `Action.Merged` — the events of two runs in some order, and turns
* `Action.Answered` — events that surroundings answer one after the other

## Main results

* `Action.replied_both` — what two actions that run together are replied
* `Action.replied_all` — what any number of actions are replied
* `Action.exists_answered` — the events of a run in surroundings
-/

namespace Retint.Action

variable {α β γ : Type}

/-! ### Merging events -/

/-- These are the events of two runs, in some order, and besides them only turns. -/
def Merged (es fs events : List Event) : Prop :=
  ∃ turns : List Event, (∀ e ∈ turns, e.request = .turn) ∧ events.Perm (es ++ fs ++ turns)

variable {es fs events : List Event}

theorem merged_nil_left (fs : List Event) : Merged [] fs fs := ⟨[], by simp, by simp⟩

theorem Merged.left (h : Merged es fs events) (e : Event) :
    Merged (e :: es) fs (e :: events) := by
  obtain ⟨turns, hturns, hperm⟩ := h
  exact ⟨turns, hturns, hperm.cons e⟩

theorem Merged.right (h : Merged es fs events) (e : Event) :
    Merged es (e :: fs) (e :: events) := by
  obtain ⟨turns, hturns, hperm⟩ := h
  refine ⟨turns, hturns, (hperm.cons e).trans ?_⟩
  simp only [List.append_assoc, List.cons_append]
  exact List.perm_middle.symm

theorem Merged.turn (h : Merged es fs events) {e : Event} (he : e.request = .turn) :
    Merged es fs (e :: events) := by
  obtain ⟨turns, hturns, hperm⟩ := h
  refine ⟨e :: turns, List.forall_mem_cons.mpr ⟨he, hturns⟩, ?_⟩
  exact (hperm.cons e).trans List.perm_middle.symm

/-! ### Two actions -/

/-- What two actions that run together have come to, and been replied, is what each of them comes
to alone. -/
theorem replied_both {p : Action α} {q : Action β} {a : α} {b : β}
    (h : Replied (both p q) events (done (a, b))) :
    ∃ es fs, Replied p es (done a) ∧ Replied q fs (done b) ∧ Merged es fs events := by
  -- The induction is on both actions, since either of them can take the next step.
  induction p generalizing q events with
  | done a' =>
    rcases replied_bind h with ⟨r, next, -, hrest⟩ | ⟨b', before, after, rfl, hq, hpair⟩
    · cases hrest
    · obtain ⟨rfl, hab⟩ := hpair.eq_of_done
      obtain ⟨rfl, rfl⟩ := Prod.mk.inj (done.inj hab)
      rw [List.append_nil]
      exact ⟨[], before, .start _, hq, merged_nil_left before⟩
  | ask r next ih =>
    have hfirst : ∀ {q : Action β} {events : List Event},
        Replied (ask r fun reply => both (next reply) q) events (done (a, b)) →
        ∃ es fs, Replied (ask r next) es (done a) ∧ Replied q fs (done b) ∧
          Merged es fs events := by
      intro q events h
      cases h with
      | step h =>
        obtain ⟨es, fs, hp, hq, hmerged⟩ := ih _ h
        exact ⟨_, fs, .step hp, hq, hmerged.left _⟩
    induction q generalizing events with
    | done b' => exact hfirst h
    | ask s more ih' =>
      cases h with
      | @step _ _ first events' _ h =>
        have hturn : (⟨.turn, first⟩ : Event).request = .turn := rfl
        cases first with
        | true =>
          obtain ⟨es, fs, hp, hq, hmerged⟩ := hfirst h
          exact ⟨es, fs, hp, hq, hmerged.turn hturn⟩
        | false =>
          cases h with
          | step h =>
            obtain ⟨es, fs, hp, hq, hmerged⟩ := ih' _ h
            exact ⟨es, _, hp, .step hq, (hmerged.right _).turn hturn⟩

/-! ### Any number of actions -/

/-- What actions that run together have come to, each with the events of its own: together these
are all events but the turns. -/
theorem replied_all {ps : List (Action α)} {as : List α} (h : Replied (all ps) events (done as)) :
    ∃ runs : List (List Event × α), as = runs.map Prod.snd ∧
      List.Forall₂ (fun p run => Replied p run.1 (done run.2)) ps runs ∧
      Merged (runs.flatMap Prod.fst) [] events := by
  induction ps generalizing as events with
  | nil =>
    obtain ⟨rfl, has⟩ := h.eq_of_done
    exact ⟨[], done.inj has, .nil, merged_nil_left []⟩
  | cons p ps ih =>
    rcases replied_bind h with ⟨r, next, -, hrest⟩ | ⟨⟨a, as'⟩, before, after, rfl, hboth, hcons⟩
    · cases hrest
    · obtain ⟨rfl, has⟩ := hcons.eq_of_done
      obtain ⟨es, fs, hp, hps, turns, hturns, hperm⟩ := replied_both hboth
      obtain ⟨runs, rfl, hruns, turns', hturns', hperm'⟩ := ih hps
      refine ⟨(es, a) :: runs, done.inj has, .cons hp hruns, turns' ++ turns,
        List.forall_mem_append.mpr ⟨hturns', hturns⟩, ?_⟩
      rw [List.append_nil, List.flatMap_cons]
      refine hperm.trans ?_
      simp only [List.append_assoc, List.append_nil] at hperm' ⊢
      exact ((hperm'.append_right turns).append_left es).trans (by simp)

/-! ### Runs in surroundings -/

variable {compiler : Compiler} {s s' : Surroundings}

/-- The events are answered one after the other, which leads from some surroundings to others. -/
inductive Answered (compiler : Compiler) : Surroundings → List Event → Surroundings → Prop
  | nil (s : Surroundings) : Answered compiler s [] s
  | cons {s s' : Surroundings} {r : Request} {events : List Event}
      (h : Answered compiler (s.answer compiler r).2 events s') :
      Answered compiler s (⟨r, (s.answer compiler r).1⟩ :: events) s'

/-- The events of a run. -/
theorem exists_answered (compiler : Compiler) (p : Action α) (s : Surroundings) :
    ∃ events, Replied p events (done (run compiler p s).1) ∧
      Answered compiler s events (run compiler p s).2 := by
  induction p generalizing s with
  | done a => exact ⟨[], .start _, .nil s⟩
  | ask r next ih =>
    obtain ⟨events, hreplied, hanswered⟩ := ih _ (s.answer compiler r).2
    exact ⟨_, .step hreplied, .cons hanswered⟩

end Retint.Action
