import Retint.Proofs.Generator.Cached

/-!
# What a generation has been replied

Calls of one generator can overlap. Each of them goes on where it is, with the reply to its last
request, whatever the others have done in between. So how far a call has got is a matter of the
replies that it has had, and of nothing else. Here this is followed through the generation, for
replies of any kind: they can come from surroundings that change all the time.

A generation asks for a theme to be remembered at the very end, after all else has succeeded. So
what it has been replied tells which of four things has happened: it is still on its way, it has
failed, it has found a remembered theme, or it has made one.

## Main definitions

* `Event` — a request and the reply to it
* `Action.Replied` — what is left of an action after some events
* `Generator.Makes`, `Generator.Finds` — the two ways to come to a theme

## Main results

* `Action.replied_bind` — the events of one action after another
* `Action.Replied.of_asks` — an action is replied to what it asks for
* `Generator.progress_of_replied` — the headline: how far a generation has got
-/

namespace Retint

/-- A request, and the reply to it. -/
structure Event where
  request : Request
  reply : request.Reply

/-- Something is to be remembered. -/
def Request.isStore : Request → Bool
  | .remember .. => true
  | _ => false

theorem Request.isStore_eq_false {r : Request} (h : r.isCacheFree = true) : r.isStore = false := by
  cases r with
  | remember => cases h
  | _ => rfl

namespace Action

variable {α β : Type} {P : Request → Bool}

/-- After these events, in this order, an action is left with the rest of it. -/
inductive Replied : Action α → List Event → Action α → Prop
  | start (p : Action α) : Replied p [] p
  | step {r : Request} {next : r.Reply → Action α} {reply : r.Reply} {events : List Event}
      {rest : Action α} : Replied (next reply) events rest →
      Replied (ask r next) (⟨r, reply⟩ :: events) rest

/-- One event more. -/
theorem Replied.concat {p : Action α} {r : Request} {next : r.Reply → Action α}
    {events : List Event} (h : Replied p events (ask r next)) (reply : r.Reply) :
    Replied p (events ++ [⟨r, reply⟩]) (next reply) := by
  generalize hrest : ask r next = rest at h
  induction h with
  | start p =>
    subst hrest
    exact .step (.start _)
  | step _ ih => exact .step (ih hrest)

/-- **The events of one action after another:** the first one waits for a reply, or it has come to
an answer and the events after that are those of the second one. -/
theorem replied_bind {f : α → Action β} {events : List Event} {rest : Action β} :
    ∀ {p : Action α}, Replied (p.bind f) events rest →
      (∃ r next, Replied p events (ask r next) ∧ rest = (ask r next).bind f) ∨
        ∃ a before after, events = before ++ after ∧ Replied p before (done a) ∧
          Replied (f a) after rest := by
  intro p h
  induction p generalizing events with
  | done a => exact .inr ⟨a, [], events, rfl, .start _, h⟩
  | ask r next ih =>
    cases h with
    | start => exact .inl ⟨r, next, .start _, rfl⟩
    | step h =>
      rcases ih _ h with ⟨r', next', hp, hrest⟩ | ⟨a, before, after, rfl, hp, hf⟩
      · exact .inl ⟨r', next', .step hp, hrest⟩
      · exact .inr ⟨a, _ :: before, after, rfl, .step hp, hf⟩

/-- An action is replied to what it asks for. -/
theorem Replied.of_asks {p rest : Action α} {events : List Event} (h : Replied p events rest)
    (hp : p.Asks P) : ∀ e ∈ events, P e.request = true := by
  induction h with
  | start => simp
  | step _ ih => exact List.forall_mem_cons.mpr ⟨hp.1, ih (hp.2 _)⟩

/-- An action that has come to an answer goes no further. -/
theorem Replied.eq_of_done {a : α} {events : List Event} {rest : Action α}
    (h : Replied (done a) events rest) : events = [] ∧ rest = done a := by
  cases h
  exact ⟨rfl, rfl⟩

end Action

open Retint.Action (Replied ask done request)

namespace Stage

variable {α β : Type} {events : List Event} {rest : Action (Except Failure β)}

/-- The events of a stage after another one, which waits, has failed, or has succeeded. -/
theorem replied_bind {p : Stage α} {f : α → Stage β} (h : Replied (p >>= f).run events rest) :
    (∃ r next next', Replied p.run events (ask r next) ∧ rest = ask r next') ∨
      (∃ failure, Replied p.run events (done (.error failure)) ∧
        rest = done (.error failure)) ∨
      ∃ a before after, events = before ++ after ∧ Replied p.run before (done (.ok a)) ∧
        Replied (f a).run after rest := by
  rcases Action.replied_bind h with ⟨r, next, hp, hrest⟩ | ⟨result, before, after, rfl, hp, hf⟩
  · exact .inl ⟨r, next, _, hp, hrest⟩
  · cases result with
    | ok a => exact .inr (.inr ⟨a, before, after, rfl, hp, hf⟩)
    | error failure =>
      obtain ⟨rfl, hrest⟩ := hf.eq_of_done
      exact .inr (.inl ⟨failure, by rwa [List.append_nil], hrest⟩)

/-- The events of a stage after a request: the request waits, or it is the first event. -/
theorem replied_request {r : Request} {f : r.Reply → Stage β}
    (h : Replied (of (request r) >>= f).run events rest) :
    (events = [] ∧ ∃ next, rest = ask r next) ∨
      ∃ reply more, events = ⟨r, reply⟩ :: more ∧ Replied (f reply).run more rest := by
  cases h with
  | start => exact .inl ⟨rfl, _, rfl⟩
  | step h => exact .inr ⟨_, _, rfl, h⟩

end Stage

namespace Generator

open Request Stage

variable {importLimit : Nat} {options : Options} {events : List Event}
  {rest : Action (Except Failure Text)} {digest theme : Text}

/-- The generation has loaded sources with the digest, has found no theme remembered of them, has
made this one, and has had it remembered. -/
def Makes (importLimit : Nat) (options : Options) (events : List Event) (digest theme : Text) :
    Prop :=
  ∃ sources loading making, Replied (load options).run loading (done (.ok sources)) ∧
    digest = Digest.ofText sources.content ∧
    Replied (compute importLimit options sources).run making (done (.ok theme)) ∧
    events = loading ++ ⟨.remembered digest, none⟩ :: (making ++ [⟨.remember digest theme, ()⟩])

/-- The generation has loaded sources with the digest, has found this theme remembered of them, and
has said so. -/
def Finds (options : Options) (events : List Event) (digest theme : Text) : Prop :=
  ∃ sources loading, Replied (load options).run loading (done (.ok sources)) ∧
    digest = Digest.ofText sources.content ∧
    events = loading ++ [⟨.remembered digest, some theme⟩, ⟨.log .info reuseMessage, ()⟩]

/-- Loading asks for nothing to be remembered, nor does making a theme. -/
theorem not_isStore_of_replied {α : Type} {p q : Stage α} (h : Replied p.run events q)
    (hp : p.Asks isCacheFree) : ∀ e ∈ events, e.request.isStore = false :=
  fun e he => isStore_eq_false (h.of_asks hp e he)

/-- **How far a generation has got** by what it has been replied. It has come to no theme, and has
asked for none to be remembered; or it has found one, or made one. -/
theorem progress_of_replied (h : Replied (generate importLimit options).run events rest) :
    ((∀ theme, rest ≠ done (.ok theme)) ∧ ∀ e ∈ events, e.request.isStore = false) ∨
      (∃ digest theme, rest = done (.ok theme) ∧ Finds options events digest theme) ∨
      ∃ digest theme, rest = done (.ok theme) ∧ Makes importLimit options events digest theme := by
  have hload : (load options).Asks isCacheFree := Action.Asks.isCacheFree (asks_load options)
  rw [generate_eq] at h
  rcases replied_bind h with ⟨_, _, _, hp, rfl⟩ | ⟨failure, hp, rfl⟩ |
    ⟨sources, loading, more, rfl, hloaded, hlookup⟩
  · exact .inl ⟨nofun, not_isStore_of_replied hp hload⟩
  · exact .inl ⟨nofun, not_isStore_of_replied hp hload⟩
  clear h
  have hloading := not_isStore_of_replied hloaded hload
  rcases replied_request hlookup with ⟨rfl, next, rfl⟩ | ⟨found, more, rfl, hfound⟩
  · refine .inl ⟨nofun, ?_⟩
    rwa [List.append_nil]
  clear hlookup
  cases found with
  | some theme =>
    rcases replied_request hfound with ⟨rfl, next, rfl⟩ | ⟨-, more, rfl, hsaid⟩
    · exact .inl ⟨nofun, List.forall_mem_append.mpr ⟨hloading, by simp [Request.isStore]⟩⟩
    · obtain ⟨rfl, rfl⟩ := hsaid.eq_of_done
      exact .inr (.inl ⟨_, theme, rfl, sources, loading, hloaded, rfl, rfl⟩)
  | none =>
    have hstore : ∀ making : List Event, (∀ e ∈ making, e.request.isStore = false) →
        ∀ e ∈ loading ++ ⟨.remembered (Digest.ofText sources.content), none⟩ :: making,
          e.request.isStore = false :=
      fun making hmaking => List.forall_mem_append.mpr
        ⟨hloading, List.forall_mem_cons.mpr ⟨rfl, hmaking⟩⟩
    have hcompute := asks_compute importLimit options sources
    rcases replied_bind hfound with ⟨_, _, _, hp, rfl⟩ | ⟨failure, hp, rfl⟩ |
      ⟨theme, making, more, rfl, hmade, hremember⟩
    · exact .inl ⟨nofun, hstore _ (not_isStore_of_replied hp hcompute)⟩
    · exact .inl ⟨nofun, hstore _ (not_isStore_of_replied hp hcompute)⟩
    clear hfound
    rcases replied_request hremember with ⟨rfl, next, rfl⟩ | ⟨-, more, rfl, hdone⟩
    · refine .inl ⟨nofun, hstore _ ?_⟩
      rw [List.append_nil]
      exact not_isStore_of_replied hmade hcompute
    · obtain ⟨rfl, rfl⟩ := hdone.eq_of_done
      exact .inr (.inr ⟨_, theme, rfl, sources, loading, making, hloaded, rfl, hmade, rfl⟩)

/-- A generation that has made a theme has asked for this one to be remembered, and for no
other. -/
theorem Makes.eq_of_mem (h : Makes importLimit options events digest theme) {e : Event}
    (he : e ∈ events) (hstore : e.request.isStore = true) :
    e = ⟨.remember digest theme, ()⟩ := by
  obtain ⟨sources, loading, making, hloaded, rfl, hmade, rfl⟩ := h
  have hloading := not_isStore_of_replied hloaded (Action.Asks.isCacheFree (asks_load options)) e
  have hmaking := not_isStore_of_replied hmade (asks_compute importLimit options sources) e
  simp only [List.mem_append, List.mem_cons, List.not_mem_nil, or_false] at he
  rcases he with he | rfl | he | rfl
  · simp [hloading he] at hstore
  · cases hstore
  · simp [hmaking he] at hstore
  · rfl

/-- A generation that has found a theme has only looked at files, looked for the theme, and said
that it found it. -/
theorem Finds.forall_mem (h : Finds options events digest theme) : ∀ e ∈ events,
    e.request.isLooking = true ∨ e = ⟨.remembered digest, some theme⟩ ∨
      e.request = .log .info reuseMessage := by
  obtain ⟨sources, loading, hloaded, rfl, rfl⟩ := h
  intro e he
  simp only [List.mem_append, List.mem_cons, List.not_mem_nil, or_false] at he
  rcases he with he | rfl | rfl
  · exact .inl (hloaded.of_asks (looks_load options) e he)
  · exact .inr (.inl rfl)
  · exact .inr (.inr rfl)

end Generator

end Retint
