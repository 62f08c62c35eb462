import Mathlib.Data.List.Chain
import Mathlib.Data.List.Nodup
import Retint.ColorMap
import Retint.Proofs.Dict

/-!
# Alias chains

A chain starts at a name. As long as what is declared for a name is an alias, it goes on with the
name that the alias stands for. So it comes to a value that is no alias, or to a name that is not
declared, or back to a name that it has met. What a chain comes to is said here without regard to
how it is followed; then the loop that follows it is taken round by round.

## Main definitions

* `Alias.IsChain` — names each of which is declared as an alias of the next one
* `Alias.EndsIn`, `Alias.BreaksAt`, `Alias.IsLoop` — what a chain comes to
* `Alias.Walk`, `Alias.Walk.step`, `Alias.Walk.Ends` — the loop, and the rounds that it takes

## Main results

* `Alias.IsChain.isPrefix` — a chain that goes no further goes through all others from its start
* `Alias.Walk.exists_ends` — no name is met twice before the loop ends, so it ends
* `Alias.resolve_eq_ok_iff`, `Alias.resolve_eq_undeclared_iff`, `Alias.resolve_eq_cyclic_iff`
* `Alias.resolve_exact` — the headline
-/

namespace Retint.Alias

variable {declared : Text → Option Text} {declarations : Dict Text}
  {name last value missing : Text} {chain chain' loop : List Text} {result : Except Failure Text}

/-! ### Chains -/

/-- The names from `name` on, each of which is declared as an alias of the next one. -/
structure IsChain (declared : Text → Option Text) (name : Text) (chain : List Text) : Prop where
  head : chain.head? = some name
  links : chain.IsChain fun a b => declared a = some b ∧ isAlias b = true

/-- What is declared for the name is no alias, if anything is. -/
def IsEnd (declared : Text → Option Text) (name : Text) : Prop :=
  ∀ value, declared name = some value → isAlias value = false

/-- The chain from `name` comes to a value that is no alias. -/
def EndsIn (declared : Text → Option Text) (name value : Text) : Prop :=
  ∃ chain last, IsChain declared name (chain ++ [last]) ∧ declared last = some value ∧
    isAlias value = false

/-- The chain from `name` comes to a name that is not declared, and meets no name twice. -/
def BreaksAt (declared : Text → Option Text) (name missing : Text) : Prop :=
  ∃ chain, IsChain declared name (chain ++ [missing]) ∧ (chain ++ [missing]).Nodup ∧
    declared missing = none

/-- The chain from `name` up to the first name that it meets again. -/
def IsLoop (declared : Text → Option Text) (name : Text) (loop : List Text) : Prop :=
  IsChain declared name loop ∧ ∃ chain last, loop = chain ++ [last] ∧ chain.Nodup ∧ last ∈ chain

theorem isEnd_of_eq_some (h : declared name = some value) (halias : isAlias value = false) :
    IsEnd declared name := fun other hother => by
  rwa [← Option.some.inj (h.symm.trans hother)]

theorem isEnd_of_eq_none (h : declared name = none) : IsEnd declared name := fun value hvalue => by
  rw [h] at hvalue
  cases hvalue

theorem nodup_concat_iff : (chain ++ [last]).Nodup ↔ chain.Nodup ∧ last ∉ chain := by
  rw [← List.concat_eq_append, List.nodup_concat, and_comm]

theorem IsChain.single (declared : Text → Option Text) (name : Text) :
    IsChain declared name ([] ++ [name]) := ⟨rfl, .singleton name⟩

/-- The first name of a chain, and the chain from the second one on. -/
theorem IsChain.cons_cons {a b : Text} (h : IsChain declared name (a :: b :: chain)) :
    a = name ∧ declared a = some b ∧ isAlias b = true ∧ IsChain declared b (b :: chain) := by
  obtain ⟨⟨hdeclared, halias⟩, hrest⟩ := List.isChain_cons_cons.mp h.links
  exact ⟨Option.some.inj h.head, hdeclared, halias, rfl, hrest⟩

/-- A chain goes on with the alias that is declared for its last name. -/
theorem IsChain.concat (h : IsChain declared name (chain ++ [last]))
    (hdeclared : declared last = some value) (halias : isAlias value = true) :
    IsChain declared name (chain ++ [last] ++ [value]) := by
  refine ⟨?_, List.isChain_append.mpr ⟨h.links, .singleton value, fun a ha b hb => ?_⟩⟩
  · rw [List.head?_append, h.head]
    rfl
  · obtain rfl : last = a := by simpa using ha
    obtain rfl : value = b := by simpa using hb
    exact ⟨hdeclared, halias⟩

/-- A chain without its last name. -/
theorem IsChain.init (h : IsChain declared name (chain ++ [last] ++ [value])) :
    IsChain declared name (chain ++ [last]) ∧ declared last = some value ∧
      isAlias value = true := by
  obtain ⟨hinit, -, hlink⟩ := List.isChain_append.mp h.links
  refine ⟨⟨?_, hinit⟩, hlink last (by simp) value (by simp)⟩
  have hhead := h.head
  rwa [List.head?_append_of_ne_nil _ (by simp)] at hhead

/-- A name of a chain that is not the last one is declared. -/
theorem IsChain.declared_of_mem (h : IsChain declared name (chain ++ [last])) {a : Text}
    (ha : a ∈ chain) : ∃ b, declared a = some b := by
  induction chain generalizing name with
  | nil => exact absurd ha List.not_mem_nil
  | cons c chain ih =>
    obtain ⟨b, rest, hrest⟩ : ∃ b rest, chain ++ [last] = b :: rest :=
      List.exists_cons_of_ne_nil (by simp)
    rw [List.cons_append, hrest] at h
    obtain ⟨-, hdeclared, -, htail⟩ := h.cons_cons
    rcases List.mem_cons.mp ha with rfl | ha
    · exact ⟨b, hdeclared⟩
    · exact ih (hrest ▸ htail) ha

/-- **A chain that goes no further** goes through all others from its start: what a name stands for
is determined. -/
theorem IsChain.isPrefix (h : IsChain declared name (chain ++ [last])) (hend : IsEnd declared last)
    (h' : IsChain declared name chain') : chain' <+: chain ++ [last] := by
  induction chain' generalizing name chain with
  | nil => exact List.nil_prefix
  | cons a chain' ih =>
    obtain rfl : a = name := Option.some.inj h'.head
    cases chain with
    | nil =>
      obtain rfl : last = a := Option.some.inj h.head
      cases chain' with
      | nil => exact List.prefix_refl _
      | cons b chain' =>
        obtain ⟨-, hdeclared, halias, -⟩ := h'.cons_cons
        rw [hend b hdeclared] at halias
        cases halias
    | cons c chain =>
      obtain rfl : c = a := Option.some.inj h.head
      refine List.cons_prefix_cons.mpr ⟨rfl, ?_⟩
      cases chain' with
      | nil => exact List.nil_prefix
      | cons b chain' =>
        obtain ⟨d, rest, hrest⟩ : ∃ d rest, chain ++ [last] = d :: rest :=
          List.exists_cons_of_ne_nil (by simp)
        rw [List.cons_append, hrest] at h
        obtain ⟨-, hdeclared, -, htail⟩ := h.cons_cons
        obtain ⟨-, hdeclared', -, htail'⟩ := h'.cons_cons
        obtain rfl : d = b := Option.some.inj (hdeclared.symm.trans hdeclared')
        exact ih (hrest ▸ htail) htail'

/-- The part of a chain from one of its names on. -/
theorem IsChain.drop {a : Text} {before after : List Text}
    (h : IsChain declared name (before ++ a :: after)) : IsChain declared a (a :: after) :=
  ⟨rfl, h.links.suffix (List.suffix_append before _)⟩

/-- A chain that goes no further meets no name twice: from there on it would be shorter. -/
theorem IsChain.nodup (h : IsChain declared name (chain ++ [last])) (hend : IsEnd declared last) :
    (chain ++ [last]).Nodup := by
  induction chain generalizing name with
  | nil => exact List.nodup_singleton last
  | cons a chain ih =>
    obtain ⟨b, rest, hrest⟩ : ∃ b rest, chain ++ [last] = b :: rest :=
      List.exists_cons_of_ne_nil (by simp)
    have hcons := h
    rw [List.cons_append, hrest] at hcons
    obtain ⟨rfl, hdeclared, halias, htail⟩ := hcons.cons_cons
    refine List.nodup_cons.mpr ⟨fun ha => ?_, ih (hrest ▸ htail)⟩
    rcases List.mem_append.mp ha with ha | ha
    · obtain ⟨before, after, rfl⟩ := List.append_of_mem ha
      have hlong : IsChain declared a (a :: before ++ a :: (after ++ [last])) := by simpa using h
      have hagain : IsChain declared a (a :: after ++ [last]) := hlong.drop
      have hlength := (hagain.isPrefix hend h).length_le
      simp only [List.length_append, List.length_cons] at hlength
      omega
    · obtain rfl : a = last := List.mem_singleton.mp ha
      rw [hend b hdeclared] at halias
      cases halias

/-- The part of a chain up to one of its names. -/
theorem IsChain.take {a : Text} {before after : List Text}
    (h : IsChain declared name (before ++ a :: after)) : IsChain declared name (before ++ [a]) := by
  refine ⟨?_, h.links.prefix ⟨after, by simp⟩⟩
  have hhead := h.head
  rwa [List.append_cons, List.head?_append_of_ne_nil _ (by simp)] at hhead

/-- Two chains that go no further are the same. -/
theorem IsChain.eq_of_isEnd {last' : Text} (h : IsChain declared name (chain ++ [last]))
    (hend : IsEnd declared last) (h' : IsChain declared name (chain' ++ [last']))
    (hend' : IsEnd declared last') : last = last' := by
  have heq : chain ++ [last] = chain' ++ [last'] := List.IsPrefix.eq_of_length_le
    (h'.isPrefix hend' h) (h.isPrefix hend h').length_le
  exact List.singleton_inj.mp (List.append_inj' heq rfl).2

/-- The chain from a name comes to one value at most. -/
theorem EndsIn.unique {other : Text} (h : EndsIn declared name value)
    (h' : EndsIn declared name other) : value = other := by
  obtain ⟨chain, last, hchain, hdeclared, halias⟩ := h
  obtain ⟨chain', last', hchain', hdeclared', halias'⟩ := h'
  obtain rfl := hchain.eq_of_isEnd (isEnd_of_eq_some hdeclared halias) hchain'
    (isEnd_of_eq_some hdeclared' halias')
  exact Option.some.inj (hdeclared.symm.trans hdeclared')

/-- What comes to a value comes to no name that is not declared. -/
theorem EndsIn.not_breaksAt (h : EndsIn declared name value) :
    ¬ BreaksAt declared name missing := by
  rintro ⟨chain', hchain', -, hnone⟩
  obtain ⟨chain, last, hchain, hdeclared, halias⟩ := h
  obtain rfl := hchain.eq_of_isEnd (isEnd_of_eq_some hdeclared halias) hchain'
    (isEnd_of_eq_none hnone)
  rw [hdeclared] at hnone
  cases hnone

/-- What comes to a value comes to no name twice. -/
theorem EndsIn.not_isLoop (h : EndsIn declared name value) : ¬ IsLoop declared name loop := by
  rintro ⟨hloop, chain', last', rfl, -, hlast⟩
  obtain ⟨chain, last, hchain, hdeclared, halias⟩ := h
  have hend := isEnd_of_eq_some hdeclared halias
  have hnodup := (hchain.nodup hend).sublist (hchain.isPrefix hend hloop).sublist
  exact (nodup_concat_iff.mp hnodup).2 hlast

/-! ### The loop -/

/-- A chain that is followed has come to `current` by way of `visited`, the latest name first. -/
structure Walk where
  visited : List Text := []
  current : Text

namespace Walk

variable {w w' : Walk} {n fuel : Nat}

/-- One round of the loop: on to the next name, or to a result. -/
def step (declarations : Dict Text) (w : Walk) : Walk ⊕ Except Failure Text :=
  if w.visited.contains w.current then
    .inr (.error (.cyclicAlias (w.current :: w.visited).reverse))
  else
    match declarations.get? w.current with
    | none => .inr (.error (.undeclared w.current))
    | some value =>
      if isAlias value then .inl ⟨w.current :: w.visited, value⟩ else .inr (.ok value)

/-- The loop comes to a result after this number of rounds. -/
inductive Ends (declarations : Dict Text) : Nat → Walk → Except Failure Text → Prop
  | now {w : Walk} {result : Except Failure Text} :
      w.step declarations = .inr result → Ends declarations 1 w result
  | later {n : Nat} {w w' : Walk} {result : Except Failure Text} :
      w.step declarations = .inl w' → Ends declarations n w' result →
        Ends declarations (n + 1) w result

/-- To follow a chain is to do one round, and to follow it from there. -/
theorem follow_succ (w : Walk) (fuel : Nat) :
    follow declarations (fuel + 1) w.visited w.current =
      match w.step declarations with
      | .inl w' => follow declarations fuel w'.visited w'.current
      | .inr result => result := by
  rewrite [follow, step]
  by_cases hvisited : w.visited.contains w.current = true
  · simp only [if_pos hvisited]
  · simp only [if_neg hvisited]
    cases declarations.get? w.current with
    | none => rfl
    | some value =>
      by_cases halias : isAlias value = true
      · simp only [if_pos halias]
      · simp only [if_neg halias]

/-- With enough fuel a chain is followed to where the loop ends. -/
theorem Ends.follow_eq (h : Ends declarations n w result) (hn : n ≤ fuel) :
    follow declarations fuel w.visited w.current = result := by
  induction h generalizing fuel with
  | now hstep =>
    obtain ⟨fuel, rfl⟩ := Nat.exists_eq_add_of_le' hn
    rw [follow_succ, hstep]
  | later hstep _ ih =>
    obtain ⟨fuel, rfl⟩ := Nat.exists_eq_add_of_le' (Nat.le_trans (Nat.le_add_left 1 _) hn)
    rw [follow_succ, hstep]
    exact ih (Nat.le_of_succ_le_succ hn)

/-- The names on the way are the chain from `name`, and there is none twice among those before the
last. -/
structure IsOn (declared : Text → Option Text) (name : Text) (w : Walk) : Prop where
  chain : IsChain declared name (w.visited.reverse ++ [w.current])
  nodup : w.visited.Nodup

/-- A round that goes on stays on the chain, and meets a name that it has not met. -/
theorem IsOn.step (h : w.IsOn declarations.get? name) (hstep : w.step declarations = .inl w') :
    w'.IsOn declarations.get? name ∧ w'.visited.length = w.visited.length + 1 := by
  unfold Walk.step at hstep
  split at hstep
  · cases hstep
  rename_i hvisited
  split at hstep
  · cases hstep
  rename_i hsome
  split at hstep
  · rename_i halias
    obtain rfl := Sum.inl.inj hstep
    refine ⟨⟨?_, List.nodup_cons.mpr ⟨by simpa using hvisited, h.nodup⟩⟩, rfl⟩
    rw [List.reverse_cons]
    exact h.chain.concat hsome halias
  · cases hstep

/-- All names on the way but the last are declared, so there are no more of them than
declarations. -/
theorem IsOn.length_le (h : w.IsOn declarations.get? name) :
    w.visited.length ≤ declarations.size := by
  have hsubset : w.visited ⊆ declarations.names := fun a ha => by
    obtain ⟨b, hb⟩ := h.chain.declared_of_mem (List.mem_reverse.mpr ha)
    by_contra hname
    rw [Dict.get?, Dict.lookup_eq_none hname] at hb
    cases hb
  calc w.visited.length ≤ declarations.names.length := h.nodup.length_le_of_subset hsubset
    _ = declarations.size := List.length_map _

/-- **The loop ends.** Each round but the last one meets another declared name. -/
theorem IsOn.exists_ends (h : w.IsOn declarations.get? name)
    (hn : declarations.size + 1 = w.visited.length + n) :
    ∃ m ≤ n, ∃ result, Ends declarations m w result := by
  induction n generalizing w with
  | zero =>
    have hlength := h.length_le
    omega
  | succ n ih =>
    cases hstep : w.step declarations with
    | inr result => exact ⟨1, Nat.le_add_left 1 n, result, .now hstep⟩
    | inl w' =>
      obtain ⟨hon, hlength⟩ := h.step hstep
      obtain ⟨m, hm, result, hends⟩ := ih hon (by omega)
      exact ⟨m + 1, Nat.succ_le_succ hm, result, .later hstep hends⟩

/-- What a chain comes to, and the result that says so. -/
def Outcome (declared : Text → Option Text) (name : Text) : Except Failure Text → Prop
  | .ok value => EndsIn declared name value
  | .error (.undeclared missing) => BreaksAt declared name missing
  | .error (.cyclicAlias loop) => IsLoop declared name loop
  | .error _ => False

/-- The result of the loop is what the chain comes to. -/
theorem Ends.outcome (h : Ends declarations n w result) (hon : w.IsOn declarations.get? name) :
    Outcome declarations.get? name result := by
  induction h with
  | @now w result hstep =>
    unfold Walk.step at hstep
    split at hstep
    · rename_i hvisited
      obtain rfl := Sum.inr.inj hstep
      rw [List.reverse_cons]
      exact ⟨hon.chain, _, _, rfl, List.nodup_reverse.mpr hon.nodup,
        List.mem_reverse.mpr (by simpa using hvisited)⟩
    · rename_i hvisited
      split at hstep
      · rename_i hnone
        obtain rfl := Sum.inr.inj hstep
        exact ⟨_, hon.chain, hon.chain.nodup (isEnd_of_eq_none hnone), hnone⟩
      · rename_i hsome
        split at hstep
        · cases hstep
        · rename_i halias
          obtain rfl := Sum.inr.inj hstep
          exact ⟨_, _, hon.chain, hsome, by simpa using halias⟩
  | later hstep _ ih => exact ih (hon.step hstep).1

/-- The loop goes along a chain that meets no name twice. -/
theorem ends_of_isChain (h : IsChain declarations.get? name (chain ++ [last]))
    (hnodup : chain.Nodup) (hends : Ends declarations n ⟨chain.reverse, last⟩ result) :
    Ends declarations (n + chain.length) ⟨[], name⟩ result := by
  induction chain using List.reverseRecOn generalizing last n with
  | nil =>
    obtain rfl : last = name := Option.some.inj h.head
    exact hends
  | append_singleton chain previous ih =>
    obtain ⟨hchain, hdeclared, halias⟩ := h.init
    obtain ⟨hinit, hprevious⟩ := nodup_concat_iff.mp hnodup
    have hvisited : ¬ chain.reverse.contains previous = true := by simpa using hprevious
    have hstep : step declarations ⟨chain.reverse, previous⟩ =
        .inl ⟨(chain ++ [previous]).reverse, last⟩ := by
      simp only [step, if_neg hvisited, hdeclared, halias, if_true, List.reverse_append,
        List.reverse_singleton, List.singleton_append]
    have hall := ih hchain hinit (.later hstep hends)
    rwa [List.length_append, List.length_singleton, ← Nat.add_assoc, Nat.add_right_comm]

end Walk

/-! ### What a name stands for -/

open Walk

/-- **The rounds that the loop takes**, at most one more than there are declarations. -/
theorem exists_ends_resolve (declarations : Dict Text) (name : Text) :
    ∃ n ≤ declarations.size + 1, Ends declarations n ⟨[], name⟩ (resolve declarations name) := by
  have hon : IsOn declarations.get? name ⟨[], name⟩ := ⟨.single _ name, List.nodup_nil⟩
  obtain ⟨n, hn, result, hends⟩ := hon.exists_ends (Nat.zero_add _).symm
  have hresolve : resolve declarations name = result := hends.follow_eq hn
  exact ⟨n, hn, hresolve ▸ hends⟩

theorem outcome_resolve (declarations : Dict Text) (name : Text) :
    Outcome declarations.get? name (resolve declarations name) := by
  obtain ⟨n, -, hends⟩ := exists_ends_resolve declarations name
  exact hends.outcome ⟨.single _ name, List.nodup_nil⟩

/-- A chain that meets no name twice before its last one is followed to its end. -/
theorem resolve_of_isChain (h : IsChain declarations.get? name (chain ++ [last]))
    (hnodup : chain.Nodup) (hstep : step declarations ⟨chain.reverse, last⟩ = .inr result) :
    resolve declarations name = result := by
  have hon : IsOn declarations.get? name ⟨chain.reverse, last⟩ :=
    ⟨by simpa using h, List.nodup_reverse.mpr hnodup⟩
  have hlength : chain.length ≤ declarations.size := by simpa using hon.length_le
  exact (ends_of_isChain h hnodup (.now hstep)).follow_eq (by omega)

theorem resolve_eq_ok_iff :
    resolve declarations name = .ok value ↔ EndsIn declarations.get? name value := by
  refine ⟨fun h => ?_, fun ⟨chain, last, hchain, hdeclared, halias⟩ => ?_⟩
  · have houtcome := outcome_resolve declarations name
    rwa [h] at houtcome
  · have hend := isEnd_of_eq_some hdeclared halias
    obtain ⟨hnodup, hvisited⟩ := nodup_concat_iff.mp (hchain.nodup hend)
    exact resolve_of_isChain hchain hnodup (by simp [step, hvisited, hdeclared, halias])

/-- Where other declarations have the same for all names on the way, the chain comes to the same. -/
theorem Walk.Outcome.congr {declared' : Text → Option Text} (h : Outcome declared name result)
    (hsame : ∀ chain, IsChain declared name chain → ∀ a ∈ chain, declared a = declared' a) :
    Outcome declared' name result := by
  have hchain : ∀ chain, IsChain declared name chain → IsChain declared' name chain :=
    fun chain h => ⟨h.head, h.links.imp_of_mem_imp fun a b ha _ hab => by
      rwa [← hsame chain h a ha]⟩
  cases result with
  | ok value =>
    obtain ⟨chain, last, hlast, hdeclared, halias⟩ := h
    exact ⟨chain, last, hchain _ hlast, (hsame _ hlast last (by simp)).symm.trans hdeclared, halias⟩
  | error failure =>
    cases failure with
    | undeclared missing =>
      obtain ⟨chain, hlast, hnodup, hnone⟩ := h
      exact ⟨chain, hchain _ hlast, hnodup, (hsame _ hlast missing (by simp)).symm.trans hnone⟩
    | cyclicAlias loop => exact ⟨hchain _ h.1, h.2⟩
    | file | compile | bundle | config | pattern => exact h.elim

/-- What comes to a value comes to nothing else. -/
theorem EndsIn.eq_ok (h : EndsIn declared name value) (hresult : Outcome declared name result) :
    result = .ok value := by
  cases result with
  | ok other => rw [h.unique hresult]
  | error failure =>
    cases failure with
    | undeclared missing => exact absurd hresult h.not_breaksAt
    | cyclicAlias loop => exact absurd hresult h.not_isLoop
    | file | compile | bundle | config | pattern => exact hresult.elim

/-- **What a chain comes to is a matter of the names on the way**: declarations that have the same
for these give it the same value. -/
theorem endsIn_congr {declared' : Text → Option Text}
    (hsame : ∀ chain, IsChain declarations.get? name chain →
      ∀ a ∈ chain, declarations.get? a = declared' a) :
    EndsIn declarations.get? name value ↔ EndsIn declared' name value := by
  refine ⟨fun h => ?_, fun h => ?_⟩
  · have houtcome : Outcome declarations.get? name (.ok value) := h
    exact houtcome.congr hsame
  · exact resolve_eq_ok_iff.mp (h.eq_ok ((outcome_resolve declarations name).congr hsame))

theorem resolve_eq_undeclared_iff :
    resolve declarations name = .error (.undeclared missing) ↔
      BreaksAt declarations.get? name missing := by
  refine ⟨fun h => ?_, fun ⟨chain, hchain, hnodup, hdeclared⟩ => ?_⟩
  · have houtcome := outcome_resolve declarations name
    rwa [h] at houtcome
  · obtain ⟨hinit, hvisited⟩ := nodup_concat_iff.mp hnodup
    exact resolve_of_isChain hchain hinit (by simp [step, hvisited, hdeclared])

theorem resolve_eq_cyclic_iff :
    resolve declarations name = .error (.cyclicAlias loop) ↔
      IsLoop declarations.get? name loop := by
  refine ⟨fun h => ?_, fun ⟨hchain, chain, last, heq, hnodup, hlast⟩ => ?_⟩
  · have houtcome := outcome_resolve declarations name
    rwa [h] at houtcome
  · subst heq
    exact resolve_of_isChain hchain hnodup (by simp [step, hlast])

/-- A chain that meets a name twice is followed up to where it first does. -/
theorem exists_cyclic_iff :
    (∃ loop, resolve declarations name = .error (.cyclicAlias loop)) ↔
      ∃ chain, IsChain declarations.get? name chain ∧ ¬ chain.Nodup := by
  refine ⟨fun ⟨loop, h⟩ => ?_, fun ⟨chain, hchain, hdouble⟩ => ?_⟩
  · obtain ⟨hloop, chain, last, rfl, -, hlast⟩ := resolve_eq_cyclic_iff.mp h
    exact ⟨_, hloop, fun hnodup => (nodup_concat_iff.mp hnodup).2 hlast⟩
  · have houtcome := outcome_resolve declarations name
    have hdead : ∀ {before last}, IsChain declarations.get? name (before ++ [last]) →
        ¬ IsEnd declarations.get? last := fun hbefore hend =>
      hdouble ((hbefore.nodup hend).sublist (hbefore.isPrefix hend hchain).sublist)
    cases hresult : resolve declarations name with
    | ok value =>
      rw [hresult] at houtcome
      obtain ⟨before, last, hbefore, hdeclared, halias⟩ := houtcome
      exact absurd (isEnd_of_eq_some hdeclared halias) (hdead hbefore)
    | error failure =>
      rw [hresult] at houtcome
      cases failure with
      | cyclicAlias loop => exact ⟨loop, rfl⟩
      | undeclared missing =>
        obtain ⟨before, hbefore, -, hnone⟩ := houtcome
        exact absurd (isEnd_of_eq_none hnone) (hdead hbefore)
      | file | compile | bundle | config | pattern => exact houtcome.elim

/-- **What a name stands for.** The loop that follows the chain from the name ends, after at most
one round more than there are declarations. Its result is a value exactly if the chain comes to this
value; it is that a name is not declared exactly if this is the first such name on the chain; and it
is a loop exactly if the chain meets a name twice, and then it is the chain up to the first such
name. There is no other result. -/
theorem resolve_exact (declarations : Dict Text) (name : Text) :
    (∃ n ≤ declarations.size + 1,
        Ends declarations n ⟨[], name⟩ (resolve declarations name)) ∧
      (∀ value, resolve declarations name = .ok value ↔ EndsIn declarations.get? name value) ∧
      (∀ missing, resolve declarations name = .error (.undeclared missing) ↔
        BreaksAt declarations.get? name missing) ∧
      (∀ loop, resolve declarations name = .error (.cyclicAlias loop) ↔
        IsLoop declarations.get? name loop) ∧
      ((∃ loop, resolve declarations name = .error (.cyclicAlias loop)) ↔
        ∃ chain, IsChain declarations.get? name chain ∧ ¬ chain.Nodup) ∧
      ((∃ value, EndsIn declarations.get? name value) ∨
        (∃ missing, BreaksAt declarations.get? name missing) ∨
        ∃ loop, IsLoop declarations.get? name loop) := by
  refine ⟨exists_ends_resolve declarations name, fun _ => resolve_eq_ok_iff,
    fun _ => resolve_eq_undeclared_iff, fun _ => resolve_eq_cyclic_iff, exists_cyclic_iff, ?_⟩
  have houtcome := outcome_resolve declarations name
  cases hresult : resolve declarations name with
  | ok value =>
    rw [hresult] at houtcome
    exact .inl ⟨value, houtcome⟩
  | error failure =>
    rw [hresult] at houtcome
    cases failure with
    | undeclared missing => exact .inr (.inl ⟨missing, houtcome⟩)
    | cyclicAlias loop => exact .inr (.inr ⟨loop, houtcome⟩)
    | file | compile | bundle | config | pattern => exact houtcome.elim

/-- A loop that is entered from outside. -/
example : resolve (Dict.ofList [("@a".toList, "@b".toList), ("@b".toList, "@c".toList),
      ("@c".toList, "@b".toList)]) "@a".toList =
    .error (.cyclicAlias ["@a".toList, "@b".toList, "@c".toList, "@b".toList]) := by
  decide

end Retint.Alias
