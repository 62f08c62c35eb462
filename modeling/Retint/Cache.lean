import Retint.Text

/-!
# The theme cache

A generator remembers the last theme that it generated, together with the digest of the sources
that it was generated from.

## Main definitions

* `Cache.get?` — the remembered theme, if it was generated from sources with this digest
* `Cache.store` — remembers a theme in the place of the one before

## Main results

* `Cache.get?_eq_some_iff` — what can be had is in the slot
-/

namespace Retint

/-- The last generated theme and the digest of its sources. -/
structure Cache where
  slot : Option (Text × Text) := none
deriving DecidableEq, Repr

namespace Cache

def get? (cache : Cache) (digest : Text) : Option Text :=
  match cache.slot with
  | some (d, theme) => if d = digest then some theme else none
  | none => none

def store (_ : Cache) (digest theme : Text) : Cache := ⟨some (digest, theme)⟩

theorem get?_eq_some_iff {cache : Cache} {digest theme : Text} :
    cache.get? digest = some theme ↔ cache.slot = some (digest, theme) := by
  unfold get?
  rcases cache.slot with _ | ⟨d, t⟩
  · simp
  · by_cases h : d = digest <;> simp [h]

end Cache

end Retint
