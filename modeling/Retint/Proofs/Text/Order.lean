import Retint.Text.Utf8

/-!
# The order of texts

Texts are in the order of their code points. In UTF-8 a character with a greater code point also has
the greater bytes: they are greater at the first place where the bytes differ, and no character's
bytes begin those of another one. So texts are in the order of their bytes too.

## Main results

* `Text.le_trans`, `Text.le_total` — the order can be sorted by
* `Text.utf8_lt_of_le` — it is the order of the bytes
-/

namespace Retint.Text

variable {c d : Char} {t u v : Text}

theorem le_cons_iff :
    le (c :: t) (d :: u) = true ↔ c.toNat < d.toNat ∨ c = d ∧ le t u = true := by
  rw [le, Bool.or_eq_true, Bool.and_eq_true, decide_eq_true_iff, beq_iff_eq, ← Char.ext_iff]
  exact Iff.rfl

protected theorem le_trans (htu : le t u = true) (huv : le u v = true) : le t v = true := by
  induction t generalizing u v with
  | nil => rfl
  | cons c t ih =>
    cases u with
    | nil => cases htu
    | cons d u =>
      cases v with
      | nil => cases huv
      | cons e v =>
        rw [le_cons_iff] at htu huv ⊢
        rcases htu with hcd | ⟨rfl, htu⟩ <;> rcases huv with hde | ⟨rfl, huv⟩
        · exact .inl (Nat.lt_trans hcd hde)
        · exact .inl hcd
        · exact .inl hde
        · exact .inr ⟨rfl, ih htu huv⟩

protected theorem le_total (t u : Text) : (le t u || le u t) = true := by
  induction t generalizing u with
  | nil => rfl
  | cons c t ih =>
    cases u with
    | nil => rfl
    | cons d u =>
      rw [Bool.or_eq_true, le_cons_iff, le_cons_iff]
      rcases Nat.lt_trichotomy c.toNat d.toNat with hlt | heq | hgt
      · exact .inl (.inl hlt)
      · obtain rfl := Char.toNat_inj.mp heq
        rcases Bool.or_eq_true_iff.mp (ih u) with h | h
        · exact .inl (.inr ⟨rfl, h⟩)
        · exact .inr (.inr ⟨rfl, h⟩)
      · exact .inr (.inl hgt)

theorem toNat_lt (c : Char) : c.toNat < 0x110000 :=
  c.valid.elim (fun h => Nat.lt_trans h (by decide)) And.right

theorem utf8Char_ne_nil (c : Char) : utf8Char c ≠ [] := by
  unfold utf8Char
  simp only
  repeat' split
  all_goals exact List.cons_ne_nil _ _

/-- The bytes of a character with a greater code point are greater, whatever follows them. -/
theorem utf8Char_append_lt (h : c.toNat < d.toNat) (a b : List UInt8) :
    utf8Char c ++ a < utf8Char d ++ b := by
  have hd := toNat_lt d
  unfold utf8Char
  simp only
  repeat' split
  -- a greater code point never has fewer bytes; if it has as many, their digits are compared
  all_goals
    simp only [List.cons_append, List.cons_lt_cons_iff, UInt8.lt_iff_toNat_lt, ← UInt8.toNat_inj,
      UInt8.toNat_ofNat']
    simp (disch := omega) only [Nat.mod_eq_of_lt]
    omega

/-- **The order of texts is that of their bytes.** -/
theorem utf8_lt_of_le (hle : le t u = true) (hne : t ≠ u) : utf8 t < utf8 u := by
  induction t generalizing u with
  | nil =>
    obtain ⟨d, u, rfl⟩ := List.exists_cons_of_ne_nil hne.symm
    obtain ⟨byte, bytes, hbytes⟩ := List.exists_cons_of_ne_nil (utf8Char_ne_nil d)
    rw [utf8, utf8, List.flatMap_cons, hbytes]
    exact List.nil_lt_cons _ _
  | cons c t ih =>
    cases u with
    | nil => cases hle
    | cons d u =>
      rw [utf8, utf8, List.flatMap_cons, List.flatMap_cons]
      rcases le_cons_iff.mp hle with hlt | ⟨rfl, htu⟩
      · exact utf8Char_append_lt hlt _ _
      · exact List.append_left_lt (ih htu fun heq => hne (by rw [heq]))

end Retint.Text
