import Retint.Proofs.Colors.Literal

/-!
# Names of shades

A shade's name is its variable's name, a hyphen, and the index; only the shades of the primary
variable go by a shorter name. So a shade's name tells the variable and the index, as long as no
variable has the shorter name itself. The names that a theme knows never do: each has a hyphen or a
quote.

What such a name stands for is told by its spelling alone. The index is read back as what follows
the last hyphen, and has to be a single digit; the variable is read back as what comes before it,
unless there is a digit after `primary-` somewhere in the name.

## Main definitions

* `Declaration.IsMarked` — names of variables with a hyphen or a quote
* `Probe.Rule.key` — the name that a probe's color is kept under

## Main results

* `Shade.split?_eq_some_iff` — the names that are read as those of shades
* `Shade.isPrimary_iff` — the names that go to the primary palette
* `Shade.name_injective` — a shade's name tells the variable and the index
* `Shade.expression?_name` — the palette call that a shade's name stands for
* `Shade.name_identifies` — the headline
* `Probe.isMarked_key` — the keys of all probes are marked names
-/

namespace Retint

/-- A name that a theme takes notice of: one with a hyphen or a quote. -/
structure Declaration.IsMarked (name : Text) : Prop where
  isName : IsName name
  mark : '-' ∈ name ∨ '\'' ∈ name

/-- A name without its `@`. -/
theorem Declaration.dropChar_at {bare : Text} (h : '@' ∉ bare) :
    Text.dropChar '@' ('@' :: bare) = bare :=
  (Text.dropChar_replicate_append 1 fun hhead => h (List.mem_of_mem_head? hhead)).1

namespace Shade

open Declaration

variable {full base base' bare n : Text} {digit : Char} {i j : Nat}

/-- What is read as the name of a shade: a base on one line, a hyphen and a digit. -/
theorem split?_eq_some_iff :
    split? full = some (base, digit) ↔
      full = base ++ ['-', digit] ∧ Unicode.isDigit digit = true ∧ '\n' ∉ base := by
  constructor
  · intro h
    unfold split? at h
    split at h
    · rename_i d b hfull
      split at h
      · rename_i hd
        obtain ⟨rfl, rfl⟩ := Prod.mk.inj (Option.some.inj h)
        rw [List.reverse_eq_iff] at hfull
        simp only [Bool.and_eq_true, Bool.not_eq_true', List.contains_eq_mem,
          decide_eq_false_iff_not] at hd
        refine ⟨by simp [hfull], hd.1, by simpa using hd.2⟩
      · cases h
    · cases h
  · rintro ⟨rfl, hd, hb⟩
    simp [split?, hd, hb]

theorem split?_eq_none_iff (hn : IsName full) :
    split? full = none ↔
      ¬ ∃ base digit, full = base ++ ['-', digit] ∧ Unicode.isDigit digit = true := by
  have hline : '\n' ∉ full := by
    obtain ⟨t, rfl, ht⟩ := hn
    intro hm
    rcases List.mem_cons.mp hm with hm | hm
    · exact absurd hm (by decide)
    · exact absurd (ht _ hm) (by decide)
  rw [Option.eq_none_iff_forall_ne_some]
  constructor
  · rintro h ⟨base, digit, rfl, hd⟩
    refine h (base, digit) (split?_eq_some_iff.mpr ⟨rfl, hd, fun hm => ?_⟩)
    exact hline (List.mem_append_left _ hm)
  · rintro h ⟨base, digit⟩ hs
    obtain ⟨rfl, hd, -⟩ := split?_eq_some_iff.mp hs
    exact h ⟨base, digit, rfl, hd⟩

/-- A name that has `primary-` and a digit somewhere goes to the primary palette. -/
theorem isPrimary_iff : isPrimary full = true ↔
    ∃ digit, Unicode.isDigit digit = true ∧ "primary-".toList ++ [digit] <:+: full := by
  induction full with
  | nil => simp [isPrimary]
  | cons c full ih =>
    rw [isPrimary, Bool.or_eq_true, ih]
    constructor
    · rintro (h | ⟨digit, hdigit, hinfix⟩)
      · split at h
        · rename_i digit rest hdrop
          refine ⟨digit, h, [], rest, ?_⟩
          rw [Text.dropLead?_eq_some_iff.mp hdrop, List.nil_append, List.append_assoc,
            List.singleton_append]
        · cases h
      · exact ⟨digit, hdigit, List.infix_cons hinfix⟩
    · rintro ⟨digit, hdigit, hinfix⟩
      rcases List.infix_cons_iff.mp hinfix with ⟨rest, hrest⟩ | hinfix
      · left
        rw [← hrest, List.append_assoc, Text.dropLead?_append_self]
        exact hdigit
      · exact .inr ⟨digit, hdigit, hinfix⟩

/-- The palette call of a name that is spelled like that of a shade. -/
theorem expression?_append (hbare : ∀ c ∈ bare, isNameChar c = true)
    (hd : Unicode.isDigit digit = true) :
    expression? ('@' :: (bare ++ ['-', digit])) = some (paletteCall
      (if isPrimary ('@' :: (bare ++ ['-', digit])) then primaryVariable.tail else bare)
      digit) := by
  have hline : '\n' ∉ '@' :: bare := by
    simp [Text.not_mem_of_forall hbare (by decide : isNameChar '\n' = false)]
  have hprimary : primaryVariable = '@' :: primaryVariable.tail ∧ '@' ∉ primaryVariable.tail := by
    decide
  have hsplit : split? ('@' :: (bare ++ ['-', digit])) = some ('@' :: bare, digit) :=
    split?_eq_some_iff.mpr ⟨rfl, hd, hline⟩
  simp only [expression?, hsplit, Option.map_some]
  split
  · rw [hprimary.1, dropChar_at hprimary.2, List.tail_cons]
  · rw [dropChar_at (Text.not_mem_of_forall hbare (by decide))]

/-! ### The names of shades -/

theorem lt_ten (hi : i ∈ indices) : i < 10 := by
  have hall : ∀ i ∈ indices, i < 10 := by decide
  exact hall i hi

/-- An index is written in digits. -/
theorem isDigit_of_mem_toDigits (h : digit ∈ Nat.toDigits 10 i) :
    Unicode.isDigit digit = true ∧ isNameChar digit = true := by
  have hdigit := Nat.isDigit_of_mem_toDigits (by decide) (by decide) h
  refine ⟨?_, by simp [isNameChar, Char.isAlphanum, hdigit]⟩
  simp only [Char.isDigit, Bool.and_eq_true, decide_eq_true_eq] at hdigit
  simp only [Unicode.isDigit, Bool.or_eq_true, Bool.and_eq_true, decide_eq_true_eq]
  exact .inl hdigit

theorem hyphen_not_mem_toDigits (i : Nat) : '-' ∉ Nat.toDigits 10 i :=
  fun h => absurd (isDigit_of_mem_toDigits h).1 (by decide)

theorem isDigit_digitChar (hi : i < 10) : Unicode.isDigit (Nat.digitChar i) = true :=
  (isDigit_of_mem_toDigits (i := i) (by simp [Nat.toDigits_of_lt_base hi])).1

/-- The index is what follows the last hyphen. -/
theorem cutLast?_name (base : Text) (i : Nat) : Text.cutLast? '-' (name base i) =
    some (if base = primaryVariable then primaryLead else base, Nat.toDigits 10 i) :=
  Text.cutLast?_append_cons _ (hyphen_not_mem_toDigits i)

/-- A shade's name by its parts. The characters before the hyphen are those of the variable's name
or those of the primary palette. -/
theorem exists_name_eq {p : Char → Bool} (hp : ∀ c ∈ primaryLead.tail, p c = true)
    (hn : ∀ c ∈ n, p c = true) (i : Nat) :
    ∃ m, name ('@' :: n) i = '@' :: (m ++ '-' :: Nat.toDigits 10 i) ∧ ∀ c ∈ m, p c = true := by
  have hlead : primaryLead = '@' :: primaryLead.tail := by decide
  rw [Shade.name]
  split
  · refine ⟨primaryLead.tail, ?_, hp⟩
    rw [hlead]
    rfl
  · exact ⟨n, rfl, hn⟩

/-- The shades of marked variables have marked names. -/
theorem isMarked_name (h : IsMarked base) (i : Nat) : IsMarked (name base i) := by
  obtain ⟨⟨n, rfl, hn⟩, -⟩ := h
  obtain ⟨m, hname, hm⟩ := exists_name_eq (by decide) hn i
  rw [hname]
  refine ⟨⟨_, rfl, fun c hc => ?_⟩, .inl (by simp)⟩
  rcases List.mem_append.mp hc with hc | hc
  · exact hm c hc
  · rcases List.mem_cons.mp hc with rfl | hc
    · decide
    · exact (isDigit_of_mem_toDigits hc).2

/-- The name that stands for all shades of the primary variable is not marked. -/
theorem ne_primaryLead_of_isMarked (h : IsMarked base) : base ≠ primaryLead := by
  rintro rfl
  exact absurd h.mark (by decide)

/-- **A shade's name tells the variable and the index.** -/
theorem name_injective (h : IsMarked base) (h' : IsMarked base')
    (heq : name base i = name base' j) : base = base' ∧ i = j := by
  have hcut := congrArg (Text.cutLast? '-') heq
  rw [cutLast?_name, cutLast?_name] at hcut
  obtain ⟨hlead, hdigits⟩ := Prod.mk.inj (Option.some.inj hcut)
  constructor
  · split at hlead
    · rename_i hbase
      split at hlead
      · rename_i hbase'
        rw [hbase, hbase']
      · exact absurd hlead.symm (ne_primaryLead_of_isMarked h')
    · split at hlead
      · exact absurd hlead (ne_primaryLead_of_isMarked h)
      · exact hlead
  · calc
      i = Nat.ofDigitChars 10 (Nat.toDigits 10 i) 0 := Nat.ofDigitChars_ten_toDigits.symm
      _ = Nat.ofDigitChars 10 (Nat.toDigits 10 j) 0 := by rw [hdigits]
      _ = j := Nat.ofDigitChars_ten_toDigits

/-! ### The palette calls of shades -/

/-- A shade with an index of one digit stands for the palette call of its variable, unless its name
goes to the primary palette. -/
theorem expression?_name (h : IsMarked ('@' :: bare)) (hi : i < 10) :
    expression? (name ('@' :: bare) i) = some (paletteCall
      (if isPrimary (name ('@' :: bare) i) then primaryVariable.tail else bare)
      (Nat.digitChar i)) := by
  obtain ⟨n, hn, hchars⟩ := h.isName
  obtain rfl := (List.cons.inj hn).2
  -- The shades of the primary variable have a shorter name, but that one goes to it anyway.
  by_cases hbase : '@' :: bare = primaryVariable
  · have hprimary : ∀ i < 10, isPrimary (name primaryVariable i) = true := by decide
    have hname : name primaryVariable i = '@' :: (primaryLead.tail ++ ['-', Nat.digitChar i]) := by
      rw [name, if_pos rfl, Nat.toDigits_of_lt_base hi]
      rfl
    have hlead : ∀ c ∈ primaryLead.tail, isNameChar c = true := by decide
    have hcall := expression?_append hlead (isDigit_digitChar hi)
    rw [hbase, hprimary i hi, if_pos rfl, hname, hcall, ← hname, hprimary i hi, if_pos rfl]
  · have hname : name ('@' :: bare) i = '@' :: (bare ++ ['-', Nat.digitChar i]) := by
      rw [name, if_neg hbase, Nat.toDigits_of_lt_base hi, List.cons_append]
    rw [hname, expression?_append hchars (isDigit_digitChar hi)]

/-- A shade's name stands for a palette call. -/
theorem exists_expression?_name (h : IsMarked base) (hi : i < 10) :
    ∃ call, expression? (name base i) = some call := by
  obtain ⟨n, rfl, hn⟩ := h.isName
  exact ⟨_, expression?_name h hi⟩

/-- With an index of more than one digit a shade's name stands for nothing. -/
theorem expression?_name_eq_none (base : Text) (hi : 10 ≤ i) :
    expression? (name base i) = none := by
  rw [expression?, Option.map_eq_none_iff, Option.eq_none_iff_forall_ne_some]
  rintro ⟨stem, digit⟩ hsplit
  obtain ⟨hname, hdigit, -⟩ := split?_eq_some_iff.mp hsplit
  have hhyphen : '-' ∉ [digit] := by
    rw [List.mem_singleton]
    rintro rfl
    exact absurd hdigit (by decide)
  have hcut := cutLast?_name base i
  rw [hname, Text.cutLast?_append_cons stem hhyphen] at hcut
  have hlength : (Nat.toDigits 10 i).length = 1 := by
    rw [← (Prod.mk.inj (Option.some.inj hcut)).2, List.length_singleton]
  have hlt := (Nat.length_toDigits_le_iff (by decide) (by decide)).mp (Nat.le_of_eq hlength)
  omega

/-- **A shade's name tells its variable, and stands for the palette call of it.** The shades of
marked variables have different names, whatever the index. A name with an index of one digit stands
for the palette call with this index: that of the primary variable if the name has `primary-` and a
digit somewhere, else that of the variable itself. With an index of more digits it stands for
nothing. -/
theorem name_identifies (h : IsMarked base) (h' : IsMarked base') :
    (∀ i j, name base i = name base' j → base = base' ∧ i = j) ∧
    (∀ i < 10,
      ((∃ digit, Unicode.isDigit digit = true ∧
          "primary-".toList ++ [digit] <:+: name base i) →
        expression? (name base i) = some (paletteCall "primary-color".toList (Nat.digitChar i))) ∧
      ((¬ ∃ digit, Unicode.isDigit digit = true ∧
          "primary-".toList ++ [digit] <:+: name base i) →
        expression? (name base i) = some (paletteCall base.tail (Nat.digitChar i)))) ∧
    ∀ i, 10 ≤ i → expression? (name base i) = none := by
  refine ⟨fun i j => name_injective h h', fun i hi => ?_, fun i => expression?_name_eq_none base⟩
  obtain ⟨bare, rfl, -⟩ := h.isName
  rw [← isPrimary_iff, expression?_name h hi]
  constructor
  · intro hprimary
    rw [if_pos hprimary]
    rfl
  · intro hprimary
    rw [if_neg hprimary, List.tail_cons]

/-- A variable whose name goes to the primary palette, and one that is spelled like a shade. -/
theorem name_identifies_quoted :
    let base := "@it's-primary-2".toList
    let base' := "@blue-6".toList
    (IsMarked base ∧ IsMarked base') ∧
    name base 0 ≠ name base' 0 ∧
    expression? (name base 9) = some (paletteCall "primary-color".toList '9') ∧
    expression? (name base' 0) = some (paletteCall "blue-6".toList '0') ∧
    expression? (name base' 10) = none := by
  intro base base'
  have h : IsMarked base := ⟨⟨_, rfl, by decide⟩, by decide⟩
  have h' : IsMarked base' := ⟨⟨_, rfl, by decide⟩, by decide⟩
  obtain ⟨hname, hcall, -⟩ := name_identifies h h'
  obtain ⟨-, hcall', hnone⟩ := name_identifies h' h
  refine ⟨⟨h, h'⟩, fun heq => ?_, ?_, ?_, hnone 10 (by decide)⟩
  · exact absurd (hname 0 0 heq).1 (by decide)
  · exact (hcall 9 (by decide)).1 ⟨'2', by decide, "@it's-".toList, "-9".toList, by decide⟩
  · refine (hcall' 0 (by decide)).2 ?_
    rw [← isPrimary_iff]
    decide

end Shade

/-! ### Probes -/

namespace Probe

open Declaration

variable {name base : Text} {r : Rule} {selected : List (Text × Text)}

/-- The name that a probe's color is kept under: its class with an `@` in front. -/
def Rule.key (r : Rule) : Text := '@' :: r.selector

/-- The key of a probe is the name that the probe was made for. -/
theorem key_of (h : IsName name) (value : Text) : (Rule.of name value).key = name := by
  obtain ⟨t, rfl, ht⟩ := h
  rw [Rule.key, Rule.of, dropChar_at (Text.not_mem_of_forall ht (by decide))]

/-- A probe of a shade of a marked variable is made for the shade's name and asks for the palette
call that the name stands for. -/
theorem exists_of_mem_shadeRules (h : IsMarked base) (hr : r ∈ shadeRules base) :
    ∃ i ∈ Shade.indices, r.key = Shade.name base i ∧
      Shade.expression? (Shade.name base i) = some r.value := by
  obtain ⟨i, hi, hrule⟩ := List.mem_filterMap.mp hr
  obtain ⟨call, hcall, rfl⟩ := Option.map_eq_some_iff.mp hrule
  exact ⟨i, hi, key_of (Shade.isMarked_name h i).isName call, hcall⟩

/-- The keys of all probes are marked names. -/
theorem isMarked_key (h : ∀ e ∈ selected, IsMarked e.1) (hr : r ∈ rules selected) :
    IsMarked r.key := by
  rw [rules, List.mem_reverse, List.mem_append] at hr
  rcases hr with hr | hr
  · obtain ⟨e, he, rfl⟩ := List.mem_map.mp hr
    rw [key_of (h e he).isName]
    exact h e he
  · obtain ⟨e, he, hr⟩ := List.mem_flatMap.mp hr
    obtain ⟨i, hi, hkey, -⟩ := exists_of_mem_shadeRules (h e he) hr
    rw [hkey]
    exact Shade.isMarked_name (h e he) i

end Probe

end Retint
