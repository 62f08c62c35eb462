import Retint.Proofs.Colors.Characters
import Retint.Proofs.Text.Replace

/-!
# Reading functional notation from left to right

The grammar of functional notation leaves open where a component ends and what the last number is:
white space can belong to a component or stand before the last number, and digits can begin either.
A recognizer that reads a text once, a character at a time, has to decide neither. Its states say
what has been read, and what may follow in a state is again a language; a step of the recognizer
leads to the state for what may follow the character.

## Main definitions

* `Color.State`, `Color.State.step` — the recognizer
* `Color.accepts` — whether it accepts a text
* `Color.State.rest` — the texts that may follow in a state

## Main results

* `Color.State.cons_mem_rest` — a step leads to what may follow the character
* `Color.accepts_iff` — the recognizer accepts the texts of the grammar
* `Color.isColor_exact` — which values are colors, by their spelling
-/

namespace Retint.Color

open Grammar

/-! ### The recognizer -/

/-- What the recognizer has read last. A number `room` tells how many components there is room for
behind the one that has been read or begun. -/
inductive State
  /-- Letters of the name, up to case. -/
  | name (seen : Text)
  /-- The name and an `a`. -/
  | alpha
  /-- The parenthesis. -/
  | opened
  /-- A component, up to a separator. -/
  | gap (room : Nat)
  /-- Digits; without room they can be those of the last number. -/
  | number (room : Nat)
  /-- A percent sign behind such digits. -/
  | percent (room : Nat)
  /-- Letters of the unit of a component, up to case. -/
  | unit (room : Nat) (seen : Text)
  /-- A slash before the last number. -/
  | slash
  /-- Digits and dots of the last number. -/
  | last
  /-- The percent sign behind the last number. -/
  | lastPercent
  /-- The whole color. -/
  | closed
deriving DecidableEq

namespace State

/-- A digit behind separators, which begins a component or, without room for one, the last
number. -/
def begun : Nat → State
  | 0 => last
  | room + 1 => number room

/-- The next character is read. -/
def step : State → Char → Option State
  | name seen, c =>
    if names.contains seen then
      if c == '(' then some opened
      else if Unicode.fold c == 'a' then some alpha
      else none
    else if begins names (seen ++ [Unicode.fold c]) then some (name (seen ++ [Unicode.fold c]))
    else none
  | alpha, c => if c == '(' then some opened else none
  | opened, c => if Unicode.isDigit c then some (begun 3) else none
  | gap room, c =>
    if isSeparator c then some (gap room)
    else if Unicode.isDigit c then some (begun room)
    else if room ≤ 1 ∧ c = '/' then some slash
    else if room ≤ 1 ∧ c = '.' then some last
    else none
  | number room, c =>
    if Unicode.isDigit c then some (number room)
    else if c == '%' then some (percent room)
    else if isSeparator c then some (gap room)
    else if begins units [Unicode.fold c] then some (unit room [Unicode.fold c])
    else if room = 0 ∧ c = '.' then some last
    else if room = 0 ∧ c = ')' then some closed
    else none
  | percent room, c =>
    if isSeparator c then some (gap room)
    else if begins units [Unicode.fold c] then some (unit room [Unicode.fold c])
    else if room = 0 ∧ c = ')' then some closed
    else none
  | unit room seen, c =>
    if units.contains seen then if isSeparator c then some (gap room) else none
    else if begins units (seen ++ [Unicode.fold c]) then
      some (unit room (seen ++ [Unicode.fold c]))
    else none
  | slash, c => if isGap c then some slash else if isNumeral c then some last else none
  | last, c =>
    if isNumeral c then some last
    else if c == '%' then some lastPercent
    else if c == ')' then some closed
    else none
  | lastPercent, c => if c == ')' then some closed else none
  | closed, _ => none

end State

/-- Whether the recognizer accepts a text: it can read all of it, and ends with a whole color. -/
def accepts (t : Text) : Bool := t.foldlM State.step (.name []) == some .closed

/-! ### What may follow -/

/-- Behind the first of its digits and dots, the last number up to the end. -/
def lastRest : Language Char := run isNumeral * (maybe (char (· == '%')) * char (· == ')'))

/-- From the white space or slashes before the last number to the end. -/
def tail : Language Char := run isGap * (char isNumeral * lastRest)

/-- A language where there is no room for further components. -/
def final (room : Nat) (L : Language Char) : Language Char := if room = 0 then L else 0

/-- What may follow the components, where there is room for some more. -/
def after : Nat → Language Char
  | 0 => tail
  | room + 1 => Grammar.component * after room + final room tail

/-- The end of a component, and what may follow. -/
def separated (room : Nat) : Language Char := char isSeparator * (run isSeparator * after room)

/-- Behind the first digit of a component, its remainder and what may follow. -/
def componentRest (room : Nat) : Language Char :=
  run Unicode.isDigit * (maybe (char (· == '%')) * (maybe (anyOf units) * separated room))

/-- The texts that may follow in a state. -/
def State.rest : State → Language Char
  | name seen => completion names seen *
      (maybe (char (Unicode.fold · == 'a')) * (char (· == '(') * after 3))
  | alpha => char (· == '(') * after 3
  | opened => after 3
  | gap room => run isSeparator * after room
  | number room => componentRest room + final room lastRest
  | percent room => maybe (anyOf units) * separated room + final room (char (· == ')'))
  | unit room seen => completion units seen * separated room
  | slash => tail
  | last => lastRest
  | lastPercent => char (· == ')')
  | closed => 1

section Rest

variable {room : Nat} {L K : Language Char} {c : Char} {w : Text} {seen : Text}

theorem mem_final : w ∈ final room L ↔ room = 0 ∧ w ∈ L := by
  rw [final]
  split
  next h => simp [h]
  next h => simp [h]

theorem cons_mem_lastRest : c :: w ∈ lastRest ↔
    isNumeral c = true ∧ w ∈ lastRest ∨ c = '%' ∧ w ∈ char (· == ')') ∨ c = ')' ∧ w = [] := by
  rw [lastRest, cons_mem_run_mul, mem_maybe_mul, cons_mem_char, cons_mem_char_mul, beq_iff_eq,
    beq_iff_eq]
  tauto

theorem cons_mem_tail : c :: w ∈ tail ↔
    isGap c = true ∧ w ∈ tail ∨ isNumeral c = true ∧ w ∈ lastRest := by
  rw [tail, cons_mem_run_mul, cons_mem_char_mul, or_comm]

theorem mem_after : w ∈ after room ↔
    (∃ k, room = k + 1 ∧ w ∈ Grammar.component * after k) ∨ room ≤ 1 ∧ w ∈ tail := by
  cases room with
  | zero => simp [after]
  | succ room =>
    rw [after, Language.mem_add, mem_final]
    simp

theorem cons_mem_component_mul : c :: w ∈ Grammar.component * after room ↔
    Unicode.isDigit c = true ∧ w ∈ componentRest room := by
  simp only [Grammar.component, mul_assoc, cons_mem_char_mul]
  rfl

theorem cons_mem_after : c :: w ∈ after room ↔
    (∃ k, room = k + 1 ∧ Unicode.isDigit c = true ∧ w ∈ componentRest k) ∨
      room ≤ 1 ∧ c :: w ∈ tail := by
  rw [mem_after]
  simp only [cons_mem_component_mul]

theorem cons_mem_separated : c :: w ∈ separated room ↔
    isSeparator c = true ∧ w ∈ (State.gap room).rest := cons_mem_char_mul

theorem cons_mem_units : c :: w ∈ maybe (anyOf units) * separated room ↔
    isSeparator c = true ∧ w ∈ (State.gap room).rest ∨
      begins units [Unicode.fold c] = true ∧ w ∈ (State.unit room [Unicode.fold c]).rest := by
  rw [mem_maybe_mul, cons_mem_separated, ← completion_nil, cons_mem_completion_mul (by decide)]
  rfl

theorem cons_mem_componentRest : c :: w ∈ componentRest room ↔
    Unicode.isDigit c = true ∧ w ∈ componentRest room ∨
      c = '%' ∧ w ∈ maybe (anyOf units) * separated room ∨
      c :: w ∈ maybe (anyOf units) * separated room := by
  rw [componentRest, cons_mem_run_mul, mem_maybe_mul, cons_mem_char_mul, beq_iff_eq]
  tauto

/-! ### Ends

A color ends with its closing parenthesis, so no text that may follow is empty before that. -/

theorem nil_not_mem_mul (h : [] ∉ K) : [] ∉ L * K := by
  rw [nil_mem_mul]
  exact fun hnil => h hnil.2

theorem nil_not_mem_lastRest : [] ∉ lastRest := nil_not_mem_mul (nil_not_mem_mul nil_not_mem_char)

theorem nil_not_mem_tail : [] ∉ tail := nil_not_mem_mul (nil_not_mem_mul nil_not_mem_lastRest)

theorem nil_not_mem_after : [] ∉ after room := by
  induction room with
  | zero => exact nil_not_mem_tail
  | succ room ih =>
    rw [after, Language.mem_add, mem_final]
    rintro (h | ⟨-, h⟩)
    · exact nil_not_mem_mul ih h
    · exact nil_not_mem_tail h

theorem nil_not_mem_separated : [] ∉ separated room :=
  nil_not_mem_mul (nil_not_mem_mul nil_not_mem_after)

/-! ### Steps -/

namespace State

theorem mem_rest_number : w ∈ (number room).rest ↔
    w ∈ componentRest room ∨ room = 0 ∧ w ∈ lastRest := by
  rw [rest, Language.mem_add, mem_final]

theorem mem_rest_percent : w ∈ (percent room).rest ↔
    w ∈ maybe (anyOf units) * separated room ∨ room = 0 ∧ w ∈ char (· == ')') := by
  rw [rest, Language.mem_add, mem_final]

theorem exists_step_iff {p : Prop} [Decidable p] {s : State} :
    (∃ s', (if p then some s else none) = some s' ∧ w ∈ s'.rest) ↔ p ∧ w ∈ s.rest := by
  by_cases h : p
  · simp [h]
  · simp [h]

theorem isPrefixFree_names : IsPrefixFree names := by
  unfold IsPrefixFree
  decide

theorem isPrefixFree_units : IsPrefixFree units := by
  unfold IsPrefixFree
  decide

theorem cons_mem_rest_name : c :: w ∈ (name seen).rest ↔
    ∃ s, (name seen).step c = some s ∧ w ∈ s.rest := by
  rw [rest, step]
  by_cases hseen : seen ∈ names
  · rw [if_pos (List.contains_iff_mem.mpr hseen), completion_of_mem isPrefixFree_names hseen,
      one_mul, mem_maybe_mul, cons_mem_char_mul, cons_mem_char_mul]
    by_cases hopen : c = '('
    · subst hopen
      have hfold : (Unicode.fold '(' == 'a') = false := by decide
      simp [hfold, rest]
    · by_cases hfold : Unicode.fold c = 'a'
      · simp [hopen, hfold, rest]
      · simp [hopen, hfold]
  · rw [if_neg (mt List.contains_iff_mem.mp hseen), cons_mem_completion_mul hseen, exists_step_iff]
    rfl

theorem mem_rest_begun : w ∈ (begun room).rest ↔
    (∃ k, room = k + 1 ∧ w ∈ componentRest k) ∨ room ≤ 1 ∧ w ∈ lastRest := by
  cases room with
  | zero => simp [begun, rest]
  | succ room => simp [begun, mem_rest_number]

theorem cons_mem_rest_gap : c :: w ∈ (gap room).rest ↔
    ∃ s, (gap room).step c = some s ∧ w ∈ s.rest := by
  rw [rest, cons_mem_run_mul, cons_mem_after, cons_mem_tail, step]
  split_ifs with hsep hdigit hslash hdot
  · obtain ⟨hdigit, hnumeral, -, -⟩ := of_isSeparator hsep
    -- White space before the last number can as well belong to the component.
    have htail : room ≤ 1 ∧ isGap c = true ∧ w ∈ tail → w ∈ run isSeparator * after room := by
      rintro ⟨hroom, -, hw⟩
      exact mem_run_mul_of_mem (mem_after.mpr (.inr ⟨hroom, hw⟩))
    simpa [hsep, hdigit, hnumeral, rest] using htail
  · obtain ⟨-, hgap, hnumeral, -, -⟩ := of_isDigit hdigit
    simp [hsep, hdigit, hgap, hnumeral, mem_rest_begun]
  · obtain ⟨hroom, rfl⟩ := hslash
    have hgap : isGap '/' = true := by decide
    have hnumeral : isNumeral '/' = false := by decide
    simp [hsep, hdigit, hroom, hgap, hnumeral, rest]
  · obtain ⟨hroom, rfl⟩ := hdot
    have hgap : isGap '.' = false := by decide
    have hnumeral : isNumeral '.' = true := by decide
    simp [hsep, hdigit, hroom, hgap, hnumeral, rest]
  · have hblank : ¬ Text.isBlank c = true := by
      intro hblank
      rw [isSeparator, hblank, Bool.or_true] at hsep
      exact hsep rfl
    refine iff_of_false ?_ (by simp)
    simp only [hsep, hdigit, isGap, isNumeral, hblank, Bool.or_eq_true, beq_iff_eq]
    tauto

theorem cons_mem_rest_percent : c :: w ∈ (percent room).rest ↔
    ∃ s, (percent room).step c = some s ∧ w ∈ s.rest := by
  rw [mem_rest_percent, cons_mem_units, cons_mem_char, step]
  split_ifs with hsep hunit hclose
  · obtain ⟨-, -, -, hclose⟩ := of_isSeparator hsep
    have hunit := begins_units_of_isSeparator hsep
    simp [hsep, hclose, hunit]
  · obtain ⟨-, -, -, -, hclose⟩ := of_begins_units hunit
    simp [hsep, hclose, hunit]
  · obtain ⟨rfl, rfl⟩ := hclose
    simp [hsep, hunit, rest]
  · refine iff_of_false ?_ (by simp)
    simp only [hsep, hunit, beq_iff_eq]
    tauto

theorem cons_mem_rest_unit : c :: w ∈ (unit room seen).rest ↔
    ∃ s, (unit room seen).step c = some s ∧ w ∈ s.rest := by
  rw [rest, step]
  by_cases hseen : seen ∈ units
  · rw [if_pos (List.contains_iff_mem.mpr hseen), completion_of_mem isPrefixFree_units hseen,
      one_mul, cons_mem_separated, exists_step_iff]
  · rw [if_neg (mt List.contains_iff_mem.mp hseen), cons_mem_completion_mul hseen, exists_step_iff]
    rfl

theorem cons_mem_rest_slash : c :: w ∈ slash.rest ↔ ∃ s, slash.step c = some s ∧ w ∈ s.rest := by
  rw [rest, step, cons_mem_tail]
  by_cases hgap : isGap c = true
  · have hnumeral : isNumeral c = false := by
      rw [isNumeral, Bool.or_eq_false_iff, beq_eq_false_iff_ne, Bool.eq_false_iff]
      constructor
      · rintro rfl
        exact absurd hgap (by decide)
      · intro hdigit
        rw [(of_isDigit hdigit).2.1] at hgap
        cases hgap
    simp [hgap, hnumeral, rest]
  · by_cases hnumeral : isNumeral c = true
    · simp [hgap, hnumeral, rest]
    · simp [hgap, hnumeral]

theorem cons_mem_rest_last : c :: w ∈ last.rest ↔ ∃ s, last.step c = some s ∧ w ∈ s.rest := by
  rw [rest, step, cons_mem_lastRest]
  split_ifs with hnumeral hpercent hclose
  · have hpercent : c ≠ '%' := by
      rintro rfl
      exact absurd hnumeral (by decide)
    have hclose : c ≠ ')' := by
      rintro rfl
      exact absurd hnumeral (by decide)
    simp [hnumeral, hpercent, hclose, rest]
  · obtain rfl := eq_of_beq hpercent
    simp [hnumeral, rest]
  · obtain rfl := eq_of_beq hclose
    simp [hnumeral, rest]
  · rw [beq_iff_eq] at hpercent hclose
    simp [hnumeral, hpercent, hclose]

theorem cons_mem_rest_number : c :: w ∈ (number room).rest ↔
    ∃ s, (number room).step c = some s ∧ w ∈ s.rest := by
  rw [mem_rest_number, cons_mem_componentRest, cons_mem_units, cons_mem_lastRest, step]
  split_ifs with hdigit hpercent hsep hunit hdot hparen
  · obtain ⟨hsep, -, hnumeral, hpercent, hclose⟩ := of_isDigit hdigit
    have hunit := begins_units_of_isDigit hdigit
    simp [hdigit, hsep, hnumeral, hpercent, hclose, hunit, mem_rest_number]
  · obtain rfl := eq_of_beq hpercent
    have hsep : isSeparator '%' = false := by decide
    have hunit : begins units [Unicode.fold '%'] = false := by decide
    have hnumeral : isNumeral '%' = false := by decide
    simp [hdigit, hsep, hnumeral, hunit, mem_rest_percent]
  · obtain ⟨-, hnumeral, hpercent, hclose⟩ := of_isSeparator hsep
    have hunit := begins_units_of_isSeparator hsep
    simp [hdigit, hsep, hnumeral, hpercent, hclose, hunit]
  · obtain ⟨-, -, hnumeral, hpercent, hclose⟩ := of_begins_units hunit
    simp [hdigit, hsep, hnumeral, hpercent, hclose, hunit]
  · obtain ⟨rfl, rfl⟩ := hdot
    have hnumeral : isNumeral '.' = true := by decide
    simp [hdigit, hsep, hnumeral, hunit, rest]
  · obtain ⟨rfl, rfl⟩ := hparen
    have hnumeral : isNumeral ')' = false := by decide
    simp [hdigit, hsep, hnumeral, hunit, rest]
  · rw [beq_iff_eq] at hpercent
    refine iff_of_false ?_ (by simp)
    simp only [hdigit, hsep, hunit, hpercent, isNumeral, Bool.or_eq_true, beq_iff_eq]
    tauto

theorem cons_mem_rest (s : State) : c :: w ∈ s.rest ↔ ∃ s', s.step c = some s' ∧ w ∈ s'.rest := by
  cases s with
  | name seen => exact cons_mem_rest_name
  | alpha =>
    rw [rest, step, cons_mem_char_mul, exists_step_iff]
    rfl
  | opened =>
    rw [rest, step, cons_mem_after, exists_step_iff, mem_rest_begun]
    simp
  | gap room => exact cons_mem_rest_gap
  | number room => exact cons_mem_rest_number
  | percent room => exact cons_mem_rest_percent
  | unit room seen => exact cons_mem_rest_unit
  | slash => exact cons_mem_rest_slash
  | last => exact cons_mem_rest_last
  | lastPercent =>
    rw [rest, step, cons_mem_char, exists_step_iff]
    rfl
  | closed => simp [rest, step]

theorem nil_mem_rest (s : State) : [] ∈ s.rest ↔ s = closed := by
  by_cases hs : s = closed
  · subst hs
    simp [rest]
  refine iff_of_false ?_ hs
  cases s with
  | name => exact nil_not_mem_mul (nil_not_mem_mul (nil_not_mem_mul nil_not_mem_after))
  | alpha => exact nil_not_mem_mul nil_not_mem_after
  | opened => exact nil_not_mem_after
  | gap => exact nil_not_mem_mul nil_not_mem_after
  | number room =>
    rw [mem_rest_number]
    rintro (h | ⟨-, h⟩)
    · exact nil_not_mem_mul (nil_not_mem_mul (nil_not_mem_mul nil_not_mem_separated)) h
    · exact nil_not_mem_lastRest h
  | percent room =>
    rw [mem_rest_percent]
    rintro (h | ⟨-, h⟩)
    · exact nil_not_mem_mul nil_not_mem_separated h
    · exact nil_not_mem_char h
  | unit => exact nil_not_mem_mul nil_not_mem_separated
  | slash => exact nil_not_mem_tail
  | last => exact nil_not_mem_lastRest
  | lastPercent => exact nil_not_mem_char
  | closed => exact absurd rfl hs

end State

theorem foldlM_step_iff {s : State} : w.foldlM State.step s = some .closed ↔ w ∈ s.rest := by
  induction w generalizing s with
  | nil =>
    rw [State.nil_mem_rest]
    exact Option.some_inj
  | cons c w ih =>
    rw [List.foldlM_cons, State.cons_mem_rest]
    constructor
    · intro h
      obtain ⟨s', hs', hw⟩ := Option.bind_eq_some_iff.mp h
      exact ⟨s', hs', ih.mp hw⟩
    · rintro ⟨s', hs', hw⟩
      exact Option.bind_eq_some_iff.mpr ⟨s', hs', ih.mpr hw⟩

theorem after_three :
    after 3 = Grammar.component * Grammar.component * maybe Grammar.component * tail := by
  have hone : after 1 = maybe Grammar.component * tail := by
    rw [maybe, add_mul, one_mul, add_comm]
    rfl
  have htwo : after 2 = Grammar.component * after 1 := add_zero _
  have hthree : after 3 = Grammar.component * after 2 := add_zero _
  rw [hthree, htwo, hone, mul_assoc, mul_assoc]

theorem rest_start : (State.name []).rest = Grammar.functional := by
  rw [State.rest, completion_nil, after_three, tail, lastRest, Grammar.functional]
  simp only [mul_assoc]

/-- The recognizer accepts the texts of the grammar. -/
theorem accepts_iff : accepts w = true ↔ w ∈ Grammar.functional := by
  rw [accepts, beq_iff_eq, foldlM_step_iff, rest_start]

example : accepts "hsla(120deg 50%, 50% / .3)".toList = true := by decide

example : accepts "rgb(0, 0 / 0, 1)".toList = false := by decide

end Rest

/-! ### Color values -/

theorem isHex_iff {digits : Text} : isHex digits = true ↔
    digits.length ∈ [3, 4, 6, 8] ∧ ∀ d ∈ digits, isHexDigit d = true := by
  rw [isHex, Bool.and_eq_true, List.contains_iff_mem, List.all_eq_true]

/-- What the recognizer accepts is a color, unless it could mention a length unit. -/
theorem isColor_of_accepts {extra : List (Text → Bool)} {value : Text} (h : accepts value = true)
    (hunit : 'p' ∉ value) : isColor extra value = true := by
  have hin : Text.contains lengthUnit value = false := by
    rw [Bool.eq_false_iff, Ne, Text.contains_iff]
    exact fun hm => hunit (hm.subset (by decide))
  cases value with
  | nil => exact absurd h (by decide)
  | cons c rest =>
    unfold isColor
    split_ifs with hrefused
    · simp [hin] at hrefused
    · rfl
    · split
      next heq =>
        obtain ⟨rfl, -⟩ := List.cons.inj heq
        have hnone : State.step (.name []) '#' = none := by decide
        simp [accepts, hnone] at h
      next => rw [isFound_functional_iff.mpr (accepts_iff.mp h), Bool.true_or]

/-- Which values are colors, by their spelling. What begins with `#` has to be hexadecimal, unless
it holds a call. -/
theorem isColor_exact (extra : List (Text → Bool)) (value : Text) :
    (isColor extra value = true ↔
      value ≠ [] ∧ ¬ "px".toList <:+: value ∧
        ("colorPalette".toList <:+: value ∨ "fade".toList <:+: value ∨
          (∃ digits, value = '#' :: digits ∧ digits.length ∈ [3, 4, 6, 8] ∧
            ∀ d ∈ digits, isHexDigit d = true) ∨
          (value.head? ≠ some '#' ∧ accepts value = true) ∨
          (value.head? ≠ some '#' ∧ ∃ test ∈ extra, test value = true))) ∧
    (accepts value = true ↔ value ∈ Grammar.functional) := by
  refine ⟨?_, accepts_iff⟩
  have hcalls : colorCalls.any (Text.contains · value) = true ↔
      "colorPalette".toList <:+: value ∨ "fade".toList <:+: value := by
    simp [colorCalls, Text.contains_iff]
  unfold isColor
  split_ifs with hrefused hcall
  · have hout : value = [] ∨ "px".toList <:+: value := by
      simpa [lengthUnit, Text.contains_iff] using hrefused
    refine iff_of_false id ?_
    rintro ⟨hne, hunit, -⟩
    exact hout.elim hne hunit
  · have hin : value ≠ [] ∧ ¬ "px".toList <:+: value := by
      simpa [lengthUnit, Text.contains_iff] using hrefused
    refine iff_of_true rfl ⟨hin.1, hin.2, ?_⟩
    rcases hcalls.mp hcall with h | h
    · exact .inl h
    · exact .inr (.inl h)
  · have hin : value ≠ [] ∧ ¬ "px".toList <:+: value := by
      simpa [lengthUnit, Text.contains_iff] using hrefused
    obtain ⟨hpalette, hfade⟩ := not_or.mp (mt hcalls.mpr hcall)
    rw [and_iff_right hin.1, and_iff_right hin.2, or_iff_right hpalette, or_iff_right hfade]
    cases value with
    | nil => exact absurd rfl hin.1
    | cons c rest =>
      by_cases hhex : c = '#'
      · subst hhex
        simp [isHex_iff]
      · split
        next heq => exact absurd (List.cons.inj heq).1 hhex
        next => simp [hhex, accepts_iff, isFound_functional_iff]

end Retint.Color
