import Mathlib.Data.List.Chain
import Retint.Literals
import Retint.Proofs.Dict
import Retint.Proofs.Text.Lines

/-!
# Variables read back as written

A sheet with one variable on each line is read back name by name, the last value of a name
counting. A value is cut at all its colons and put together again, and the white space after a
colon is lost on the way. So a value comes back as it was written exactly if no white space follows
a colon in it.

## Main definitions

* `Literals.sheet` — variables written on lines of their own
* `Literals.tighten` — a value without the white space after its colons
* `Literals.IsTightened` — no white space follows a colon

## Main results

* `Literals.extents_line` — where a variable is found
* `Literals.entry_line` — what is made of it
* `Literals.ofText_sheet_iff` — the headline: what is read back, and when it is what was written
* `Literals.media_query_tightened` — a value that is not
-/

namespace Retint.Literals

open Text

variable {body lead value more name t : Text} {e : Text × Text} {vars : List (Text × Text)}

/-! ### Writing variables -/

/-- A variable with its name as it is looked up. -/
def variableOf (e : Text × Text) : Text × Text := ('@' :: e.1, e.2)

/-- A variable on a line of its own. -/
def line (e : Text × Text) : Text := '@' :: (e.1 ++ ": ".toList ++ e.2) ++ ";\n".toList

/-- A sheet with variables on lines of their own. -/
def sheet (vars : List (Text × Text)) : Text := vars.flatMap line

/-- What can be written on a line: a name without colons, quotes and white space, and a value that
has no semicolon and no white space at its ends. -/
structure IsWritten (e : Text × Text) : Prop where
  name : ∀ c ∈ e.1, isBlank c = false ∧ c ∉ ":'\"".toList
  value : trim e.2 = e.2
  not_mem : ∀ c ∈ ";\n".toList, c ∉ e.2

/-! ### Values without white space after colons -/

/-- The text without the white space after its colons. The first argument tells whether a colon
has just been passed, with nothing but white space after it. -/
def tightenFrom : Bool → Text → Text
  | _, [] => []
  | passed, c :: rest =>
    if passed && isBlank c then tightenFrom true rest else c :: tightenFrom (c == ':') rest

/-- The text without the white space after its colons. -/
def tighten (t : Text) : Text := tightenFrom false t

/-- No white space follows a colon. -/
def IsTightened (t : Text) : Prop := t.IsChain fun c d => c = ':' → isBlank d = false

theorem length_tightenFrom_le (passed : Bool) (t : Text) :
    (tightenFrom passed t).length ≤ t.length := by
  induction t generalizing passed with
  | nil => exact Nat.le_refl _
  | cons c t ih =>
    rw [tightenFrom]
    split
    · exact Nat.le_succ_of_le (ih true)
    · exact Nat.succ_le_succ (ih _)

theorem tightenFrom_eq_iff (passed : Bool) (t : Text) : tightenFrom passed t = t ↔
    (passed = true → ∀ c ∈ t.head?, isBlank c = false) ∧ IsTightened t := by
  induction t generalizing passed with
  | nil => simp [tightenFrom, IsTightened]
  | cons c t ih =>
    by_cases hskip : (passed && isBlank c) = true
    · -- What has lost a character is not the whole text.
      have hlost : tightenFrom passed (c :: t) ≠ c :: t := by
        intro heq
        have hle := length_tightenFrom_le true t
        rw [tightenFrom, if_pos hskip] at heq
        rw [heq, List.length_cons] at hle
        omega
      obtain ⟨rfl, hc⟩ : passed = true ∧ isBlank c = true := by simpa using hskip
      simp [hlost, hc]
    · have hhead : passed = true → isBlank c = false := by simpa using hskip
      rw [tightenFrom, if_neg hskip, List.cons.injEq, ih, IsTightened, IsTightened,
        List.isChain_cons]
      simp only [beq_iff_eq, Option.mem_def, List.head?_cons, Option.some.injEq, true_and,
        forall_eq']
      constructor
      · rintro ⟨hnext, hrest⟩
        exact ⟨hhead, fun d hd hc => hnext hc d hd, hrest⟩
      · rintro ⟨-, hnext, hrest⟩
        exact ⟨fun hc d hd => hnext d hd hc, hrest⟩

theorem tighten_eq_iff : tighten t = t ↔ IsTightened t := by
  rw [tighten, tightenFrom_eq_iff]
  simp

/-- Cut at its colons, trimmed and put together again, a text has lost the white space after
them, and what it starts with. -/
theorem joinWith_map_trimStart (t : Text) :
    joinWith [':'] ((splitOn ':' t).map trimStart) = tightenFrom true t := by
  -- The part before the first colon is trimmed like the others only where a colon came before it.
  have hparts : ∀ t first rest, splitOn ':' t = first :: rest →
      joinWith [':'] (first :: rest.map trimStart) = tightenFrom false t ∧
        joinWith [':'] (trimStart first :: rest.map trimStart) = tightenFrom true t := by
    intro t
    induction t with
    | nil =>
      intro first rest h
      obtain ⟨rfl, rfl⟩ := List.cons.inj h
      exact ⟨rfl, rfl⟩
    | cons d t ih =>
      intro first rest h
      cases hs : splitOn ':' t with
      | nil => exact absurd hs (splitOn_ne_nil ':' t)
      | cons p ps =>
        obtain ⟨hplain, htrimmed⟩ := ih p ps hs
        rw [splitOn, hs] at h
        by_cases hd : d = ':'
        · obtain ⟨rfl, rfl⟩ : [] = first ∧ p :: ps = rest := by simpa [hd] using h
          subst hd
          have hcolon : joinWith [':'] ([] :: (p :: ps).map trimStart) =
              ':' :: tightenFrom true t := by
            rw [List.map_cons, joinWith, htrimmed]
            rfl
          exact ⟨hcolon, hcolon⟩
        · obtain ⟨rfl, rfl⟩ : d :: p = first ∧ ps = rest := by simpa [hd] using h
          have hd' : (d == ':') = false := beq_eq_false_iff_ne.mpr hd
          have hcons : joinWith [':'] ((d :: p) :: ps.map trimStart) =
              d :: tightenFrom false t := by
            rw [joinWith_cons_cons, hplain]
          refine ⟨?_, ?_⟩
          · rw [hcons, tightenFrom, hd']
            rfl
          · by_cases hblank : isBlank d = true
            · rw [tightenFrom, hblank, ← htrimmed]
              simp [trimStart, hblank]
            · have hblank' : isBlank d = false := by simpa using hblank
              rw [trimStart_cons hblank', hcons, tightenFrom, hblank', hd']
              rfl
  cases hs : splitOn ':' t with
  | nil => exact absurd hs (splitOn_ne_nil ':' t)
  | cons p ps => exact (hparts t p ps hs).2

/-! ### Finding variables -/

theorem extents_eq_drop (skip : Nat) (t : Text) : extents skip t = extents 0 (t.drop skip) := by
  induction t generalizing skip with
  | nil => cases skip <;> rfl
  | cons c t ih =>
    cases skip with
    | zero => rfl
    | succ skip => rw [extents, ih, List.drop_succ_cons]

theorem extents_cons_of_ne {c : Char} (hc : c ≠ '@') (t : Text) :
    extents 0 (c :: t) = extents 0 t := by
  rw [extents, if_neg hc]

/-- What has a colon has a last one. -/
theorem exists_last_colon (h : ':' ∈ t) : ∃ lead value, t = lead ++ ':' :: value ∧ ':' ∉ value := by
  cases hcut : cutLast? ':' t with
  | none => exact absurd h (cutLast?_eq_none_iff.mp hcut)
  | some parts => exact ⟨parts.1, parts.2, eq_of_cutLast? hcut⟩

/-- A text with a colon is found up to the semicolon that ends its line. -/
theorem extent?_line (hcolon : ':' ∈ body) (hbody : '\n' ∉ body) (hvalue : ∀ lead value,
    body = lead ++ ':' :: value → ':' ∉ value → ';' ∉ value) (more : Text) :
    extent? (body ++ ";\n".toList ++ more) = some body := by
  obtain ⟨lead, value, hsplit, hlast⟩ := exists_last_colon hcolon
  have hfeed : ∀ c ∈ body ++ [';'], (c != '\n') = true := by
    intro c hc
    rcases List.mem_append.mp hc with hc | hc
    · exact bne_iff_ne.mpr (ne_of_mem_of_not_mem hc hbody)
    · rw [List.mem_singleton.mp hc]
      rfl
  have hsemicolon : ∀ c ∈ value, (c != ';') = true := fun c hc =>
    bne_iff_ne.mpr (ne_of_mem_of_not_mem hc (hvalue lead value hsplit hlast))
  have hwhole : body ++ ";\n".toList ++ more = (body ++ [';']) ++ '\n' :: more := by simp
  have hline : (body ++ ";\n".toList ++ more).takeWhile (· != '\n') =
      lead ++ ':' :: (value ++ [';']) := by
    rw [hwhole, takeWhile_append_cons hfeed (by decide), hsplit]
    simp
  have hcut : cutLast? ':' (lead ++ ':' :: (value ++ [';'])) = some (lead, value ++ [';']) :=
    cutLast?_append_cons lead (by simp [hlast])
  have hrest : (body ++ ";\n".toList ++ more).drop (lead.length + 1) =
      value ++ ';' :: '\n' :: more := by
    rw [hsplit]
    simp [List.drop_append]
  have hstop : (value ++ ';' :: '\n' :: more).takeWhile (· != ';') = value :=
    takeWhile_append_cons hsemicolon (by decide) _
  simp only [extent?, hline, hcut, Option.map_some, hrest, hstop]
  rw [hsplit]

theorem IsWritten.not_mem_name (h : IsWritten e) : ':' ∉ e.1 ∧ '\n' ∉ e.1 :=
  ⟨fun hm => (h.name _ hm).2 (by decide), fun hm => absurd (h.name _ hm).1 (by decide)⟩

/-- A variable on a line is found there, and the search goes on after it. -/
theorem extents_line (h : IsWritten e) (more : Text) :
    extents 0 (line e ++ more) = (e.1 ++ ": ".toList ++ e.2) :: extents 0 more := by
  obtain ⟨hcolon, hfeed⟩ := h.not_mem_name
  have hvalue : ';' ∉ e.2 ∧ '\n' ∉ e.2 := by simpa using h.not_mem
  have hsemicolon : ∀ lead value, e.1 ++ ": ".toList ++ e.2 = lead ++ ':' :: value →
      ':' ∉ value → ';' ∉ value := by
    intro lead value hsplit _ hm
    have hsplit' : e.1 ++ ':' :: (' ' :: e.2) = lead ++ ':' :: value := by simpa using hsplit
    -- The name has no colon, so what comes after the last one is part of the value.
    have hsuffix : value <:+ ' ' :: e.2 := by
      rcases List.append_eq_append_iff.mp hsplit' with ⟨u, rfl, hu⟩ | ⟨u, hu, hv⟩
      · cases u with
        | nil => exact (List.cons.inj hu).2 ▸ List.suffix_refl _
        | cons c u => exact ⟨u ++ [':'], by simpa using (List.cons.inj hu).2.symm⟩
      · cases u with
        | nil => exact (List.cons.inj hv).2 ▸ List.suffix_refl _
        | cons c u =>
          obtain ⟨rfl, -⟩ := List.cons.inj hv
          exact absurd (by simp [hu]) hcolon
    simpa [hvalue.1] using hsuffix.subset hm
  have hextent := extent?_line (by simp) (by simp [hfeed, hvalue.2]) hsemicolon more
  have hline : line e ++ more =
      '@' :: (e.1 ++ ": ".toList ++ e.2 ++ ";\n".toList ++ more) := by simp [line]
  rw [hline, extents, if_pos rfl, hextent]
  dsimp only
  rw [extents_eq_drop, List.append_assoc (e.1 ++ ": ".toList ++ e.2), List.drop_left]
  exact congrArg _ ((extents_cons_of_ne (by decide) _).trans (extents_cons_of_ne (by decide) _))

/-- The name and the value that are made of what is found. -/
theorem entry_line (h : IsWritten e) :
    entry (e.1 ++ ": ".toList ++ e.2) = ('@' :: e.1, tighten e.2) := by
  have hcolon : ':' ∉ '@' :: e.1 := by simpa using h.not_mem_name.1
  have hsplit : splitOn ':' ('@' :: (e.1 ++ ": ".toList ++ e.2)) =
      ('@' :: e.1) :: splitOn ':' (' ' :: e.2) := by
    rw [← splitOn_append_cons hcolon]
    simp
  have hquotes : ('@' :: e.1).filter (fun c => c != '\'' && c != '"') = '@' :: e.1 := by
    refine List.filter_eq_self.mpr fun c hc => ?_
    rcases List.mem_cons.mp hc with rfl | hc
    · rfl
    · have hne := (h.name c hc).2
      simp only [String.reduceToList, List.mem_cons, List.not_mem_nil, or_false, not_or] at hne
      simp [hne.2.1, hne.2.2]
  have hname : IsTight ('@' :: e.1) := by
    have hblank : ∀ c ∈ '@' :: e.1, isBlank c = false :=
      List.forall_mem_cons.mpr ⟨by decide, fun c hc => (h.name c hc).1⟩
    exact ⟨fun c hc => hblank c (List.mem_of_head? hc), fun c hc =>
      hblank c (List.mem_of_getLast? hc)⟩
  have hvalue : joinWith [':'] ((splitOn ':' (' ' :: e.2)).map trimStart) = tighten e.2 := by
    have hstart := (isTight_of_trim h.value).1
    rw [joinWith_map_trimStart, tightenFrom, if_pos (by decide), tighten]
    cases htext : e.2 with
    | nil => rfl
    | cons c rest =>
      have hc : isBlank c = false := hstart c (by rw [htext]; rfl)
      simp [tightenFrom, hc]
  simp only [entry, parts, hsplit, hquotes, hname.trim_eq, hvalue]

theorem map_entry_extents (h : ∀ e ∈ vars, IsWritten e) :
    (extents 0 (sheet vars)).map entry = vars.map fun e => ('@' :: e.1, tighten e.2) := by
  induction vars with
  | nil => rfl
  | cons e vars ih =>
    obtain ⟨he, hvars⟩ := List.forall_mem_cons.mp h
    rw [sheet, List.flatMap_cons, extents_line he, List.map_cons, List.map_cons, entry_line he]
    exact congrArg _ (ih hvars)

/-! ### Reading variables back -/

theorem lookup_map_tighten (l : List (Text × Text)) (key : Text) :
    (l.map fun e => (e.1, tighten e.2)).lookup key = (l.lookup key).map tighten := by
  induction l with
  | nil => rfl
  | cons e l ih =>
    rw [List.map_cons, List.lookup_cons, List.lookup_cons, ih]
    cases key == e.1 <;> rfl

theorem get?_ofText_sheet (h : ∀ e ∈ vars, IsWritten e) (key : Text) :
    (ofText (sheet vars)).get? key =
      ((vars.map variableOf).reverse.lookup key).map tighten := by
  rw [ofText, map_entry_extents h, Dict.get?_ofList, ← lookup_map_tighten, ← List.map_reverse,
    ← List.map_reverse, List.map_map]
  rfl

/-- **What is read back of variables written on lines of their own:** under each name the last
value, without the white space after its colons. These are the values as they were written exactly
if in none of them white space follows a colon. -/
theorem ofText_sheet_iff (h : ∀ e ∈ vars, IsWritten e) :
    ofText (sheet vars) = Dict.ofList (vars.map fun e => ('@' :: e.1, tighten e.2)) ∧
      (∀ key, (ofText (sheet vars)).get? key =
        ((vars.map variableOf).reverse.lookup key).map tighten) ∧
      ((∀ key, (ofText (sheet vars)).get? key = (vars.map variableOf).reverse.lookup key) ↔
        ∀ key value, (vars.map variableOf).reverse.lookup key = some value →
          IsTightened value) := by
  refine ⟨by rw [ofText, map_entry_extents h], get?_ofText_sheet h, ?_⟩
  constructor
  · intro hread key value hlast
    have hkey := hread key
    rw [get?_ofText_sheet h, hlast, Option.map_some] at hkey
    exact tighten_eq_iff.mp (Option.some.inj hkey)
  · intro htight key
    rw [get?_ofText_sheet h]
    cases hlast : (vars.map variableOf).reverse.lookup key with
    | none => rfl
    | some value => rw [Option.map_some, tighten_eq_iff.mpr (htight key value hlast)]

/-- Variables with colons in their values. -/
def queries : List (Text × Text) :=
  [("base".toList, "a:b".toList), ("phone".toList, "(max-width: 480)".toList),
    ("base".toList, "a::hover".toList), ("phone".toList, "(max-width: 767)".toList)]

theorem isWritten_of_mem_queries : ∀ e ∈ queries, IsWritten e := by
  have hall : ∀ e ∈ queries, (∀ c ∈ e.1, isBlank c = false ∧ c ∉ ":'\"".toList) ∧ trim e.2 = e.2 ∧
      ∀ c ∈ ";\n".toList, c ∉ e.2 := by decide
  exact fun e he => ⟨(hall e he).1, (hall e he).2.1, (hall e he).2.2⟩

/-- One of the two names has the value that was written last. -/
theorem ofText_sheet_iff_queries :
    (∀ e ∈ queries, IsWritten e) ∧
      (ofText (sheet queries)).get? "@base".toList = some "a::hover".toList ∧
      (ofText (sheet queries)).get? "@phone".toList = some "(max-width:767)".toList ∧
      ¬ ∀ key, (ofText (sheet queries)).get? key =
        (queries.map variableOf).reverse.lookup key := by
  obtain ⟨-, hget, hiff⟩ := ofText_sheet_iff isWritten_of_mem_queries
  refine ⟨isWritten_of_mem_queries, (hget _).trans (by decide), (hget _).trans (by decide), ?_⟩
  intro hread
  have htight := hiff.mp hread "@phone".toList "(max-width: 767)".toList (by decide)
  exact absurd (tighten_eq_iff.mpr htight) (by decide)

/-- The last value of the name is written with a space that is not read back. -/
theorem media_query_tightened :
    (∀ e ∈ queries, IsWritten e) ∧
      (queries.map variableOf).reverse.lookup "@phone".toList = some "(max-width: 767)".toList ∧
      (ofText (sheet queries)).get? "@phone".toList = some "(max-width:767)".toList :=
  ⟨isWritten_of_mem_queries, by decide, by decide⟩

end Retint.Literals
