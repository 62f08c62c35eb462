import Retint.Declaration
import Retint.Proofs.Pattern.Rows
import Retint.Proofs.Text.Lines

/-!
# Lines that are read as declarations

A declaration is read by looking for the first character that is not of the name, then for the
first colon, and at last for the last semicolon. The pattern behind this is one of rows of
characters: the at sign, the name, something without a colon, the colon, white space, the value, and
a semicolon. These rows overlap: what follows the name may begin with more characters of names, what
follows white space with more of it, and a value may have colons and semicolons in it. Taken
greedily they still come to the same, since no row has to give back anything but the value, and that
only what follows the last semicolon.

## Main definitions

* `Declaration.Spelled` — how a line that is read as a declaration is made up
* `Declaration.rows` — the rows of the pattern
* `Declaration.ofRows?` — the declaration in what has been taken for them

## Main results

* `Declaration.ofLine?_eq_some_iff` — what a line is read as
* `Declaration.Spelled.take?_rows` — what is taken for the rows
* `Declaration.ofLine?_eq_greedy` — the headline
-/

namespace Retint.Declaration

open Text

/-! ### How a declaration is spelled -/

variable {l line : Text} {d : Declaration}

/-- The line is made up of a name, something up to a colon, white space, and a value up to the last
semicolon. -/
inductive Spelled : Text → Declaration → Prop
  | mk {n gap : Text} (value : Text) {tail : Text} {blank : Char}
      (name : ∀ c ∈ n, isNameChar c = true) (mark : '-' ∈ n ∨ '\'' ∈ n)
      (stop : ∀ c ∈ gap.head?, isNameChar c = false)
      (colon : ':' ∉ gap) (white : isBlank blank = true) (last : ';' ∉ tail) :
      Spelled ('@' :: (n ++ (gap ++ ':' :: blank :: (value ++ ';' :: tail)))) ⟨'@' :: n, trim value⟩

theorem Spelled.ofLine?_eq (h : Spelled l d) : ofLine? l = some d := by
  obtain @⟨n, gap, value, tail, blank, name, mark, stop, colon, white, last⟩ := h
  have hrest : ∃ c t, gap ++ ':' :: blank :: (value ++ ';' :: tail) = c :: t ∧
      isNameChar c = false := by
    cases gap with
    | nil => exact ⟨':', _, rfl, by decide⟩
    | cons c gap => exact ⟨c, _, rfl, stop c rfl⟩
  obtain ⟨c, t, hct, hc⟩ := hrest
  have hmark : (List.contains n '-' || List.contains n '\'') = true := by simpa using mark
  have hcut : cut? ':' (c :: t) = some (gap, blank :: (value ++ ';' :: tail)) := by
    rw [← hct]
    exact cut?_append_cons colon _
  rw [hct]
  simp only [ofLine?, takeWhile_append_cons name hc, dropWhile_append_cons name hc, hmark, if_true,
    hcut, white, cutLast?_append_cons value last, Option.map_some]

/-- **What a line is read as,** by how it is made up. -/
theorem ofLine?_eq_some_iff : ofLine? l = some d ↔ Spelled l d := by
  refine ⟨fun h => ?_, Spelled.ofLine?_eq⟩
  unfold ofLine? at h
  split at h
  · rename_i rest
    simp only at h
    split at h
    · rename_i hmark
      split at h
      · rename_i gap blank after hcut
        split at h
        · rename_i white
          obtain ⟨⟨value, tail⟩, hlast, rfl⟩ := Option.map_eq_some_iff.mp h
          obtain ⟨rfl, last⟩ := eq_of_cutLast? hlast
          obtain ⟨hdrop, colon⟩ := eq_of_cut? hcut
          have hrest : rest = rest.takeWhile isNameChar ++
              (gap ++ ':' :: blank :: (value ++ ';' :: tail)) := by
            rw [← hdrop, List.takeWhile_append_dropWhile]
          have hstop : ∀ c ∈ gap.head?, isNameChar c = false := by
            intro c hc
            have hhead : (rest.dropWhile isNameChar).head? = some c := by
              rw [hdrop, List.head?_append, Option.mem_def.mp hc]
              rfl
            have hnot := List.head?_dropWhile_not isNameChar rest
            rw [hhead] at hnot
            simpa using hnot
          have hspelled := Spelled.mk value
            (fun c hc => List.all_eq_true.mp (List.all_takeWhile (l := rest)) c hc)
            (by simpa using hmark) hstop colon white last
          rwa [← hrest] at hspelled
        · cases h
      · cases h
    · cases h
  · cases h

/-! ### Rows -/

/-- The pattern of a line with a declaration. -/
def rows : List Pattern.Row :=
  [.one (· == '@'), .some₁ isNameChar, .many (· != ':'), .one (· == ':'), .some₁ isBlank,
    .many (· != '\n'), .one (· == ';')]

/-- The declaration in the rows, if its name has a hyphen or a quote. -/
def ofRows? : List Text → Option Declaration
  | [sign, name, _, _, _, value, _] =>
    if List.contains name '-' || List.contains name '\'' then some ⟨sign ++ name, trim value⟩
    else none
  | _ => none

/-- A character and the text after it are taken for the last row. -/
theorem take?_last {test : Char → Bool} {t : Text} {parts : List Text} :
    Pattern.take? [.one test] t = some parts ↔
      ∃ c rest, t = c :: rest ∧ test c = true ∧ parts = [[c]] := by
  rw [Pattern.take?_one_iff]
  constructor
  · rintro ⟨c, rest, more, rfl, rfl, hc, hmore⟩
    exact ⟨c, rest, rfl, hc, by rw [Pattern.take?_nil.mp hmore]⟩
  · rintro ⟨c, rest, rfl, hc, rfl⟩
    exact ⟨c, rest, [], rfl, rfl, hc, rfl⟩

/-- The value gives back what follows the last semicolon. -/
theorem take?_value {value tail : Text} (hvalue : '\n' ∉ value) (last : ';' ∉ tail) :
    Pattern.take? [.many (· != '\n'), .one (· == ';')] (value ++ ';' :: tail) =
      some [value, [';']] := by
  refine Pattern.take?_cons_iff.mpr ⟨value, ';' :: tail, [[';']], rfl, rfl,
    Pattern.Row.fits_many_ne hvalue, take?_last.mpr ⟨';', tail, rfl, rfl, rfl⟩, ?_⟩
  intro a b heq _ hlt
  rw [Option.eq_none_iff_forall_ne_some]
  intro parts hparts
  obtain ⟨c, rest, rfl, hc, -⟩ := take?_last.mp hparts
  have hc : c = ';' := by simpa using hc
  obtain ⟨u, rfl, hu⟩ | ⟨u, rfl, -⟩ := List.append_eq_append_iff.mp heq
  · cases u with
    | nil => simp at hlt
    | cons d u =>
      rw [List.cons_append, List.cons.injEq] at hu
      rw [hu.2, hc] at last
      simp at last
  · rw [List.length_append] at hlt
    omega

/-- **What is taken for the rows** of a line that is made up like a declaration. -/
theorem Spelled.take?_rows (h : Spelled line d) (hline : '\n' ∉ line) :
    ∃ n gap blanks value,
      Pattern.take? rows line = some [['@'], n, gap, [':'], blanks, value, [';']] ∧
        ('-' ∈ n ∨ '\'' ∈ n) ∧ d = ⟨'@' :: n, trim value⟩ := by
  obtain @⟨n, gap, value, tail, blank, name, mark, stop, colon, white, last⟩ := h
  have hvalue : '\n' ∉ value.dropWhile isBlank := fun hmem => hline (by
    have hmem := (List.dropWhile_sublist isBlank).subset hmem
    simp [hmem])
  have hblanks : IsBlank (value.takeWhile isBlank) := List.all_eq_true.mp List.all_takeWhile
  refine ⟨n, gap, blank :: value.takeWhile isBlank, value.dropWhile isBlank, ?_, mark, ?_⟩
  · refine Pattern.take?_one_iff.mpr ⟨'@', _, _, rfl, rfl, rfl, ?_⟩
    have hn : n ≠ [] := by
      rintro rfl
      simp at mark
    refine Pattern.take?_cons_of_longest (Pattern.Row.fits_some₁ name hn) (.inl ?_) ?_
    · cases gap with
      | nil => simp +decide
      | cons c gap => simpa using stop
    refine Pattern.take?_cons_of_longest (Pattern.Row.fits_many_ne colon) (.inl (by simp)) ?_
    refine Pattern.take?_one_iff.mpr ⟨':', _, _, rfl, rfl, rfl, ?_⟩
    have hsplit : blank :: (value ++ ';' :: tail) =
        (blank :: value.takeWhile isBlank) ++ (value.dropWhile isBlank ++ ';' :: tail) := by
      rw [List.cons_append, ← List.append_assoc, List.takeWhile_append_dropWhile]
    rw [hsplit]
    refine Pattern.take?_cons_of_longest (Pattern.Row.fits_some₁ ?_ (List.cons_ne_nil _ _))
      (.inl ?_) (take?_value hvalue last)
    · exact List.forall_mem_cons.mpr ⟨white, hblanks⟩
    · have hhead := List.head?_dropWhile_not isBlank value
      cases hdrop : value.dropWhile isBlank with
      | nil => simp +decide
      | cons c rest => simpa [hdrop] using hhead
  · have htrim : trimStart value = trimStart (value.dropWhile isBlank) := by
      rw [← trimStart_append hblanks (value.dropWhile isBlank), List.takeWhile_append_dropWhile]
    rw [trim, trim, htrim]

/-- A name that is followed by more characters of names, and a value by more semicolons, are still
those of a declaration. -/
theorem exists_spelled {n gap : Text} {blank : Char} (value tail : Text)
    (name : ∀ c ∈ n, isNameChar c = true) (mark : '-' ∈ n ∨ '\'' ∈ n) (colon : ':' ∉ gap)
    (white : isBlank blank = true) :
    ∃ d, Spelled ('@' :: (n ++ (gap ++ ':' :: blank :: (value ++ ';' :: tail)))) d := by
  obtain ⟨value', tail', hlast, last⟩ :
      ∃ value' tail', value ++ ';' :: tail = value' ++ ';' :: tail' ∧ ';' ∉ tail' := by
    cases hcut : cutLast? ';' (value ++ ';' :: tail) with
    | none => simp [cutLast?_eq_none_iff] at hcut
    | some cut => exact ⟨cut.1, cut.2, eq_of_cutLast? hcut⟩
  have hline : n ++ (gap ++ ':' :: blank :: (value ++ ';' :: tail)) =
      (n ++ gap.takeWhile isNameChar) ++
        (gap.dropWhile isNameChar ++ ':' :: blank :: (value' ++ ';' :: tail')) := by
    rw [hlast, List.append_assoc, ← List.append_assoc (gap.takeWhile isNameChar),
      List.takeWhile_append_dropWhile]
  rw [hline]
  refine ⟨_, .mk value' (fun c hc => ?_) (mark.imp (List.mem_append_left _)
    (List.mem_append_left _)) (fun c hc => ?_) (fun hmem => ?_) white last⟩
  · rcases List.mem_append.mp hc with hc | hc
    · exact name c hc
    · exact List.all_eq_true.mp List.all_takeWhile c hc
  · have hhead := List.head?_dropWhile_not isNameChar gap
    rw [Option.mem_def.mp hc] at hhead
    simpa using hhead
  · exact colon ((List.dropWhile_sublist isNameChar).subset hmem)

/-- Rows that are a declaration are taken off a line that is made up like one. -/
theorem exists_spelled_of_take? {parts : List Text} (h : Pattern.take? rows line = some parts)
    (hparts : ofRows? parts = some d) : ∃ d, Spelled line d := by
  obtain ⟨sign, rest, more, rfl, rfl, hsign, h⟩ := Pattern.take?_one_iff.mp h
  obtain ⟨n, rest, more, rfl, rfl, hn, h, -⟩ := Pattern.take?_cons_iff.mp h
  obtain ⟨gap, rest, more, rfl, rfl, hgap, h, -⟩ := Pattern.take?_cons_iff.mp h
  obtain ⟨colon, rest, more, rfl, rfl, hcolon, h⟩ := Pattern.take?_one_iff.mp h
  obtain ⟨blanks, rest, more, rfl, rfl, hblanks, h, -⟩ := Pattern.take?_cons_iff.mp h
  obtain ⟨value, rest, more, rfl, rfl, -, h, -⟩ := Pattern.take?_cons_iff.mp h
  obtain ⟨semicolon, tail, rfl, hsemicolon, rfl⟩ := take?_last.mp h
  obtain ⟨blank, blanks, rfl⟩ := List.exists_cons_of_length_pos hblanks.least
  obtain rfl : sign = '@' := by simpa using hsign
  obtain rfl : colon = ':' := by simpa using hcolon
  obtain rfl : semicolon = ';' := by simpa using hsemicolon
  have mark : '-' ∈ n ∨ '\'' ∈ n := by
    rw [ofRows?] at hparts
    split at hparts
    · rename_i hmark
      simpa using hmark
    · cases hparts
  have hgap : ':' ∉ gap := fun hmem => by simpa using hgap.test ':' hmem
  have hspelled := exists_spelled (blanks ++ value) tail hn.test mark hgap
    (hblanks.test blank (List.mem_cons_self ..))
  rwa [List.append_assoc] at hspelled

/-- **Reading a line** is taking the rows of the pattern greedily. It is read as a declaration
exactly if it is made up like one. -/
theorem ofLine?_eq_greedy (hline : '\n' ∉ line) :
    ofLine? line = (Pattern.take? rows line).bind ofRows? ∧
      ∀ d, ofLine? line = some d ↔ Spelled line d := by
  refine ⟨?_, fun d => ofLine?_eq_some_iff⟩
  cases hread : ofLine? line with
  | some d =>
    obtain ⟨n, gap, blanks, value, htaken, mark, rfl⟩ :=
      (ofLine?_eq_some_iff.mp hread).take?_rows hline
    have hmark : (List.contains n '-' || List.contains n '\'') = true := by simpa using mark
    rw [htaken, Option.bind_some, ofRows?, if_pos hmark]
    rfl
  | none =>
    symm
    rw [Option.bind_eq_none_iff]
    intro parts hparts
    rw [Option.eq_none_iff_forall_ne_some]
    intro d hd
    obtain ⟨d, hspelled⟩ := exists_spelled_of_take? hparts hd
    rw [hspelled.ofLine?_eq] at hread
    cases hread

/-- The name is followed by something else, the colon by two kinds of white space, and the value has
a semicolon in it. -/
def remarked : Text := "@link-color (was: \t #fff; // or: #eee; see below".toList

theorem ofLine?_remarked :
    ('\n' ∉ remarked ∧
      ofLine? remarked = some ⟨"@link-color".toList, "#fff; // or: #eee".toList⟩) ∧
      (ofLine? remarked = (Pattern.take? rows remarked).bind ofRows? ∧
        ∀ d, ofLine? remarked = some d ↔ Spelled remarked d) :=
  ⟨by decide +kernel, ofLine?_eq_greedy (by decide +kernel)⟩

end Retint.Declaration
