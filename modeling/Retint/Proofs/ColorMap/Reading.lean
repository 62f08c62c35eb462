import Retint.Proofs.ColorMap.Alias

/-!
# What a color map says

A variable text is scanned line by line, and two dictionaries grow: what has been declared, as it is
written, and the colors that it comes to. Here the color map is read off the list of all
declarations at once. A declaration counts from where it stands: its alias is followed through what
is declared before it. Of the declarations of a name that come to a color the last one gives the
color, so a later declaration that comes to none takes nothing away.

## Main definitions

* `ColorMap.declarations` — the declarations of a text, in order
* `ColorMap.latest` — what is declared for a name where it is declared last
* `ColorMap.ComesTo` — the value that a declaration comes to where it stands
* `ColorMap.Gives` — a declaration gives a name a color
* `ColorMap.IsLastOf`, `ColorMap.IsLastGiven` — what is given last, by declarations or otherwise

## Main results

* `ColorMap.Scan.Reads.line` — one line of the scan
* `ColorMap.reads_scan` — the whole scan
* `ColorMap.get?_ofText_exact` — the headline
-/

namespace Retint.ColorMap

open Alias

variable {isColor : Text → Bool} {ds : List Declaration} {d : Declaration} {s : Scan}
  {name color other : Text} {i : Nat}

/-! ### The declarations of a text -/

/-- The declaration on a line, if the line could hold one and is read as one. -/
def declarationOn? (line : Text) : Option Declaration :=
  if isCandidate line then Declaration.ofLine? line else none

/-- The declarations of a text, in order. -/
def declarations (content : Text) : List Declaration :=
  (Text.lines content).filterMap declarationOn?

/-- What is declared for a name where it is declared last. -/
def latest (ds : List Declaration) (name : Text) : Option Text :=
  (ds.reverse.find? fun d => d.name = name).map Declaration.value

theorem latest_concat (ds : List Declaration) (d : Declaration) (name : Text) :
    latest (ds ++ [d]) name = if name = d.name then some d.value else latest ds name := by
  rw [latest, List.reverse_append, List.reverse_singleton, List.singleton_append, List.find?_cons]
  by_cases h : d.name = name
  · simp [h]
  · simp [h, latest, Ne.symm h]

/-- Of two parts the later one counts. -/
theorem latest_append (ds more : List Declaration) (name : Text) :
    latest (ds ++ more) name = (latest more name).or (latest ds name) := by
  simp only [latest, List.reverse_append, List.find?_append, Option.map_or]

theorem latest_of_forall_ne (h : ∀ d ∈ ds, d.name ≠ name) : latest ds name = none := by
  rw [latest, Option.map_eq_none_iff, List.find?_eq_none]
  exact fun d hd => by simpa using h d (List.mem_reverse.mp hd)

/-- The value that a declaration comes to behind the declarations `before`: its own, or the one at
the end of the chain that it is an alias of. -/
def ComesTo (before : List Declaration) (d : Declaration) (value : Text) : Prop :=
  if isAlias d.value then EndsIn (latest before) d.value value else value = d.value

/-- The declaration with this index is one of the name, and comes to a color. -/
def Gives (isColor : Text → Bool) (ds : List Declaration) (i : Nat) (name color : Text) : Prop :=
  ∃ d, ds[i]? = some d ∧ d.name = name ∧ ComesTo (ds.take i) d color ∧ isColor color = true

theorem ComesTo.not_isAlias {value : Text} (h : ComesTo ds d value) : isAlias value = false := by
  unfold ComesTo at h
  split at h
  · obtain ⟨-, -, -, -, halias⟩ := h
    exact halias
  · rename_i halias
    simpa [h] using halias

theorem ComesTo.unique {value : Text} (h : ComesTo ds d value) (h' : ComesTo ds d other) :
    value = other := by
  unfold ComesTo at h h'
  split at h
  · rename_i halias
    rw [if_pos halias] at h'
    exact h.unique h'
  · rename_i halias
    rw [if_neg halias] at h'
    exact h.trans h'.symm

theorem Gives.unique (h : Gives isColor ds i name color) (h' : Gives isColor ds i name other) :
    color = other := by
  obtain ⟨d, hd, -, hcomes, -⟩ := h
  obtain ⟨d', hd', -, hcomes', -⟩ := h'
  obtain rfl : d = d' := Option.some.inj (hd.symm.trans hd')
  exact hcomes.unique hcomes'

/-- What is declared later does not count. -/
theorem gives_append_of_lt {more : List Declaration} (h : i < ds.length) :
    Gives isColor (ds ++ more) i name color ↔ Gives isColor ds i name color := by
  unfold Gives
  rw [List.getElem?_append_left h, List.take_append_of_le_length (Nat.le_of_lt h)]

theorem gives_concat_length :
    Gives isColor (ds ++ [d]) ds.length name color ↔
      d.name = name ∧ ComesTo ds d color ∧ isColor color = true := by
  unfold Gives
  simp

theorem Gives.lt (h : Gives isColor ds i name color) : i < ds.length := by
  obtain ⟨d, hd, -⟩ := h
  exact (List.getElem?_eq_some_iff.mp hd).1

/-! ### The scan -/

/-- The last of what is given at some places, if anything is. -/
def IsLastOf (gives : Nat → Text → Prop) : Option Text → Prop
  | some color => ∃ i, gives i color ∧ ∀ j other, i < j → ¬ gives j other
  | none => ∀ i color, ¬ gives i color

theorem IsLastOf.unique {gives : Nat → Text → Prop} {given given' : Option Text}
    (hgives : ∀ i color other, gives i color → gives i other → color = other)
    (h : IsLastOf gives given) (h' : IsLastOf gives given') : given = given' := by
  cases given with
  | none =>
    cases given' with
    | none => rfl
    | some color =>
      obtain ⟨i, hi, -⟩ := h'
      exact absurd hi (h i color)
  | some color =>
    obtain ⟨i, hi, hlater⟩ := h
    cases given' with
    | none => exact absurd hi (h' i color)
    | some other =>
      obtain ⟨j, hj, hlater'⟩ := h'
      -- Neither of the two places is later than the other.
      obtain rfl : i = j := Nat.le_antisymm (Nat.not_lt.mp fun hlt => hlater' i color hlt hi)
        (Nat.not_lt.mp fun hlt => hlater j other hlt hj)
      rw [hgives i color other hi hj]

/-- What the last declaration of a name that comes to a color gives, if there is one. -/
def IsLastGiven (isColor : Text → Bool) (ds : List Declaration) (name : Text) :
    Option Text → Prop
  | some color => ∃ i, Gives isColor ds i name color ∧
      ∀ j other, i < j → ¬ Gives isColor ds j name other
  | none => ∀ i color, ¬ Gives isColor ds i name color

/-- A scan that has come through the declarations `ds`. -/
structure Scan.Reads (isColor : Text → Bool) (s : Scan) (ds : List Declaration) : Prop where
  declared : s.declared.get? = latest ds
  colors : ∀ name, IsLastGiven isColor ds name (s.colors.get? name)

/-- A declaration that gives the name no color leaves it the one that it has. -/
theorem IsLastGiven.concat {given : Option Text} (h : IsLastGiven isColor ds name given)
    (hd : ∀ color, d.name = name → ComesTo ds d color → isColor color = false) :
    IsLastGiven isColor (ds ++ [d]) name given := by
  have hsame : ∀ i color, Gives isColor (ds ++ [d]) i name color ↔
      Gives isColor ds i name color := by
    intro i color
    rcases Nat.lt_or_ge i ds.length with hi | hi
    · exact gives_append_of_lt hi
    · refine ⟨fun hgives => ?_, fun hgives => absurd hgives.lt (Nat.not_lt.mpr hi)⟩
      have hlength : i < (ds ++ [d]).length := hgives.lt
      rw [List.length_append, List.length_singleton] at hlength
      obtain rfl : i = ds.length := Nat.le_antisymm (Nat.le_of_lt_succ hlength) hi
      obtain ⟨hname, hcomes, hcolor⟩ := gives_concat_length.mp hgives
      rw [hd color hname hcomes] at hcolor
      cases hcolor
  cases given <;> simpa only [IsLastGiven, hsame] using h

/-- A declaration that gives its name a color gives it the last one. -/
theorem isLastGiven_concat (hcomes : ComesTo ds d color) (hcolor : isColor color = true) :
    IsLastGiven isColor (ds ++ [d]) d.name (some color) := by
  refine ⟨ds.length, gives_concat_length.mpr ⟨rfl, hcomes, hcolor⟩, fun j other hj hgives => ?_⟩
  have hlength : j < (ds ++ [d]).length := hgives.lt
  rw [List.length_append, List.length_singleton] at hlength
  omega

/-- Declarations of other names leave the name the color that it has. -/
theorem IsLastGiven.append {given : Option Text} {more : List Declaration}
    (h : IsLastGiven isColor ds name given) (hmore : ∀ d ∈ more, d.name ≠ name) :
    IsLastGiven isColor (ds ++ more) name given := by
  induction more using List.reverseRecOn with
  | nil => rwa [List.append_nil]
  | append_singleton more d ih =>
    obtain ⟨hmore, hd⟩ := List.forall_mem_append.mp hmore
    rw [← List.append_assoc]
    exact (ih hmore).concat fun _ hname _ => absurd hname (hd d (List.mem_singleton_self d))

theorem isLastGiven_iff {given : Option Text} : IsLastGiven isColor ds name given ↔
    IsLastOf (fun i color => Gives isColor ds i name color) given := by
  cases given <;> rfl

/-- What the declarations give a name is determined. -/
theorem IsLastGiven.unique {given given' : Option Text} (h : IsLastGiven isColor ds name given)
    (h' : IsLastGiven isColor ds name given') : given = given' :=
  (isLastGiven_iff.mp h).unique (fun _ _ _ hgives hgives' => hgives.unique hgives')
    (isLastGiven_iff.mp h')

/-- The scan follows an alias through what has been declared before. -/
theorem Scan.Reads.resolve_eq_ok_iff (h : s.Reads isColor ds) :
    s.resolve d = .ok color ↔ ComesTo ds d color := by
  unfold Scan.resolve ComesTo
  split
  · rw [Alias.resolve_eq_ok_iff, h.declared]
  · rw [Except.ok.injEq, eq_comm]

/-- **One declaration.** -/
theorem Scan.Reads.declaration (h : s.Reads isColor ds) (d : Declaration) :
    (s.declaration isColor d).Reads isColor (ds ++ [d]) := by
  have hdeclared : (s.declared.insert d.name d.value).get? = latest (ds ++ [d]) := by
    funext name
    rw [Dict.get?_insert, latest_concat, h.declared]
  unfold Scan.declaration
  cases hresolve : s.resolve d with
  | error failure =>
    refine ⟨hdeclared, fun name => (h.colors name).concat fun color _ hcomes => ?_⟩
    rw [h.resolve_eq_ok_iff.mpr hcomes] at hresolve
    cases hresolve
  | ok color =>
    have hcomes := h.resolve_eq_ok_iff.mp hresolve
    refine ⟨hdeclared, fun name => ?_⟩
    dsimp only
    split
    · rename_i hcolor
      rw [Dict.get?_insert]
      split
      · rename_i hname
        rw [hname]
        exact isLastGiven_concat hcomes hcolor
      · rename_i hname
        exact (h.colors name).concat fun _ heq _ => absurd heq.symm hname
    · rename_i hcolor
      refine (h.colors name).concat fun other _ hother => ?_
      rw [hother.unique hcomes]
      exact Bool.eq_false_iff.mpr hcolor

/-- Any declarations can be scanned. -/
theorem exists_reads (isColor : Text → Bool) (ds : List Declaration) :
    ∃ s : Scan, s.Reads isColor ds := by
  induction ds using List.reverseRecOn with
  | nil => exact ⟨{}, rfl, fun name i color hgives => absurd hgives.lt (Nat.not_lt_zero i)⟩
  | append_singleton ds d ih =>
    obtain ⟨s, hs⟩ := ih
    exact ⟨_, hs.declaration d⟩

/-- What an alias comes to is a matter of what is declared for the names on the way. -/
theorem endsIn_latest_congr {declared : Text → Option Text} {target value : Text}
    (hsame : ∀ chain, IsChain (latest ds) target chain → ∀ a ∈ chain, latest ds a = declared a) :
    EndsIn (latest ds) target value ↔ EndsIn declared target value := by
  obtain ⟨s, hs⟩ := exists_reads (fun _ => true) ds
  rw [← hs.declared] at hsame ⊢
  exact endsIn_congr hsame

/-- **One line.** One that is not read as a declaration changes nothing but the remarks. -/
theorem Scan.Reads.line (h : s.Reads isColor ds) (line : Text) :
    (s.line isColor line).Reads isColor (ds ++ (declarationOn? line).toList) := by
  unfold Scan.line declarationOn?
  split
  · cases Declaration.ofLine? line with
    | some d => exact h.declaration d
    | none => exact (List.append_nil ds).symm ▸ ⟨h.declared, h.colors⟩
  · exact (List.append_nil ds).symm ▸ h

theorem Scan.Reads.foldl {lines : List Text} (h : s.Reads isColor ds) :
    (lines.foldl (Scan.line isColor) s).Reads isColor (ds ++ lines.filterMap declarationOn?) := by
  induction lines generalizing s ds with
  | nil => simpa using h
  | cons line lines ih =>
    have hrest := ih (h.line line)
    rw [List.append_assoc] at hrest
    rw [List.foldl_cons, List.filterMap_cons]
    cases hline : declarationOn? line <;> simpa [hline] using hrest

/-- **The whole scan.** -/
theorem reads_scan (isColor : Text → Bool) (content : Text) :
    (scan isColor content).Reads isColor (declarations content) := by
  have hstart : ({} : Scan).Reads isColor [] :=
    ⟨rfl, fun name i color hgives => absurd hgives.lt (Nat.not_lt_zero i)⟩
  exact hstart.foldl

/-! ### The color map -/

theorem isLastGiven_ofText (isColor : Text → Bool) (content name : Text) :
    IsLastGiven isColor (declarations content) name ((ofText isColor content).get? name) :=
  (reads_scan isColor content).colors name

/-- Reading a line adds at most the color of the name that it declares. -/
theorem colors_line (isColor : Text → Bool) (s : Scan) (line : Text) :
    (s.line isColor line).colors = s.colors ∨ ∃ decl color, Declaration.ofLine? line = some decl ∧
      (s.line isColor line).colors = s.colors.insert decl.name color := by
  unfold Scan.line
  split
  · split
    · rename_i decl hdecl
      unfold Scan.declaration
      simp only
      split
      · rename_i color _
        simp only
        split
        · exact .inr ⟨decl, color, hdecl, rfl⟩
        · exact .inl rfl
      · exact .inl rfl
    · exact .inl rfl
  · exact .inl rfl

/-- No name is in a color map twice. -/
theorem nodup_names_ofText (isColor : Text → Bool) (content : Text) :
    (ofText isColor content).names.Nodup := by
  have hall : ∀ (ls : List Text) (s : Scan), s.colors.names.Nodup →
      (ls.foldl (Scan.line isColor) s).colors.names.Nodup := by
    intro ls
    induction ls with
    | nil => exact fun s hs => hs
    | cons l ls ih =>
      intro s hs
      refine ih _ ?_
      rcases colors_line isColor s l with hsame | ⟨decl, color, -, hinsert⟩
      · rwa [hsame]
      · rw [hinsert]
        exact Dict.nodup_names_insert hs decl.name color
  exact hall _ {} List.nodup_nil

/-- Lines that do not declare the name leave it the color that it has. -/
theorem get?_foldl_of_ne {lines : List Text}
    (h : ∀ line ∈ lines, (declarationOn? line).map Declaration.name ≠ some name) (s : Scan) :
    (lines.foldl (Scan.line isColor) s).colors.get? name = s.colors.get? name := by
  induction lines generalizing s with
  | nil => rfl
  | cons line lines ih =>
    obtain ⟨hline, hlines⟩ := List.forall_mem_cons.mp h
    rw [List.foldl_cons, ih hlines]
    unfold declarationOn? at hline
    unfold Scan.line
    split
    · rename_i hcandidate
      rw [if_pos hcandidate] at hline
      cases hd : Declaration.ofLine? line with
      | none => rfl
      | some d =>
        dsimp only
        unfold Scan.declaration
        cases s.resolve d with
        | error => rfl
        | ok color =>
          dsimp only
          split
          · have hname : name ≠ d.name := by
              rintro rfl
              exact hline (by rw [hd]; rfl)
            rw [Dict.get?_insert, if_neg hname]
          · rfl
    · rfl

/-- Two texts that are the same up to a line, after which neither declares the name, give it the
same color. -/
theorem get?_ofText_congr {content content' : Text} (k : Nat)
    (hsame : (Text.lines content').take k = (Text.lines content).take k)
    (hlater : ∀ line ∈ (Text.lines content).drop k ++ (Text.lines content').drop k,
      (declarationOn? line).map Declaration.name ≠ some name) :
    (ofText isColor content').get? name = (ofText isColor content).get? name := by
  have hfirst : ∀ text : Text, (∀ line ∈ (Text.lines text).drop k,
      (declarationOn? line).map Declaration.name ≠ some name) →
      (ofText isColor text).get? name =
        (((Text.lines text).take k).foldl (Scan.line isColor) {}).colors.get? name := by
    intro text htext
    have hsplit : ofText isColor text = (((Text.lines text).drop k).foldl (Scan.line isColor)
        (((Text.lines text).take k).foldl (Scan.line isColor) {})).colors := by
      rw [← List.foldl_append, List.take_append_drop]
      rfl
    rw [hsplit]
    exact get?_foldl_of_ne htext _
  rw [hfirst content' fun line hline => hlater line (List.mem_append_right _ hline),
    hfirst content fun line hline => hlater line (List.mem_append_left _ hline), hsame]

/-- **What a color map says.** A name has the color that its last declaration gives that comes to
one; it has none if there is no such declaration. What a declaration comes to is its value, or the
value that its alias comes to by way of what is declared before it. So no color is an alias; and
what the map says of a name does not depend on the lines after one, as long as they do not declare
this name. -/
theorem get?_ofText_exact (isColor : Text → Bool) (content name : Text) :
    (∀ color, (ofText isColor content).get? name = some color ↔
        ∃ i, Gives isColor (declarations content) i name color ∧
          ∀ j other, i < j → ¬ Gives isColor (declarations content) j name other) ∧
      ((ofText isColor content).get? name = none ↔
        ∀ i color, ¬ Gives isColor (declarations content) i name color) ∧
      (∀ color, (ofText isColor content).get? name = some color → isAlias color = false) ∧
      ∀ (k : Nat) (content' : Text), (Text.lines content').take k = (Text.lines content).take k →
        (∀ line ∈ (Text.lines content).drop k ++ (Text.lines content').drop k,
          (declarationOn? line).map Declaration.name ≠ some name) →
        (ofText isColor content').get? name = (ofText isColor content).get? name := by
  have hlast := isLastGiven_ofText isColor content name
  refine ⟨fun color => ⟨fun h => ?_, fun ⟨i, hgives, hlater⟩ => ?_⟩, ⟨fun h => ?_, fun h => ?_⟩,
    fun color h => ?_, fun k content' => get?_ofText_congr k⟩
  · rwa [h] at hlast
  · cases hget : (ofText isColor content).get? name with
    | none =>
      rw [hget] at hlast
      exact absurd hgives (hlast i color)
    | some found =>
      rw [hget] at hlast
      obtain ⟨j, hgives', hlater'⟩ := hlast
      -- Neither of the two declarations is later than the other.
      obtain rfl : i = j := Nat.le_antisymm (Nat.not_lt.mp fun hlt => hlater' i color hlt hgives)
        (Nat.not_lt.mp fun hlt => hlater j found hlt hgives')
      rw [hgives'.unique hgives]
  · rwa [h] at hlast
  · cases hget : (ofText isColor content).get? name with
    | none => rfl
    | some found =>
      rw [hget] at hlast
      obtain ⟨j, hgives, -⟩ := hlast
      exact absurd hgives (h j found)
  · rw [h] at hlast
    obtain ⟨i, ⟨d, -, -, hcomes, -⟩, -⟩ := hlast
    exact hcomes.not_isAlias

/-- A text in which names are declared again, one of them as the alias of a name that is not
declared. -/
def redeclared : Text :=
  ("@blue-6: #1890ff;\n@primary-color: @blue-6;\n@link-color: @primary-color;\n" ++
    "@primary-color: @brand-color;\n@blue-6: red;\n").toList

/-- Lines that declare two of its names once more. -/
def appended : Text := "@blue-6: #222;\n@primary-color: @blue-6;\n".toList

/-- The later declaration of a name comes to no color, and takes nothing away; what has been an
alias of it before keeps its color when still more is declared. -/
theorem get?_ofText_exact_redeclared :
    (∃ i, Gives (Color.isColor []) (declarations redeclared) i "@blue-6".toList
        "#1890ff".toList ∧
      ∀ j other, i < j →
        ¬ Gives (Color.isColor []) (declarations redeclared) j "@blue-6".toList other) ∧
      (ofText (Color.isColor []) (redeclared ++ appended)).get? "@link-color".toList =
        (ofText (Color.isColor []) redeclared).get? "@link-color".toList := by
  refine ⟨((get?_ofText_exact _ redeclared _).1 _).mp (by decide +kernel), ?_⟩
  exact (get?_ofText_exact _ redeclared _).2.2.2 5 (redeclared ++ appended) (by decide +kernel)
    (by decide +kernel)

end Retint.ColorMap
