import Retint.Proofs.Colors.Shade
import Retint.Proofs.Dict

/-!
# Reading compiled probes

A probe goes through the compiler as a rule and comes back as text. What is read off that text is
what was put into it, rule by rule: the reader is at the start of a rule when the one before has
been read, since between the end of a value and the next rule there is no period that could lead a
probe. Comments on lines of their own leave empty lines behind, which have none either.

## Main definitions

* `Probe.compiled` — a compiled probe in the compiler's layout
* `Probe.Compiled` — a compiled probe with the comments before it

## Main results

* `ColorTable.probes_compiled` — a compiled probe is read back, whatever comes after it
* `ColorTable.stripComments_line` — comments are stripped line by line
* `ColorTable.ofCss_compiled` — the table read off compiled probes
-/

namespace Retint

open Text Declaration

namespace Probe

/-! ### Compiled probes -/

/-- A compiled probe in the compiler's layout: its class, and the value of its property. -/
def compiled (selector value : Text) : Text :=
  '.' :: (selector ++ (" \x7b\n  color: ".toList ++ (value ++ ';' :: "\n\x7d\n".toList)))

/-- A comment that takes a line. -/
def comment (body : Text) : Text := "/*".toList ++ body ++ "*/".toList

/-- Comments, each on a line of its own. -/
def commentLines (bodies : List Text) : Text := bodies.flatMap fun body => comment body ++ ['\n']

/-- A probe with the value that it has been compiled to, and the comments on the lines before it. -/
structure Compiled where
  comments : List Text
  rule : Rule
  value : Text

def Compiled.text (p : Compiled) : Text :=
  commentLines p.comments ++ compiled p.rule.selector p.value

/-- What a probe can be compiled to: a trimmed value on one line with at most one slash, after
comments on one line each. -/
structure Compiled.IsPlain (p : Compiled) : Prop where
  comments : ∀ body ∈ p.comments, '\n' ∉ body
  trim : Text.trim p.value = p.value
  line : '\n' ∉ p.value
  slash : p.value.count '/' ≤ 1

end Probe

namespace ColorTable

open Probe

variable {name value l t : Text} {n : Nat} {p : Compiled} {ps : List Compiled}

/-! ### Finding probes -/

theorem probes_eq_drop (skip : Nat) (t : Text) : probes skip t = probes 0 (t.drop skip) := by
  induction t generalizing skip with
  | nil => cases skip <;> rfl
  | cons c t ih =>
    cases skip with
    | zero => rfl
    | succ skip => exact ih skip

theorem probe?_eq_none {c : Char} (hc : c ≠ '.') (t : Text) : probe? (c :: t) = none := by
  unfold probe?
  split
  · rename_i heq
    exact absurd (List.cons.inj heq).1 hc
  · rfl

/-- Where there is no period no probe starts. -/
theorem probes_of_not_mem {a : Text} (ha : '.' ∉ a) (t : Text) :
    probes 0 (a ++ t) = probes 0 t := by
  induction a with
  | nil => rfl
  | cons c a ih =>
    simp only [List.mem_cons, not_or] at ha
    rw [List.cons_append, probes, probe?_eq_none (Ne.symm ha.1), ih ha.2]

/-- What looks like a probe: a class with a hyphen or a quote, a color, and the last semicolon of
the line. -/
theorem probe?_eq_some_iff : probe? t = some (name, value, n) ↔
    ∃ after, t = '.' :: (name ++ (" \x7b\n  color: ".toList ++ (value ++ ';' :: after))) ∧
      (∀ c ∈ name, isClassChar c = true) ∧ ('-' ∈ name ∨ '\'' ∈ name) ∧ '\n' ∉ value ∧
      ';' ∉ after.takeWhile (· != '\n') ∧
      n = 1 + name.length + " \x7b\n  color: ".toList.length + value.length + 1 := by
  constructor
  · intro h
    unfold probe? at h
    split at h
    · rename_i rest
      extract_lets name' lead at h
      split at h
      · rename_i hmark
        split at h
        · rename_i after hafter
          obtain ⟨⟨v, b⟩, hcut, heq⟩ := Option.map_eq_some_iff.mp h
          obtain ⟨hname, hrest⟩ := Prod.mk.inj heq
          obtain ⟨hv, hn⟩ := Prod.mk.inj hrest
          obtain ⟨hline, hb⟩ := eq_of_cutLast? hcut
          obtain ⟨u, hu⟩ := List.takeWhile_prefix (l := after) (· != '\n')
          rw [hline] at hu
          have hall : ∀ c ∈ v ++ ';' :: b, c ≠ '\n' := fun c hc => by
            rw [← hline] at hc
            exact bne_iff_ne.mp (List.all_eq_true.mp List.all_takeWhile c hc)
          have htail : (b ++ u).takeWhile (· != '\n') = b := by
            rw [← hu, List.append_assoc, List.takeWhile_append_of_pos fun c hc =>
              bne_iff_ne.mpr (hall c (List.mem_append_left _ hc)), List.cons_append,
              List.takeWhile_cons_of_pos (by decide)] at hline
            exact (List.cons.inj (List.append_cancel_left hline)).2
          have hclass : rest.takeWhile isClassChar = name := hname
          have hvalue : v = value := hv
          subst hvalue
          refine ⟨b ++ u, ?_, ?_, ?_, ?_, by rw [htail]; exact hb, ?_⟩
          · rw [← List.takeWhile_append_dropWhile (p := isClassChar) (l := rest), hclass,
              dropLead?_eq_some_iff.mp hafter, ← hu, List.append_assoc]
            rfl
          · rw [← hclass]
            exact fun c hc => List.all_eq_true.mp List.all_takeWhile c hc
          · rw [← hclass]
            simpa [name'] using hmark
          · exact fun hm => hall '\n' (List.mem_append_left _ hm) rfl
          · rw [← hclass]
            exact hn.symm
        · cases h
      · cases h
    · cases h
  · rintro ⟨after, rfl, hclass, hmark, hline, hlast, rfl⟩
    have hstop : isClassChar ' ' = false := by decide
    have hname : (name ++ (" \x7b\n  color: ".toList ++ (value ++ ';' :: after))).takeWhile
        isClassChar = name := takeWhile_append_cons hclass hstop _
    have hrest : (name ++ (" \x7b\n  color: ".toList ++ (value ++ ';' :: after))).dropWhile
        isClassChar = " \x7b\n  color: ".toList ++ (value ++ ';' :: after) :=
      dropWhile_append_cons hclass hstop _
    have hall : ∀ c ∈ value, (c != '\n') = true := by
      intro c hc
      rw [bne_iff_ne]
      rintro rfl
      exact hline hc
    have hvalue : (value ++ ';' :: after).takeWhile (· != '\n') =
        value ++ ';' :: after.takeWhile (· != '\n') := by
      rw [List.takeWhile_append_of_pos hall, List.takeWhile_cons_of_pos (by decide)]
    have hcut := cutLast?_append_cons value hlast
    have hcontains : (List.contains name '-' || List.contains name '\'') = true := by
      simpa using hmark
    simp only [probe?, hname, hrest, hcontains, if_true, dropLead?_append_self, hvalue, hcut,
      Option.map_some]

/-- What is found at the start of a compiled probe: its class, its value, and its length up to the
semicolon. -/
theorem probe?_compiled (hclass : ∀ c ∈ name, isClassChar c = true)
    (hmark : '-' ∈ name ∨ '\'' ∈ name) (hline : '\n' ∉ value) (t : Text) :
    probe? (compiled name value ++ t) = some (name, value,
      1 + name.length + " \x7b\n  color: ".toList.length + value.length + 1) := by
  refine probe?_eq_some_iff.mpr ⟨"\n\x7d\n".toList ++ t, ?_, hclass, hmark, hline, ?_, rfl⟩
  · simp only [compiled, List.append_assoc, List.cons_append]
  · exact List.not_mem_nil

/-- **A compiled probe is read back,** whatever comes after it. -/
theorem probes_compiled (hclass : ∀ c ∈ name, isClassChar c = true)
    (hmark : '-' ∈ name ∨ '\'' ∈ name) (hline : '\n' ∉ value) (t : Text) :
    probes 0 (compiled name value ++ t) = (name, value) :: probes 0 t := by
  have hprobe := probe?_compiled hclass hmark hline t
  have hsplit : compiled name value ++ t = '.' :: (name ++ (" \x7b\n  color: ".toList ++
      (value ++ ';' :: ("\n\x7d\n".toList ++ t)))) := by
    simp only [compiled, List.append_assoc, List.cons_append]
  have hdrop : (name ++ (" \x7b\n  color: ".toList ++
      (value ++ ';' :: ("\n\x7d\n".toList ++ t)))).drop
        (1 + name.length + " \x7b\n  color: ".toList.length + value.length + 1 - 1) =
      "\n\x7d\n".toList ++ t := by
    rw [List.append_cons, ← List.append_assoc, ← List.append_assoc, List.drop_left']
    simp only [List.length_append, List.length_singleton]
    omega
  rw [hsplit] at hprobe ⊢
  rw [probes, hprobe]
  simp only [probes_eq_drop (_ - 1), hdrop, probes_of_not_mem (by decide : '.' ∉ "\n\x7d\n".toList)]

/-! ### Stripping comments -/

/-- Comments are stripped line by line. -/
theorem stripComments_line (hl : '\n' ∉ l) (t : Text) :
    stripComments (l ++ '\n' :: t) = stripLine l ++ '\n' :: stripComments t := by
  obtain ⟨line, more, hlines⟩ := List.exists_cons_of_ne_nil (splitOn_ne_nil '\n' t)
  rw [stripComments, stripComments, splitOn_append_cons hl, hlines, List.map_cons, List.map_cons,
    joinWith, List.append_assoc, List.singleton_append]

/-- A line with a single slash is no comment. -/
theorem stripLine_of_count (h : l.count '/' ≤ 1) : stripLine l = l := by
  by_cases hl : '/' ∈ l
  · obtain ⟨a, b, rfl, ha⟩ := List.eq_append_cons_of_mem hl
    have hb : '/' ∉ b := by
      rw [← List.count_eq_zero]
      simp only [List.count_append, List.count_cons_self] at h
      omega
    rw [stripLine, cut?_append_cons ha]
    simp only [cutLast?_eq_none_iff.mpr hb]
  · rw [stripLine, cut?_eq_none hl]

/-- Nothing is left of a comment that takes a line. -/
theorem stripLine_comment (body : Text) : stripLine (comment body) = [] := by
  have hcomment : comment body = [] ++ '/' :: (('*' :: (body ++ ['*'])) ++ '/' :: []) := by
    simp [comment]
  rw [stripLine, hcomment, cut?_append_cons List.not_mem_nil]
  simp only [cutLast?_append_cons _ List.not_mem_nil, List.append_nil]

/-- Comments leave empty lines, in which no probe starts. -/
theorem probes_commentLines {bodies : List Text} (h : ∀ body ∈ bodies, '\n' ∉ body) (t : Text) :
    probes 0 (stripComments (commentLines bodies ++ t)) = probes 0 (stripComments t) := by
  induction bodies with
  | nil => rfl
  | cons body bodies ih =>
    obtain ⟨hbody, hbodies⟩ := List.forall_mem_cons.mp h
    have hline : '\n' ∉ comment body := by
      rw [comment]
      simp [hbody]
    have hsplit : commentLines (body :: bodies) ++ t =
        comment body ++ '\n' :: (commentLines bodies ++ t) := by
      simp [commentLines]
    rw [hsplit, stripComments_line hline, stripLine_comment]
    exact (probes_of_not_mem (a := ['\n']) (by decide) _).trans (ih hbodies)

/-- A compiled probe keeps its lines. -/
theorem stripComments_compiled (hclass : ∀ c ∈ name, isClassChar c = true) (hline : '\n' ∉ value)
    (hslash : value.count '/' ≤ 1) (t : Text) :
    stripComments (compiled name value ++ t) = compiled name value ++ stripComments t := by
  have hname : ∀ c : Char, isClassChar c = false → c ∉ name := by
    intro c hc hm
    rw [hclass c hm] at hc
    cases hc
  have hsplit : ∀ u : Text, compiled name value ++ u =
      ('.' :: name ++ " \x7b".toList) ++ '\n' :: (("  color: ".toList ++ value ++ [';']) ++
        '\n' :: (['\x7d'] ++ '\n' :: u)) := by
    intro u
    have hlead : " \x7b\n  color: ".toList =
      " \x7b".toList ++ '\n' :: "  color: ".toList := by decide
    simp only [compiled, hlead, List.append_assoc, List.cons_append]
    rfl
  have hfirst : '\n' ∉ '.' :: name ++ " \x7b".toList ∧
      ('.' :: name ++ " \x7b".toList).count '/' ≤ 1 := by
    have hcount : name.count '/' = 0 := List.count_eq_zero.mpr (hname '/' (by decide))
    have hlead : " \x7b".toList.count '/' = 0 := by decide
    refine ⟨?_, ?_⟩
    · simp [hname '\n' (by decide)]
    · rw [List.count_append, List.count_cons_of_ne (by decide), hcount, hlead]
      omega
  have hsecond : '\n' ∉ "  color: ".toList ++ value ++ [';'] ∧
      ("  color: ".toList ++ value ++ [';']).count '/' ≤ 1 := by
    have hlead : "  color: ".toList.count '/' = 0 ∧ [';'].count '/' = 0 := by decide
    refine ⟨by simp [hline], ?_⟩
    rw [List.count_append, List.count_append, hlead.1, hlead.2]
    omega
  have hthird : stripLine ['\x7d'] = ['\x7d'] := by decide
  rw [hsplit, hsplit, stripComments_line hfirst.1, stripLine_of_count hfirst.2,
    stripComments_line hsecond.1, stripLine_of_count hsecond.2,
    stripComments_line (by decide : '\n' ∉ ['\x7d']), hthird]

/-! ### The table -/

/-- A compiled probe with its comments is read back, whatever comes after it. -/
theorem probes_text (hkey : IsMarked p.rule.key) (hp : p.IsPlain) (t : Text) :
    probes 0 (stripComments (p.text ++ t)) =
      (p.rule.selector, p.value) :: probes 0 (stripComments t) := by
  obtain ⟨⟨n, hn, hchars⟩, hmark⟩ := hkey
  obtain rfl : p.rule.selector = n := (List.cons.inj hn).2
  have hclass : ∀ c ∈ p.rule.selector, isClassChar c = true := hchars
  have hmark' : '-' ∈ p.rule.selector ∨ '\'' ∈ p.rule.selector := by
    simpa [Rule.key] using hmark
  rw [Compiled.text, List.append_assoc, probes_commentLines hp.comments,
    stripComments_compiled hclass hp.line hp.slash, probes_compiled hclass hmark' hp.line]

theorem probes_flatMap_text {last : List Text} (hlast : ∀ body ∈ last, '\n' ∉ body)
    (hps : ∀ p ∈ ps, IsMarked p.rule.key ∧ p.IsPlain) :
    probes 0 (stripComments (ps.flatMap Compiled.text ++ commentLines last)) =
      ps.map fun p => (p.rule.selector, p.value) := by
  induction ps with
  | nil =>
    have hnone := probes_commentLines hlast []
    rw [List.append_nil] at hnone
    exact hnone
  | cons p ps ih =>
    obtain ⟨⟨hkey, hp⟩, hps⟩ := List.forall_mem_cons.mp hps
    rw [List.flatMap_cons, List.append_assoc, probes_text hkey hp, ih hps, List.map_cons]

/-- The values that are colors. -/
theorem isConcrete_eq (value : Text) :
    isConcrete value = decide ("#".toList <+: value ∨ "rgba".toList <+: value) := by
  rw [Bool.eq_iff_iff, isConcrete, Bool.or_eq_true, startsWith_iff, startsWith_iff,
    decide_eq_true_eq]

/-- What a table learns from a compiled probe: the color under its key, if its value is one. -/
def reading (probe : Text × Text) : Option (Text × Text) :=
  if isConcrete (Text.trim probe.2) then some ('@' :: probe.1, Text.trim probe.2) else none

/-- A table is made of what is learned from the probes, one after the other. -/
theorem ofCss_eq_ofList (css : Text) :
    ofCss css = Dict.ofList ((probes 0 (stripComments css)).filterMap reading) := by
  rw [ofCss, Dict.ofList, List.foldl_filterMap]
  congr 1
  funext table probe
  by_cases hc : isConcrete (Text.trim probe.2) = true <;> simp [reading, hc]

/-- Values that are no colors are passed over. -/
theorem filterMap_reading (hps : ∀ p ∈ ps, p.IsPlain) :
    (ps.map fun p => (p.rule.selector, p.value)).filterMap reading =
      (ps.filter fun p => "#".toList <+: p.value ∨ "rgba".toList <+: p.value).map
        fun p => (p.rule.key, p.value) := by
  induction ps with
  | nil => rfl
  | cons p ps ih =>
    obtain ⟨hp, hps⟩ := List.forall_mem_cons.mp hps
    rw [List.map_cons, List.filterMap_cons, List.filter_cons, ih hps, reading, hp.trim,
      isConcrete_eq]
    by_cases hc : "#".toList <+: p.value ∨ "rgba".toList <+: p.value
    · simp only [hc, decide_true, if_true]
      rfl
    · simp only [hc, decide_false, Bool.false_eq_true, if_false]

/-- What is read off compiled probes. -/
theorem ofCss_flatMap_text {last : List Text} (hlast : ∀ body ∈ last, '\n' ∉ body)
    (hps : ∀ p ∈ ps, IsMarked p.rule.key ∧ p.IsPlain) :
    ofCss (ps.flatMap Compiled.text ++ commentLines last) =
      Dict.ofList ((ps.filter fun p => "#".toList <+: p.value ∨ "rgba".toList <+: p.value).map
        fun p => (p.rule.key, p.value)) := by
  rw [ofCss_eq_ofList, probes_flatMap_text hlast hps,
    filterMap_reading fun p hp => (hps p hp).2]

/-- **Probes are read back as they were compiled.** Take the probes of variables with marked names,
in order, each compiled to some value and with any comments on the lines before it, and any comments
after the last. The table that is read off has the value of each probe under its key, put in one
after the other in the order of the probes, except for the values that are no colors. -/
theorem ofCss_compiled {selected : List (Text × Text)} (hnames : ∀ e ∈ selected, IsMarked e.1)
    (hrules : ps.map Compiled.rule = rules selected) (hps : ∀ p ∈ ps, p.IsPlain)
    {last : List Text} (hlast : ∀ body ∈ last, '\n' ∉ body) :
    ofCss (ps.flatMap Compiled.text ++ commentLines last) =
      Dict.ofList ((ps.filter fun p => "#".toList <+: p.value ∨ "rgba".toList <+: p.value).map
        fun p => (p.rule.key, p.value)) := by
  refine ofCss_flatMap_text hlast fun p hp => ?_
  have hrule : p.rule ∈ rules selected := hrules ▸ List.mem_map_of_mem hp
  exact ⟨isMarked_key hnames hrule, hps p hp⟩

/-- A name with a quote that ends like a shade, a value with a slash, and one that is no color: only
the last probe is passed over. -/
theorem ofCss_compiled_quoted :
    let selected := [("@primary-color".toList, "red".toList), ("@it's-2".toList, "#fff".toList)]
    let value (r : Rule) : Text :=
      if r.selector = "primary-color".toList then "red".toList
      else if '\'' ∈ r.selector then "rgba(0.5; 0 0 / 50%)".toList else "#010101".toList
    let ps : List Compiled :=
      (rules selected).map fun r => ⟨[" /lib/style.less ".toList], r, value r⟩
    ((∀ e ∈ selected, IsMarked e.1) ∧ ps.map Compiled.rule = rules selected ∧
      (∀ p ∈ ps, p.IsPlain) ∧ ∀ body ∈ ["/".toList], '\n' ∉ body) ∧
    ofCss (ps.flatMap Compiled.text ++ commentLines ["/".toList]) =
      Dict.ofList ((rules selected).dropLast.map fun r => (r.key, value r)) := by
  intro selected value ps
  have hnames : ∀ e ∈ selected, IsMarked e.1 := by
    simp only [selected, List.forall_mem_cons]
    exact ⟨⟨⟨_, rfl, by decide⟩, by decide⟩, ⟨⟨_, rfl, by decide⟩, by decide⟩, nofun⟩
  have hrules : ps.map Compiled.rule = rules selected := by
    simp [ps, Function.comp_def]
  have hcomment : ∀ body ∈ [" /lib/style.less ".toList], '\n' ∉ body := by decide
  have hps : ∀ p ∈ ps, p.IsPlain := by
    have hvalues : ∀ r ∈ rules selected, Text.trim (value r) = value r ∧ '\n' ∉ value r ∧
        (value r).count '/' ≤ 1 := by decide +kernel
    intro p hp
    obtain ⟨r, hr, rfl⟩ := List.mem_map.mp hp
    obtain ⟨htrim, hline, hslash⟩ := hvalues r hr
    exact ⟨hcomment, htrim, hline, hslash⟩
  have hlast : ∀ body ∈ ["/".toList], '\n' ∉ body := by decide
  refine ⟨⟨hnames, hrules, hps, hlast⟩, ?_⟩
  rw [ofCss_compiled hnames hrules hps hlast]
  decide +kernel

end ColorTable

end Retint
