import Retint.Proofs.Flat.Reads

/-!
# Rules and their values

The rules of a source are found by braces, and their properties by semicolons. Where neither stands
in a selector, a property or a value, what was put together comes apart again, and the compiler
writes each rule in its own layout with the values evaluated.

## Main definitions

* `Flat.Block` — a rule with its properties, in the compiler's layout
* `Flat.Block.source` — the same with other white space around the properties
* `Flat.Block.IsReadable`, `Flat.Block.IsFlat` — rules that can be read back, and rules without any
  sign of a reference, a comment or a hack
* `Flat.Block.TurnsValue` — what the palette calls of a value turn it into

## Main results

* `Flat.evaluate_reference` — a value that ends in a reference
* `Flat.evaluate_name` — a variable comes to what its value comes to
* `Flat.mapM_css_rulesFrom` — what the rules of a source are written as
* `Flat.compile_eq_of_blocks` — what a source with rules in it compiles to
* `Flat.Block.reads` — the lines that a rule in the compiler's layout is read as
-/

namespace Retint.Flat

open Text

/-! ### Evaluating -/

variable {declared : Dict Text} {u v w : Text}

/-- What is replaced at the start of a text when references are. -/
def referenceFind (declared : Dict Text) (t : Text) : Option (Text × Nat) :=
  (name? t).map fun (name, _) => ((declared.get? name).getD name, name.length)

theorem startsWith_referenceFind (declared : Dict Text) :
    StartsWith (referenceFind declared) '@' := by
  intro d t hd
  have hname : name? (d :: t) = none := by
    unfold name?
    split
    · rename_i heq
      exact absurd (List.cons.inj heq).1 hd
    · rfl
  rw [referenceFind, hname]
  rfl

theorem replaceReferences_eq_self (hv : '@' ∉ v) : replaceReferences declared v = v :=
  ((startsWith_referenceFind declared).turns hv).replaceWith_eq

theorem evaluateFor_of_eq (n : Nat) (h : replaceReferences declared v = w)
    (hw : replaceReferences declared w = w) : evaluateFor declared (n + 2) v = w := by
  simp only [evaluateFor, h, hw, if_true]
  split
  · rename_i heq
    exact heq.symm
  · rfl

/-- A value without references is what it is. -/
theorem evaluate_eq_self (hv : '@' ∉ v) : evaluate declared v = v :=
  evaluateFor_of_eq 14 (replaceReferences_eq_self hv) (replaceReferences_eq_self hv)

theorem name?_eq {name : Text} (hne : name ≠ []) (hname : ∀ c ∈ name, isNameChar c = true) :
    name? ('@' :: name) = some ('@' :: name, []) := by
  have htake : (name ++ []).takeWhile isNameChar = name ++ [] := List.takeWhile_append_of_pos hname
  have hdrop : (name ++ []).dropWhile isNameChar = [] := List.dropWhile_append_of_pos hname
  rw [List.append_nil] at htake hdrop
  rw [name?, htake, hdrop]
  cases name with
  | nil => exact absurd rfl hne
  | cons c name => rfl

/-- A reference is replaced by what the variable is declared as. -/
theorem replaceReferences_name (declared : Dict Text) {name : Text} (hne : name ≠ [])
    (hname : ∀ c ∈ name, isNameChar c = true) :
    replaceReferences declared ('@' :: name) =
      (declared.get? ('@' :: name)).getD ('@' :: name) := by
  have hfind : referenceFind declared ('@' :: name ++ []) =
      some ((declared.get? ('@' :: name)).getD ('@' :: name), ('@' :: name).length) := by
    rw [List.append_nil, referenceFind, name?_eq hne hname]
    rfl
  have hreplaced := replaceWith_append_of_find (by simp) hfind
  rw [List.append_nil] at hreplaced
  exact hreplaced.trans (List.append_nil _)

/-- A value that ends in a reference to a variable with a value that has none. -/
theorem evaluate_reference {name color : Text} (hu : '@' ∉ u) (hne : name ≠ [])
    (hname : ∀ c ∈ name, isNameChar c = true) (hget : declared.get? ('@' :: name) = some color)
    (hcolor : '@' ∉ color) : evaluate declared (u ++ '@' :: name) = u ++ color := by
  have hreplaced : replaceReferences declared (u ++ '@' :: name) = u ++ color := by
    have htail : Text.replaceWith (referenceFind declared) ('@' :: name) = color :=
      (replaceReferences_name declared hne hname).trans (by rw [hget, Option.getD_some])
    exact ((startsWith_referenceFind declared).turns hu _).trans (by rw [htail])
  refine evaluateFor_of_eq 14 hreplaced (replaceReferences_eq_self ?_)
  simp [hu, hcolor]

/-- A variable comes to what its value comes to in one pass less. -/
theorem evaluate_name {name value : Text} (hne : name ≠ [])
    (hname : ∀ c ∈ name, isNameChar c = true) (hget : declared.get? ('@' :: name) = some value) :
    evaluate declared ('@' :: name) = evaluateFor declared 15 value := by
  have hnext := replaceReferences_name declared hne hname
  rw [hget, Option.getD_some] at hnext
  rw [evaluate, evaluateFor]
  simp only [hnext]
  split
  · rename_i heq
    rw [heq, evaluateFor, hnext, if_pos heq]
  · rfl

/-- A variable that is not declared comes to itself. -/
theorem evaluate_name_eq_self {name : Text} (hne : name ≠ [])
    (hname : ∀ c ∈ name, isNameChar c = true) (hget : declared.get? ('@' :: name) = none) :
    evaluate declared ('@' :: name) = '@' :: name := by
  have hnext := replaceReferences_name declared hne hname
  rw [hget, Option.getD_none] at hnext
  exact evaluateFor_of_eq 14 hnext hnext

/-! ### Reading rules -/

theorem rulesFrom_outside {a : Text} (ho : '\x7b' ∉ a) (hc : '\x7d' ∉ a) (acc t : Text) :
    rulesFrom (.outside acc) (a ++ t) = rulesFrom (.outside (a.reverse ++ acc)) t := by
  induction a generalizing acc with
  | nil => rfl
  | cons c a ih =>
    simp only [List.mem_cons, not_or] at ho hc
    rw [List.cons_append, rulesFrom, if_neg (Ne.symm ho.1), if_neg (Ne.symm hc.1), ih ho.2 hc.2]
    simp

theorem rulesFrom_inside {a : Text} (ho : '\x7b' ∉ a) (hc : '\x7d' ∉ a) (selector acc t : Text) :
    rulesFrom (.inside selector acc) (a ++ t) =
      rulesFrom (.inside selector (a.reverse ++ acc)) t := by
  induction a generalizing acc with
  | nil => rfl
  | cons c a ih =>
    simp only [List.mem_cons, not_or] at ho hc
    rw [List.cons_append, rulesFrom, if_neg (Ne.symm hc.1), if_neg (Ne.symm ho.1), ih ho.2 hc.2]
    simp

/-- A rule and what comes after it. -/
theorem rulesFrom_rule {a content : Text} (ha : a ≠ []) (hoa : '\x7b' ∉ a) (hca : '\x7d' ∉ a)
    (hoc : '\x7b' ∉ content) (hcc : '\x7d' ∉ content) (acc t : Text) :
    rulesFrom (.outside acc) (a ++ '\x7b' :: (content ++ '\x7d' :: t)) =
      ⟨acc.reverse ++ a, content⟩ :: rulesFrom (.outside []) t := by
  have hne : (a.reverse ++ acc).isEmpty = false := by simp [ha]
  rw [rulesFrom_outside hoa hca, rulesFrom, if_pos rfl, hne]
  simp only [Bool.false_eq_true, if_false]
  rw [rulesFrom_inside hoc hcc, rulesFrom, if_pos rfl]
  simp

theorem mapM_map_eq_ok {α β γ ε : Type} {f : β → Except ε γ} {g : α → β} {h : α → γ} :
    ∀ {l : List α}, (∀ x ∈ l, f (g x) = .ok (h x)) → (l.map g).mapM f = .ok (l.map h)
  | [], _ => rfl
  | x :: l, hl => by
    obtain ⟨hx, hl⟩ := List.forall_mem_cons.mp hl
    rw [List.map_cons, List.mapM_cons, hx, mapM_map_eq_ok hl]
    rfl

/-! ### Blocks -/

/-- A text that stands for itself in a rule: one line without white space at its ends, braces and
semicolons. -/
structure IsToken (t : Text) : Prop where
  ne_nil : t ≠ []
  trimmed : Text.trim t = t
  not_mem : ∀ c ∈ "\n\x7b\x7d;".toList, c ∉ t

theorem propertyLine_eq (name value : Text) :
    propertyLine name value =
      "  ".toList ++ name ++ [':'] ++ [' '] ++ (value ++ [';']) ++ ['\n'] := by
  simp only [propertyLine, List.append_assoc]
  rfl

/-- Where a value turns into another one, so does the line of a property with this value. -/
theorem turns_propertyLine {find : Text → Option (Text × Nat)} {name v w : Text}
    (hname : Turns find ("  ".toList ++ name ++ [':']) ("  ".toList ++ name ++ [':']))
    (hspace : Turns find [' '] [' ']) (hvalue : Turns find (v ++ [';']) (w ++ [';']))
    (hend : Turns find ['\n'] ['\n']) :
    Turns find (propertyLine name v) (propertyLine name w) := by
  rw [propertyLine_eq, propertyLine_eq]
  exact ((hname.append hspace).append hvalue).append hend

/-- A rule with its properties and their values. -/
structure Block where
  selector : Text
  properties : List (Text × Text)
deriving DecidableEq, Repr

namespace Block

/-- The rule in the compiler's layout. -/
def text (b : Block) : Text :=
  b.selector ++ " \x7b\n".toList ++
    (b.properties.flatMap fun p => propertyLine p.1 p.2) ++ "\x7d\n".toList

/-- The properties with `gap` before each and `tail` after the last. -/
def content (gap tail : Text) (properties : List (Text × Text)) : Text :=
  (properties.flatMap fun p => gap ++ p.1 ++ ": ".toList ++ p.2 ++ [';']) ++ tail

/-- The rule with other white space around the properties. -/
def source (gap tail : Text) (b : Block) : Text :=
  b.selector ++ " \x7b".toList ++ content gap tail b.properties ++ "\x7d\n".toList

/-- The rule with other values. -/
def mapValues (f : Text → Text) (b : Block) : Block :=
  ⟨b.selector, b.properties.map fun p => (p.1, f p.2)⟩

/-- The rule can be read back from what it is written as. -/
structure IsReadable (b : Block) : Prop where
  selector : IsToken b.selector
  property : ∀ p ∈ b.properties, IsToken p.1 ∧ ':' ∉ p.1
  value : ∀ p ∈ b.properties, IsToken p.2

theorem text_eq_source (b : Block) : b.text = b.source "\n  ".toList "\n".toList := by
  have shift : ∀ ps : List (Text × Text), ['\n'] ++ ps.flatMap (fun p => propertyLine p.1 p.2) =
      content "\n  ".toList "\n".toList ps := by
    intro ps
    induction ps with
    | nil => rfl
    | cons p ps ih =>
      have hline : ['\n'] ++ propertyLine p.1 p.2 =
          "\n  ".toList ++ p.1 ++ ": ".toList ++ p.2 ++ [';'] ++ ['\n'] := by
        simp only [propertyLine, List.append_assoc]
        rfl
      rw [List.flatMap_cons, ← List.append_assoc, hline, List.append_assoc _ ['\n'], ih]
      simp only [content, List.flatMap_cons, List.append_assoc]
  have hbrace : " \x7b\n".toList = " \x7b".toList ++ ['\n'] := by decide
  rw [text, source, ← shift, hbrace]
  simp only [List.append_assoc]

theorem splitOn_content {gap tail : Text} (hgap : ';' ∉ gap) (htail : ';' ∉ tail)
    {ps : List (Text × Text)} (hps : ∀ p ∈ ps, ';' ∉ p.1 ∧ ';' ∉ p.2) :
    Text.splitOn ';' (content gap tail ps) =
      (ps.map fun p => gap ++ p.1 ++ ": ".toList ++ p.2) ++ [tail] := by
  induction ps with
  | nil => exact splitOn_of_not_mem htail
  | cons p ps ih =>
    obtain ⟨⟨hp₁, hp₂⟩, hps⟩ := List.forall_mem_cons.mp hps
    have hcolon : ';' ∉ ": ".toList := by decide
    have hpart : ';' ∉ gap ++ p.1 ++ ": ".toList ++ p.2 := by
      simp only [List.mem_append, not_or]
      exact ⟨⟨⟨hgap, hp₁⟩, hcolon⟩, hp₂⟩
    have hcons : content gap tail (p :: ps) =
        (gap ++ p.1 ++ ": ".toList ++ p.2) ++ ';' :: content gap tail ps := by
      simp only [content, List.flatMap_cons, List.append_assoc, List.singleton_append]
      rfl
    rw [hcons, splitOn_append_cons hpart, ih hps]
    rfl

/-- The properties that are put together are those that are read. -/
theorem properties_content {gap tail : Text} (hgap : Text.IsBlank gap) (htail : Text.IsBlank tail)
    {ps : List (Text × Text)} (hname : ∀ p ∈ ps, IsToken p.1 ∧ ':' ∉ p.1)
    (hvalue : ∀ p ∈ ps, IsToken p.2) (selector : Text) :
    Rule.properties ⟨selector, content gap tail ps⟩ = .ok ps := by
  have hsemi : Text.isBlank ';' = false := by decide
  have hsplit := splitOn_content (hgap.not_mem hsemi) (htail.not_mem hsemi)
    fun p hp => ⟨(hname p hp).1.not_mem _ (by decide), (hvalue p hp).not_mem _ (by decide)⟩
  have htrim : ∀ p ∈ ps, Text.trim (gap ++ p.1 ++ ": ".toList ++ p.2) =
      p.1 ++ ": ".toList ++ p.2 := by
    intro p hp
    have htight := (isTight_of_trim (hname p hp).1.trimmed).append_append (hname p hp).1.ne_nil
      ": ".toList (isTight_of_trim (hvalue p hp).trimmed) (hvalue p hp).ne_nil
    have h := trim_append_append hgap .nil htight
    rwa [List.append_nil, ← List.append_assoc, ← List.append_assoc] at h
  have hparts : ((Text.splitOn ';' (content gap tail ps)).map Text.trim).filter
      (fun part => !part.isEmpty) = ps.map fun p => p.1 ++ ": ".toList ++ p.2 := by
    rw [hsplit, List.map_append, List.map_map, List.map_singleton, trim_blank htail,
      List.filter_append, List.filter_eq_self.mpr]
    · rw [List.map_congr_left (f := Text.trim ∘ _) htrim]
      exact List.append_nil _
    · intro part hpart
      obtain ⟨p, hp, rfl⟩ := List.mem_map.mp hpart
      rw [Function.comp_apply, htrim p hp]
      simp [(hname p hp).1.ne_nil]
  rw [Rule.properties, hparts, mapM_map_eq_ok (h := id), List.map_id]
  intro p hp
  have hcut : Text.cut? ':' (p.1 ++ ": ".toList ++ p.2) = some (p.1, " ".toList ++ p.2) := by
    rw [List.append_assoc]
    exact cut?_append_cons (hname p hp).2 _
  have hvalue' : Text.trim (" ".toList ++ p.2) = p.2 := by
    have h := trim_append_append (a := " ".toList) (by decide) .nil
      (isTight_of_trim (hvalue p hp).trimmed)
    rwa [List.append_nil] at h
  simp only [hcut, hvalue', (hname p hp).1.trimmed, id]

/-- A rule that is read is written in the compiler's layout. -/
theorem css_source {gap tail pre : Text} (hgap : Text.IsBlank gap) (htail : Text.IsBlank tail)
    (hpre : Text.IsBlank pre) {b : Block} (hb : b.IsReadable) (declared : Dict Text) :
    Rule.css declared ⟨pre ++ b.selector ++ " ".toList, content gap tail b.properties⟩ =
      .ok (b.mapValues (evaluate declared)).text := by
  have hselector : Text.trim (pre ++ b.selector ++ " ".toList) = b.selector :=
    trim_append_append hpre (by decide) (isTight_of_trim hb.selector.trimmed)
  rw [Rule.css, properties_content hgap htail hb.property hb.value]
  simp only [Except.map, hselector, text, mapValues, List.flatMap_map]

theorem not_mem_content {gap tail : Text} {c : Char} (hgap : c ∉ gap) (htail : c ∉ tail)
    (hc : c ∉ ": ;".toList) {ps : List (Text × Text)} (hps : ∀ p ∈ ps, c ∉ p.1 ∧ c ∉ p.2) :
    c ∉ content gap tail ps := by
  have hc' : c ∉ ": ".toList ∧ c ∉ [';'] := by simp_all
  simp only [content, List.mem_append, List.mem_flatMap, not_or, not_exists, not_and]
  exact ⟨fun p hp => ⟨⟨⟨⟨hgap, (hps p hp).1⟩, hc'.1⟩, (hps p hp).2⟩, hc'.2⟩, htail⟩

end Block

open Block in
/-- **What the rules of a source are written as:** one after the other, each in the compiler's
layout, with their values evaluated. -/
theorem mapM_css_rulesFrom {gap tail post : Text} (hgap : Text.IsBlank gap)
    (htail : Text.IsBlank tail) (hpost : Text.IsBlank post) (declared : Dict Text)
    {bs : List Block} (hbs : ∀ b ∈ bs, b.IsReadable) {acc : Text} (hacc : Text.IsBlank acc) :
    (rulesFrom (.outside acc) (bs.flatMap (source gap tail) ++ post)).mapM (Rule.css declared) =
      .ok (bs.map fun b => (b.mapValues (evaluate declared)).text) := by
  have hopen : Text.isBlank '\x7b' = false := by decide
  have hclose : Text.isBlank '\x7d' = false := by decide
  induction bs generalizing acc with
  | nil =>
    have hnone := rulesFrom_outside (hpost.not_mem hopen) (hpost.not_mem hclose)
      acc []
    rw [List.append_nil, rulesFrom] at hnone
    rw [List.flatMap_nil, List.nil_append, hnone]
    rfl
  | cons b bs ih =>
    obtain ⟨hb, hbs⟩ := List.forall_mem_cons.mp hbs
    have hblank : Text.IsBlank ['\n'] := by decide
    have hline : ∀ c ∈ "\x7b\x7d".toList, c ∉ b.selector ++ " ".toList := by
      intro c hc
      have hc' : c ∉ " ".toList ∧ c ∈ "\n\x7b\x7d;".toList := by
        revert c
        decide
      simp only [List.mem_append, not_or]
      exact ⟨hb.selector.not_mem c hc'.2, hc'.1⟩
    have hcontent : ∀ c ∈ "\x7b\x7d".toList, c ∉ content gap tail b.properties := by
      intro c hc
      have hc' : Text.isBlank c = false ∧ c ∉ ": ;".toList ∧ c ∈ "\n\x7b\x7d;".toList := by
        revert c
        decide
      exact not_mem_content (hgap.not_mem hc'.1) (htail.not_mem hc'.1) hc'.2.1
        fun p hp => ⟨(hb.property p hp).1.not_mem c hc'.2.2, (hb.value p hp).not_mem c hc'.2.2⟩
    have hsource : (b :: bs).flatMap (source gap tail) ++ post =
        (b.selector ++ " ".toList) ++ '\x7b' :: (content gap tail b.properties ++
          '\x7d' :: (['\n'] ++ (bs.flatMap (source gap tail) ++ post))) := by
      simp only [source, List.flatMap_cons, List.append_assoc]
      rfl
    rw [hsource, rulesFrom_rule (by simp [hb.selector.ne_nil]) (hline _ (by decide))
      (hline _ (by decide)) (hcontent _ (by decide)) (hcontent _ (by decide)),
      rulesFrom_outside (by decide) (by decide), List.mapM_cons, ← List.append_assoc,
      css_source hgap htail (fun c hc => hacc c (List.mem_reverse.mp hc)) hb, ih hbs (by decide)]
    rfl

theorem flatMap_body_blank {ls : List Line} (h : ∀ line ∈ ls, Text.IsBlank line.body) :
    Text.IsBlank (ls.flatMap Line.body) := by
  intro c hc
  obtain ⟨line, hline, hm⟩ := List.mem_flatMap.mp hc
  exact h line hline c hm

open Block in
/-- **What a source with rules in it compiles to,** when nothing around the rules is part of a rule:
the rules with their values evaluated by what is declared anywhere in it. -/
theorem compile_eq_of_blocks {before middle after : Text} {ls ms ns : List Line}
    (hbefore : Reads before ls) (hmiddle : Reads middle ms) (hafter : Reads after ns)
    (hls : ∀ line ∈ ls, Text.IsBlank line.body) (hns : ∀ line ∈ ns, Text.IsBlank line.body)
    {gap tail : Text} (hgap : Text.IsBlank gap) (htail : Text.IsBlank tail) {bs : List Block}
    (hms : ms.flatMap Line.body = bs.flatMap (source gap tail)) (hbs : ∀ b ∈ bs, b.IsReadable)
    (hbraces : (before ++ middle ++ after).count '\x7b' = (before ++ middle ++ after).count '\x7d')
    (fs : FileSystem) (includes : List Path) :
    compile fs (before ++ middle ++ after) includes =
      .ok (bs.flatMap fun b => (b.mapValues
        (evaluate (Dict.ofList ((ls ++ ms ++ ns).filterMap Line.declared?)))).text) := by
  have hpre := flatMap_body_blank hls
  have hpost := flatMap_body_blank hns
  have hrules : rules ((ls ++ ms ++ ns).flatMap Line.body) =
      rulesFrom (.outside ((ls.flatMap Line.body).reverse ++ []))
        (bs.flatMap (source gap tail) ++ ns.flatMap Line.body) := by
    rw [List.flatMap_append, List.flatMap_append, hms, List.append_assoc, rules,
      rulesFrom_outside (hpre.not_mem (by decide)) (hpre.not_mem (by decide))]
  rw [((hbefore.append hmiddle).append hafter).compile_eq hbraces fs includes, hrules,
    mapM_css_rulesFrom hgap htail hpost _ hbs]
  · rw [Except.map, List.flatMap_def]
  · intro c hc
    simp only [List.append_nil, List.mem_reverse] at hc
    exact hpre c hc

/-! ### Blocks as lines -/

/-- A token that is read as nothing else: no comment starts with it, and there is no sign of a
reference, a palette call or a hack in it. -/
structure IsBare (t : Text) : Prop extends IsToken t where
  not_comment : ¬ "//".toList <+: t
  unsigned : ∀ c ∈ "@`\\".toList, c ∉ t

/-- What starts with neither a comment nor a reference is part of a rule. -/
theorem Line.of_plain {indent rest : Text} {c : Char} (hindent : Text.IsBlank indent)
    (hc : Text.isBlank c = false) (hat : c ≠ '@') (hcomment : ¬ "//".toList <+: c :: rest) :
    Line.of (indent ++ c :: rest) = .plain (indent ++ c :: rest) := by
  have htrim : Text.trimStart (indent ++ c :: rest) = c :: rest := by
    rw [Text.trimStart_append hindent, trimStart_cons hc]
  have hname : name? (c :: rest) = none := by
    unfold name?
    split
    · rename_i heq
      exact absurd (List.cons.inj heq).1 hat
    · rfl
  have hdeclaration : declaration? (indent ++ c :: rest) = none := by
    rw [declaration?, htrim, hname]
    rfl
  rw [Line.of, htrim, if_neg (fun h => hcomment (startsWith_iff.mp h)), hdeclaration]

/-- A bare token on a line of a rule, with white space before it and a mark after it. -/
theorem reads_bare {indent t rest rest' : Text} {mark : Char} (hindent : Text.IsBlank indent)
    (hi : '\n' ∉ indent) (ht : IsBare t) (hmark : mark ∉ "/@\n\r".toList)
    (hn : '\n' ∉ rest) (hn' : '\n' ∉ rest') (hlast : rest'.getLast? ≠ some '\r')
    (hturn : Turns paletteFind (indent ++ t ++ mark :: rest ++ ['\n'])
      (indent ++ t ++ mark :: rest' ++ ['\n'])) :
    Reads (indent ++ t ++ mark :: rest ++ ['\n']) [.plain (indent ++ t ++ mark :: rest')] := by
  obtain ⟨c, s, hcs, hc⟩ := (isTight_of_trim ht.trimmed).exists_cons ht.ne_nil
  have hct : c ∈ t := by simp [hcs]
  have hmark' : mark ≠ '/' ∧ mark ≠ '@' ∧ mark ≠ '\n' ∧ mark ≠ '\r' := by simp_all
  have hline : ∀ r, '\n' ∉ r → '\n' ∉ indent ++ t ++ mark :: r := by
    intro r hr
    have ht' := ht.not_mem '\n' (by decide)
    simp [hi, ht', hr, hmark'.2.2.1.symm]
  have himport : ∀ r, statement? (indent ++ t ++ mark :: rest ++ '\n' :: r) = none := by
    intro r
    have hat : '@' ∉ indent ++ t := by
      have hat' := hindent.not_mem (c := '@') (by decide)
      simp [hat', ht.unsigned '@' (by decide)]
    have hgap : Import.isLineBlank c = false := by
      refine Bool.eq_false_iff.mpr fun h => ?_
      have hspace : c = ' ' ∨ c = '\t' := by simpa [Import.isLineBlank] using h
      rcases hspace with rfl | rfl <;> exact absurd hc (by decide)
    rw [List.append_assoc]
    exact statement?_eq_none hat ⟨c, List.mem_append_right _ hct, hgap⟩ _
  have hchomp : chomp (indent ++ t ++ mark :: rest') = indent ++ t ++ mark :: rest' := by
    refine chomp_of_getLast?_ne ?_
    rw [List.getLast?_append, List.getLast?_cons]
    cases hr : rest'.getLast? with
    | none => simpa using hmark'.2.2.2
    | some d => simpa [hr] using hlast
  have hcat : c ≠ '@' := by
    rintro rfl
    exact ht.unsigned '@' (by decide) hct
  have hcomment : ¬ "//".toList <+: c :: (s ++ mark :: rest') := by
    intro h
    rw [← List.cons_append, ← hcs] at h
    exact ht.not_comment (prefix_of_prefix_append_cons (by simpa using hmark'.1) h)
  have hof := Line.of_plain hindent hc hcat hcomment
  rw [← List.cons_append, ← hcs, ← List.append_assoc] at hof
  have hreads := Reads.line (hline rest hn) (hline rest' hn') himport hturn
  rwa [hchomp, hof] at hreads

namespace Block

/-- A property as a line. -/
def row (p : Text × Text) : Text := "  ".toList ++ p.1 ++ ": ".toList ++ p.2 ++ [';']

/-- The selector, the properties and the values are bare, and no property has a colon. -/
structure IsFlat (b : Block) : Prop where
  selector : IsBare b.selector
  property : ∀ p ∈ b.properties, IsBare p.1 ∧ ':' ∉ p.1
  value : ∀ p ∈ b.properties, IsBare p.2

/-- The lines of the rule. -/
def lines (b : Block) : List Text :=
  (b.selector ++ " \x7b".toList) :: b.properties.map row ++ ["\x7d".toList]

theorem flatMap_lines (b : Block) : b.lines.flatMap (· ++ ['\n']) = b.text := by
  have hrow : ∀ p : Text × Text, row p ++ ['\n'] = propertyLine p.1 p.2 := by
    intro p
    simp only [row, propertyLine, List.append_assoc]
    rfl
  have hopen : " \x7b\n".toList = " \x7b".toList ++ ['\n'] := by decide
  simp only [lines, text, List.flatMap_cons, List.flatMap_append, List.flatMap_map, hrow, hopen,
    List.flatMap_nil, List.append_assoc]
  rfl

/-- A rule is made of its parts and of the compiler's layout. -/
theorem not_mem_text {b : Block} {c : Char} (hc : c ∉ " \x7b\n:;\x7d".toList)
    (hselector : c ∉ b.selector) (hps : ∀ p ∈ b.properties, c ∉ p.1 ∧ c ∉ p.2) : c ∉ b.text := by
  have hlayout : ∀ t ∈ [" \x7b\n".toList, "  ".toList, ": ".toList, ";\n".toList,
      "\x7d\n".toList], ∀ d ∈ t, d ∈ " \x7b\n:;\x7d".toList := by decide
  have hpart : ∀ t ∈ [" \x7b\n".toList, "  ".toList, ": ".toList, ";\n".toList,
      "\x7d\n".toList], c ∉ t := fun t ht hm => hc (hlayout t ht c hm)
  simp only [text, propertyLine, List.mem_append, List.mem_flatMap, not_or, not_exists, not_and]
  refine ⟨⟨⟨hselector, hpart _ (by simp)⟩, fun p hp => ?_⟩, hpart _ (by simp)⟩
  exact ⟨⟨⟨⟨hpart _ (by simp), (hps p hp).1⟩, hpart _ (by simp)⟩, (hps p hp).2⟩, hpart _ (by simp)⟩

theorem mapValues_mapValues (f g : Text → Text) (b : Block) :
    (b.mapValues f).mapValues g = b.mapValues fun v => g (f v) := by
  simp only [mapValues, List.map_map, Function.comp_def]

theorem mapValues_congr {f g : Text → Text} {b : Block} (h : ∀ p ∈ b.properties, f p.2 = g p.2) :
    b.mapValues f = b.mapValues g := by
  have hmap : b.properties.map (fun p => (p.1, f p.2)) = b.properties.map fun p => (p.1, g p.2) :=
    List.map_congr_left fun p hp => by rw [h p hp]
  rw [mapValues, mapValues, hmap]

theorem mapValues_id (b : Block) : b.mapValues id = b := by
  simp only [mapValues, id_eq, List.map_id']

/-- Where the lines of a rule turn into lines with other values, the rule turns into the rule with
these values. -/
theorem turns_text {find : Text → Option (Text × Nat)} {b : Block} {f g : Text → Text}
    (hselector : Turns find (b.selector ++ " \x7b\n".toList) (b.selector ++ " \x7b\n".toList))
    (hrow : ∀ p ∈ b.properties,
      Turns find (propertyLine p.1 (f p.2)) (propertyLine p.1 (g p.2)))
    (hclose : Turns find "\x7d\n".toList "\x7d\n".toList) :
    Turns find (b.mapValues f).text (b.mapValues g).text := by
  simp only [text, mapValues, List.flatMap_map]
  exact (hselector.append (Turns.flatMap hrow)).append hclose

/-- What the palette calls of a value turn it into, if no other backtick stands before it. -/
def TurnsValue (v w : Text) : Prop :=
  ∀ q, '`' ∉ q → Turns paletteFind (q ++ v ++ [';']) (q ++ w ++ [';'])

theorem reads_close : Reads ("\x7d".toList ++ ['\n']) [.plain "\x7d".toList] := by
  have hof : Line.of ([] ++ "\x7d".toList) = .plain ([] ++ "\x7d".toList) :=
    Line.of_plain .nil (by decide) (by decide) (by decide)
  have himport : ∀ rest, statement? ("\x7d".toList ++ '\n' :: rest) = none :=
    fun rest => statement?_eq_none (by decide) (by decide) _
  have hreads := Reads.line (l := "\x7d".toList) (by decide) (by decide) himport
    (turns_palette (c := '`') (by decide) (by decide) (by decide))
  rwa [show chomp "\x7d".toList = [] ++ "\x7d".toList by decide, hof] at hreads

/-- **The lines that a rule is read as,** if its selector and its properties are bare, and palette
calls turn its values into others. -/
theorem reads {b : Block} {f g : Text → Text} (hselector : IsBare b.selector)
    (hname : ∀ p ∈ b.properties, IsBare p.1 ∧ ':' ∉ p.1)
    (hvalue : ∀ p ∈ b.properties, '\n' ∉ f p.2 ∧ '\n' ∉ g p.2 ∧ TurnsValue (f p.2) (g p.2)) :
    Reads (b.mapValues f).text ((b.mapValues g).lines.map .plain) := by
  have hfirst : Reads (b.selector ++ " \x7b".toList ++ ['\n'])
      [.plain (b.selector ++ " \x7b".toList)] := by
    have htick : '`' ∉ b.selector ++ " \x7b".toList := by
      simp only [List.mem_append, not_or]
      exact ⟨hselector.unsigned _ (by decide), by decide⟩
    have hline : [] ++ b.selector ++ ' ' :: ['\x7b'] = b.selector ++ " \x7b".toList := rfl
    have hturn := turns_palette (d := '\n') (by decide) (by decide) htick
    rw [← hline] at hturn ⊢
    exact reads_bare .nil (by decide) hselector (by decide) (by decide) (by decide)
      (by decide) hturn
  have hrow : ∀ p ∈ b.properties,
      Reads (row (p.1, f p.2) ++ ['\n']) [.plain (row (p.1, g p.2))] := by
    intro p hp
    obtain ⟨hf, hg, hturn⟩ := hvalue p hp
    have hrows : ∀ v : Text,
        row (p.1, v) = "  ".toList ++ p.1 ++ ':' :: (" ".toList ++ v ++ [';']) := by
      intro v
      simp only [row, List.append_assoc]
      rfl
    have hnew : ∀ v : Text, '\n' ∉ v → '\n' ∉ " ".toList ++ v ++ [';'] := by
      intro v hv
      simp only [List.mem_append, not_or]
      exact ⟨⟨by decide, hv⟩, by decide⟩
    have htick : '`' ∉ "  ".toList ++ p.1 ++ ": ".toList := by
      simp only [List.mem_append, not_or]
      exact ⟨⟨by decide, (hname p hp).1.unsigned _ (by decide)⟩, by decide⟩
    have hlast : (" ".toList ++ g p.2 ++ [';']).getLast? ≠ some '\r' := by
      rw [List.getLast?_concat]
      decide
    have hturn' := (hturn _ htick).append turns_palette_end
    simp only [row] at hturn' hrows ⊢
    rw [hrows, hrows] at hturn' ⊢
    exact reads_bare (by decide) (by decide) (hname p hp).1 (by decide) (hnew _ hf) (hnew _ hg)
      hlast hturn'
  have hall := (hfirst.append (Reads.flatMap hrow)).append reads_close
  rw [← List.map_eq_flatMap] at hall
  rw [← flatMap_lines]
  simpa only [lines, mapValues, List.flatMap_cons, List.flatMap_append, List.flatMap_map,
    List.flatMap_nil, List.map_cons, List.map_append, List.map_map, List.map_nil, List.append_nil,
    List.append_assoc, List.cons_append, List.nil_append, Function.comp_def] using hall

theorem count_text {b : Block} {f : Text → Text} (hselector : IsToken b.selector)
    (hname : ∀ p ∈ b.properties, IsToken p.1)
    (hvalue : ∀ p ∈ b.properties, (f p.2).count '\x7b' = (f p.2).count '\x7d') :
    (b.mapValues f).text.count '\x7b' = (b.mapValues f).text.count '\x7d' := by
  have none_of_token : ∀ t, IsToken t → t.count '\x7b' = 0 ∧ t.count '\x7d' = 0 := fun t ht =>
    ⟨List.count_eq_zero.mpr (ht.not_mem _ (by decide)),
      List.count_eq_zero.mpr (ht.not_mem _ (by decide))⟩
  have hrow : ∀ p ∈ b.properties, (propertyLine p.1 (f p.2)).count '\x7b' =
      (propertyLine p.1 (f p.2)).count '\x7d' := by
    intro p hp
    have hp₁ := none_of_token p.1 (hname p hp)
    simp only [propertyLine, List.count_append, hp₁, hvalue p hp]
    rfl
  have hrows : ∀ ps : List (Text × Text), (∀ p ∈ ps, p ∈ b.properties) →
      (ps.flatMap fun p => propertyLine p.1 (f p.2)).count '\x7b' =
        (ps.flatMap fun p => propertyLine p.1 (f p.2)).count '\x7d' := by
    intro ps hps
    induction ps with
    | nil => rfl
    | cons p ps ih =>
      obtain ⟨hp, hps⟩ := List.forall_mem_cons.mp hps
      simp only [List.flatMap_cons, List.count_append, hrow p hp, ih hps]
  have hs := none_of_token _ hselector
  simp only [text, mapValues, List.flatMap_map, List.count_append, hs, hrows _ fun _ h => h]
  have hopen : " \x7b\n".toList.count '\x7b' = 1 ∧ " \x7b\n".toList.count '\x7d' = 0 := by decide
  have hclose : "\x7d\n".toList.count '\x7b' = 0 ∧ "\x7d\n".toList.count '\x7d' = 1 := by decide
  omega

end Block

end Retint.Flat
