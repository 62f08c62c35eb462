import Retint.Proofs.Flat.Blocks
import Retint.Proofs.Theme.VariableText

/-!
# Sources of variable lines and rules

A source is put together of several texts, and of two declarations of a variable the later one
counts, whichever texts they are from. Where the texts are made of variable lines and of rules
without rules in them, each is read by itself: its declarations are those that it has alone, and its
rules are compiled to rules of their own.

## Main definitions

* `Theme.IsFlatSource` — the lines of a source of variable lines and rules, with what the rules are
* `Flat.declaredIn` — the variables that a source declares
* `Flat.IsBody` — what rules are read off a text, whatever comes after it

## Main results

* `Flat.Reads.get?_declaredIn` — a variable in a source that is put together
* `Theme.IsFlatSource.reads` — what a source is read as
* `Theme.IsFlatSource.isVariable_of_get?` — the names in its color map
* `Flat.exists_compiled_append` — what the rules of a source are compiled to, with another after it
-/

namespace Retint

open Text

namespace Text

/-- A text is blank, or its first character that is no white space is the start of what is left when
it is trimmed. -/
theorem isBlank_or_exists (t : Text) : IsBlank t ∨
    ∃ indent c rest, t = indent ++ c :: rest ∧ IsBlank indent ∧ isBlank c = false ∧
      trimStart t = c :: rest := by
  have hsplit : t.takeWhile isBlank ++ trimStart t = t := List.takeWhile_append_dropWhile
  have hall : IsBlank (t.takeWhile isBlank) := List.all_eq_true.mp List.all_takeWhile
  cases h : trimStart t with
  | nil =>
    rw [h, List.append_nil] at hsplit
    exact .inl (hsplit ▸ hall)
  | cons c rest =>
    refine .inr ⟨t.takeWhile isBlank, c, rest, ?_, hall, ?_, rfl⟩
    · rw [← h, hsplit]
    · have hhead := List.head?_dropWhile_not isBlank t
      have hstart : t.dropWhile isBlank = c :: rest := h
      rw [hstart] at hhead
      simpa using hhead

theorem prefix_chomp (t : Text) : chomp t <+: t := by
  unfold chomp
  split
  · exact List.dropLast_prefix t
  · exact List.prefix_rfl

end Text

namespace Flat

variable {t : Text} {ls : List Line}

/-! ### Variables -/

/-- The variables that a source declares, with their values. -/
def declaredIn (source : Text) : Dict Text := (Program.of (replacePalettes source)).declared

/-- A variable in a source that is put together: the declarations of the later part count. -/
theorem Reads.get?_declaredIn (h : Reads t ls) (rest name : Text) :
    (declaredIn (t ++ rest)).get? name =
      ((declaredIn rest).get? name).or ((declaredIn t).get? name) := by
  obtain ⟨t', hturn, hlines⟩ := h.lines
  have hwhole : replacePalettes (t ++ rest) = t' ++ replacePalettes rest := hturn rest
  have hpart : replacePalettes t = t' := hturn.replaceWith_eq
  have hown : readLines t' = ls := by
    have hall := hlines []
    rw [List.append_nil] at hall
    exact hall.trans (List.append_nil ls)
  have hdeclared : ∀ u, (Program.of u).declared =
      Dict.ofList ((readLines u).filterMap Line.declared?) := fun _ => rfl
  simp only [declaredIn, hdeclared, hwhole, hpart, hlines, hown, Dict.get?_ofList,
    List.filterMap_append, List.reverse_append, List.lookup_append]

/-! ### Rules -/

/-- A rule as it is written has the selector and the properties of a block, and no braces but its
own. -/
structure Rule.IsOf (r : Rule) (b : Block) : Prop where
  ne_nil : r.selector ≠ []
  selector : Text.trim r.selector = b.selector
  properties : r.properties = .ok b.properties
  not_mem : ∀ c ∈ "\x7b\x7d".toList, c ∉ r.selector ∧ c ∉ r.content

/-- Whatever white space is before a text and whatever comes after it, the rules that are read off
it are written as the blocks, with their values evaluated. -/
def IsBody (body : Text) (bs : List Block) : Prop :=
  ∀ acc, Text.IsBlank acc → ∃ rs acc', Text.IsBlank acc' ∧
    (∀ rest, rulesFrom (.outside acc) (body ++ rest) = rs ++ rulesFrom (.outside acc') rest) ∧
    ∀ declared, rs.mapM (Rule.css declared) =
      .ok (bs.map fun b => (b.mapValues (evaluate declared)).text)

variable {body more : Text} {bs cs : List Block}

theorem mapM_append_ok {α β ε : Type} {f : α → Except ε β} {l₁ l₂ : List α} {m₁ m₂ : List β}
    (h₁ : l₁.mapM f = .ok m₁) (h₂ : l₂.mapM f = .ok m₂) : (l₁ ++ l₂).mapM f = .ok (m₁ ++ m₂) := by
  rw [List.mapM_append, h₁, h₂]
  rfl

theorem IsBody.append (h : IsBody body bs) (h' : IsBody more cs) :
    IsBody (body ++ more) (bs ++ cs) := by
  intro acc hacc
  obtain ⟨rs, acc₁, hacc₁, hrs, hcss⟩ := h acc hacc
  obtain ⟨rs', acc₂, hacc₂, hrs', hcss'⟩ := h' acc₁ hacc₁
  refine ⟨rs ++ rs', acc₂, hacc₂, fun rest => ?_, fun declared => ?_⟩
  · rw [List.append_assoc, hrs, hrs', List.append_assoc]
  · rw [mapM_append_ok (hcss declared) (hcss' declared), List.map_append]

theorem IsBody.blank (h : Text.IsBlank body) : IsBody body [] := by
  intro acc hacc
  refine ⟨[], body.reverse ++ acc, ?_, fun rest => ?_, fun _ => rfl⟩
  · exact Text.IsBlank.append (fun c hc => h c (List.mem_reverse.mp hc)) hacc
  · exact rulesFrom_outside (h.not_mem (by decide)) (h.not_mem (by decide)) acc rest

theorem Rule.IsOf.css {r : Rule} {b : Block} (h : r.IsOf b) {pre : Text} (hpre : Text.IsBlank pre)
    (declared : Dict Text) : Rule.css declared ⟨pre ++ r.selector, r.content⟩ =
      .ok (b.mapValues (evaluate declared)).text := by
  have hselector : Text.trim (pre ++ r.selector) = b.selector := by
    rw [← h.selector, Text.trim, Text.trimStart_append hpre, Text.trim]
  have hproperties : Rule.properties ⟨pre ++ r.selector, r.content⟩ = .ok b.properties :=
    h.properties
  rw [Rule.css, hproperties]
  simp only [Except.map, hselector, Block.text, Block.mapValues, List.flatMap_map]

theorem IsBody.rule {r : Rule} {b : Block} (h : r.IsOf b) :
    IsBody (r.selector ++ '\x7b' :: (r.content ++ "\x7d\n".toList)) [b] := by
  intro acc hacc
  have hopen := h.not_mem '\x7b' (by decide)
  have hclose := h.not_mem '\x7d' (by decide)
  refine ⟨[⟨acc.reverse ++ r.selector, r.content⟩], ['\n'], by decide, fun rest => ?_,
    fun declared => ?_⟩
  · have hsplit : r.selector ++ '\x7b' :: (r.content ++ "\x7d\n".toList) ++ rest =
        r.selector ++ '\x7b' :: (r.content ++ '\x7d' :: (['\n'] ++ rest)) := by
      simp only [List.append_assoc, List.cons_append]
      rfl
    rw [hsplit, rulesFrom_rule h.ne_nil hopen.1 hclose.1 hopen.2 hclose.2,
      rulesFrom_outside (by decide) (by decide)]
    rfl
  · have hblank : Text.IsBlank acc.reverse := fun c hc => hacc c (List.mem_reverse.mp hc)
    rw [List.mapM_cons, h.css hblank]
    rfl

/-- **What the rules of a source are compiled to,** with another source after it: the blocks with
their values evaluated by what is declared anywhere in the two. -/
theorem exists_compiled_append (h : Reads t ls) (hbody : IsBody (ls.flatMap Line.body) bs)
    {rest css : Text} (hcss : compileInlined (t ++ rest) = .ok css) :
    ∃ after, css = (bs.flatMap fun b =>
      (b.mapValues (evaluate (declaredIn (t ++ rest)))).text) ++ after := by
  obtain ⟨t', hturn, hlines⟩ := h.lines
  obtain ⟨rs, acc, -, hrs, hcompiled⟩ := hbody [] .nil
  have hrules : rules (Program.of (replacePalettes (t ++ rest))).body = rs ++
      rulesFrom (.outside acc) ((readLines (replacePalettes rest)).flatMap Line.body) := by
    have hwhole : replacePalettes (t ++ rest) = t' ++ replacePalettes rest := hturn rest
    have hread : (Program.of (replacePalettes (t ++ rest))).body =
        (readLines (replacePalettes (t ++ rest))).flatMap Line.body := rfl
    rw [hread, hwhole, hlines, List.flatMap_append, rules, hrs]
  rw [compileInlined] at hcss
  split at hcss
  · cases hcss
  · simp only [hrules, List.mapM_append, hcompiled] at hcss
    cases hmore : (rulesFrom (.outside acc) ((readLines (replacePalettes rest)).flatMap
        Line.body)).mapM (Rule.css (Program.of (replacePalettes (t ++ rest))).declared) with
    | error f =>
      rw [hmore] at hcss
      cases hcss
    | ok texts =>
      rw [hmore] at hcss
      refine ⟨texts.flatten, (Except.ok.inj hcss).symm.trans ?_⟩
      rw [List.flatten_append, List.flatMap_def]
      rfl

end Flat

namespace Theme

open Flat

variable {l : Text} {ls : List Text} {bs : List Block}

/-! ### Lines of rules -/

/-- A line that is part of a rule: it starts with neither a reference nor a comment, and has no
palette call. -/
structure IsRuleLine (l : Text) : Prop where
  not_reference : (trimStart l).head? ≠ some '@'
  not_comment : ¬ "//".toList <+: trimStart l
  not_call : '`' ∉ l

theorem IsRuleLine.lineOf (h : IsRuleLine l) : Line.of (chomp l) = .plain (chomp l) := by
  rcases isBlank_or_exists l with hblank | ⟨indent, c, rest, rfl, hindent, hc, hstart⟩
  · have hstart := trimStart_blank hblank.chomp
    have hnone : declaration? (chomp l) = none := by simp [declaration?, hstart, name?]
    rw [Line.of, hstart, hnone]
    rfl
  · have hreference := h.not_reference
    have hcomment := h.not_comment
    rw [hstart] at hreference hcomment
    have hreturn : c ≠ '\r' := by
      rintro rfl
      exact absurd hc (by decide)
    rw [chomp_append_cons hreturn]
    refine Line.of_plain hindent hc (fun heq => hreference (by rw [heq]; rfl)) fun hled => ?_
    exact hcomment (hled.trans (List.prefix_cons_inj c |>.mpr (prefix_chomp rest)))

theorem IsRuleLine.statement?_eq_none (h : IsRuleLine l) (rest : Text) :
    statement? (l ++ '\n' :: rest) = none := by
  rcases isBlank_or_exists l with hblank | ⟨indent, c, r, rfl, hindent, hc, hstart⟩
  · rw [List.append_cons]
    have hat := hblank.not_mem (c := '@') (by decide)
    exact Flat.statement?_eq_none (by simp [hat]) ⟨'\n', by simp, by decide⟩ rest
  · have hreference := h.not_reference
    rw [hstart] at hreference
    have hat : '@' ∉ indent ++ [c] := by
      have hindent' := hindent.not_mem (c := '@') (by decide)
      have hne : c ≠ '@' := fun heq => hreference (by rw [heq]; rfl)
      simp [hindent', hne.symm]
    have hgap : Import.isLineBlank c = false := by
      refine Bool.eq_false_iff.mpr fun hb => ?_
      have hspace : c = ' ' ∨ c = '\t' := by simpa [Import.isLineBlank] using hb
      rcases hspace with rfl | rfl <;> exact absurd hc (by decide)
    have hsplit : indent ++ c :: r ++ '\n' :: rest = indent ++ [c] ++ (r ++ '\n' :: rest) := by simp
    rw [hsplit]
    exact Flat.statement?_eq_none hat ⟨c, by simp, hgap⟩ _

theorem IsRuleLine.reads (h : IsRuleLine l) (hl : '\n' ∉ l) :
    Reads (l ++ ['\n']) [.plain (chomp l)] := by
  have hreads := Reads.line hl hl h.statement?_eq_none
    (turns_palette (c := '`') (by decide) (by decide) h.not_call)
  rwa [h.lineOf] at hreads

/-! ### Sources -/

/-- The lines of a source, with the blocks of its rules: variable lines, and rules that start and
end with a line. -/
inductive IsFlatSource : List Text → List Block → Prop
  | nil : IsFlatSource [] []
  | line {l : Text} {d : Option Text} {ls : List Text} {bs : List Block} (h : IsVariableLine l d)
      (hls : IsFlatSource ls bs) : IsFlatSource (l :: ls) bs
  | rule {ks ls : List Text} {r : Flat.Rule} {b : Block} {bs : List Block} (hr : r.IsOf b)
      (hks : ∀ l ∈ ks, IsRuleLine l) (htext : ks.flatMap (fun l => chomp l ++ ['\n']) =
        r.selector ++ '\x7b' :: (r.content ++ "\x7d\n".toList))
      (hls : IsFlatSource ls bs) : IsFlatSource (ks ++ ls) (b :: bs)

/-- **What a source is read as:** lines from which the blocks of its rules are read. -/
theorem IsFlatSource.reads (h : IsFlatSource ls bs) (hls : ∀ l ∈ ls, '\n' ∉ l) :
    ∃ out, Reads (ls.flatMap (· ++ ['\n'])) out ∧ IsBody (out.flatMap Line.body) bs := by
  induction h with
  | nil => exact ⟨[], .nil, .blank .nil⟩
  | @line l d ls bs h _ ih =>
    obtain ⟨hl, hls⟩ := List.forall_mem_cons.mp hls
    obtain ⟨line, hline, hblank, -⟩ := h.reads hl
    obtain ⟨out, hout, hbody⟩ := ih hls
    exact ⟨line :: out, hline.append hout, (IsBody.blank hblank).append hbody⟩
  | @rule ks ls r b bs hr hks htext _ ih =>
    obtain ⟨hk, hls⟩ := List.forall_mem_append.mp hls
    obtain ⟨out, hout, hbody⟩ := ih hls
    have hrule : Reads (ks.flatMap (· ++ ['\n'])) (ks.flatMap fun l => [.plain (chomp l)]) :=
      Reads.flatMap fun l hl => (hks l hl).reads (hk l hl)
    refine ⟨(ks.flatMap fun l => [.plain (chomp l)]) ++ out, ?_, ?_⟩
    · rw [List.flatMap_append]
      exact hrule.append hout
    · have htext' : (ks.flatMap fun l => [Line.plain (chomp l)]).flatMap Line.body =
          r.selector ++ '\x7b' :: (r.content ++ "\x7d\n".toList) := by
        rw [← htext, List.flatMap_assoc]
        simp only [List.flatMap_cons, List.flatMap_nil, List.append_nil, Line.body]
      rw [List.flatMap_append, htext']
      exact (IsBody.rule hr).append hbody

theorem IsFlatSource.forall_mem (h : IsFlatSource ls bs) :
    ∀ l ∈ ls, (∃ d, IsVariableLine l d) ∨ IsRuleLine l := by
  induction h with
  | nil => nofun
  | line h _ ih => exact List.forall_mem_cons.mpr ⟨.inl ⟨_, h⟩, ih⟩
  | rule _ hks _ _ ih => exact List.forall_mem_append.mpr ⟨fun l hl => .inr (hks l hl), ih⟩

/-- **The names in the color map of a source** can be offered by a theme. -/
theorem IsFlatSource.isVariable_of_get? {isColor : Text → Bool} {content name color : Text}
    (h : IsFlatSource (splitOn '\n' content) bs)
    (hget : (ColorMap.ofText isColor content).get? name = some color) : IsVariable name := by
  refine mem_colors_foldl (P := IsVariable) (s := {}) (fun e he => absurd he List.not_mem_nil) ?_
    _ (Dict.mem_of_lookup hget)
  intro line hline decl hdecl
  obtain ⟨part, hpart, hchomp⟩ := mem_lines hline
  rcases h.forall_mem part hpart with ⟨d, hd⟩ | hrule
  · rcases hchomp with rfl | rfl
    · exact hd.isVariable hdecl
    · exact hd.chomp.isVariable hdecl
  · -- A line of a rule does not start with a name.
    obtain ⟨rest, hstart, -⟩ := exists_of_ofLine? hdecl
    have hled : '@' :: rest <+: part := by
      rcases hchomp with rfl | rfl
      · exact hstart ▸ List.prefix_rfl
      · exact hstart ▸ prefix_chomp part
    obtain ⟨u, hu⟩ := hled
    refine absurd ?_ hrule.not_reference
    rw [← hu, List.cons_append, trimStart_cons (by decide)]
    rfl

end Theme

end Retint
