import Retint.Proofs.Colors.Compiled
import Retint.Proofs.Flat.Blocks
import Retint.Proofs.Theme.VariableText

/-!
# Compiled probes

The probes of the theme variables are compiled along with a variable text, and the colors are read
off the result. What is read is known: the color of each variable as it was given, and for each
shade the color that its palette call comes to.

## Main definitions

* `Probe.Rule.color`, `Probe.Rule.block` — the color that a probe comes to, and its compiled rule
* `Probe.IsClear` — probes that can be read back
* `Theme.IsShade` — the names of shades, with the colors that their palette calls come to
* `Theme.found` — what is read off the probes of a list of entries

## Main results

* `Probe.compile_eq` — what probes compile to
* `ColorTable.ofCss_eq` — what is read off compiled probes
* `Theme.compile_probes` — the probes of a list of entries from their text to what is read
* `Theme.get?_found` — each entry is found with its own color
-/

namespace Retint

open Text Color Theme

namespace Theme

/-- A name that a theme can offer is marked. -/
theorem IsVariable.isMarked {name : Text} (h : IsVariable name) : Declaration.IsMarked name := by
  obtain ⟨n, rfl, hyphen, -⟩ := id h
  exact ⟨h.isName, .inl (List.mem_cons_of_mem _ hyphen)⟩

/-- A color stands for itself in a rule. -/
theorem isToken_of_isLiteral {color : Text} (h : IsLiteral color) : Flat.IsToken color := by
  refine ⟨h.ne_nil, h.isTight.trim_eq, fun c hc => h.not_mem ?_⟩
  revert c
  decide

end Theme

namespace Probe

/-! ### Probes as rules -/

/-- The color that a probe comes to. -/
def Rule.color (r : Rule) : Text := Flat.replacePalettes r.value

/-- The compiled probe. -/
def Rule.block (r : Rule) : Flat.Block := ⟨'.' :: r.selector, [("color".toList, r.color)]⟩

/-- A probe that can be read back: its class can be that of a variable, and its value is a color or
comes to one. -/
structure IsClear (r : Rule) : Prop where
  hyphen : '-' ∈ r.selector
  chars : ∀ c ∈ r.selector, isVariableChar c = true
  literal : IsLiteral r.color
  slash : '/' ∉ r.color
  turns : Flat.Block.TurnsValue r.value r.color
  line : '\n' ∉ r.value
  braces : r.value.count '\x7b' = r.value.count '\x7d'

variable {r : Rule} {rs : List Rule} {t name : Text} {names : List Text}

theorem IsClear.isBare (h : IsClear r) : Flat.IsBare ('.' :: r.selector) := by
  have htight : IsTight ('.' :: r.selector) := by
    refine ⟨fun c hc => ?_, fun c hc => ?_⟩
    · obtain rfl := Option.some.inj hc
      decide
    · rcases List.mem_cons.mp (List.mem_of_getLast? hc) with rfl | hm
      · decide
      · exact isBlank_of_isVariableChar (h.chars c hm)
  have hmem : ∀ c ∈ "\n\x7b\x7d;@`\\".toList, c ∉ '.' :: r.selector := by
    intro c hc
    have hc' : c ≠ '.' ∧ isVariableChar c = false := by
      revert c
      decide
    simp only [List.mem_cons, not_or]
    exact ⟨hc'.1, not_mem_of_forall h.chars hc'.2⟩
  refine ⟨⟨by simp, htight.trim_eq, fun c hc => hmem c ?_⟩, fun hled => ?_, fun c hc => hmem c ?_⟩
  · revert c
    decide
  · exact absurd (List.cons_prefix_cons.mp hled).1 (by decide)
  · revert c
    decide

theorem IsClear.isReadable (h : IsClear r) : r.block.IsReadable := by
  have hcolor : Flat.IsToken "color".toList ∧ ':' ∉ "color".toList :=
    ⟨⟨by decide, by decide, by decide⟩, by decide⟩
  refine ⟨h.isBare.toIsToken, fun p hp => ?_, fun p hp => ?_⟩
  · obtain rfl := List.mem_singleton.mp hp
    exact hcolor
  · obtain rfl := List.mem_singleton.mp hp
    exact isToken_of_isLiteral h.literal

/-- The compiled probe on one line. -/
theorem source_block (r : Rule) : r.block.source " ".toList " ".toList =
    '.' :: r.selector ++ ' ' :: ("\x7b color: ".toList ++ r.color ++ "; \x7d".toList) ++
      ['\n'] := by
  simp only [Rule.block, Flat.Block.source, Flat.Block.content, List.flatMap_cons, List.flatMap_nil,
    List.append_assoc, List.cons_append]
  rfl

/-- What a probe is read as. -/
theorem IsClear.reads (h : IsClear r) :
    ∃ line, Flat.Reads (r.text ++ ['\n']) [line] ∧
      line.body = r.block.source " ".toList " ".toList ∧
      line.declared? = none := by
  have htext : r.text = [] ++ '.' :: r.selector ++
      ' ' :: ("\x7b color: ".toList ++ r.value ++ "; \x7d".toList) := by
    simp only [Rule.text, List.append_assoc, List.nil_append, List.cons_append]
    rfl
  have hline : ∀ v : Text, '\n' ∉ v → '\n' ∉ "\x7b color: ".toList ++ v ++ "; \x7d".toList := by
    intro v hv
    simp only [List.mem_append, not_or]
    exact ⟨⟨by decide, hv⟩, by decide⟩
  have hcolor : '\n' ∉ r.color := h.literal.not_mem (by decide)
  have hlast : ("\x7b color: ".toList ++ r.color ++ "; \x7d".toList).getLast? ≠ some '\r' := by
    have hend : "; \x7d".toList = "; ".toList ++ ['\x7d'] := by decide
    rw [hend, ← List.append_assoc, List.getLast?_concat]
    decide
  have hturn : Turns Flat.paletteFind
      ([] ++ '.' :: r.selector ++ ' ' :: ("\x7b color: ".toList ++ r.value ++ "; \x7d".toList) ++
        ['\n'])
      ([] ++ '.' :: r.selector ++ ' ' :: ("\x7b color: ".toList ++ r.color ++ "; \x7d".toList) ++
        ['\n']) := by
    have htick : '`' ∉ '.' :: r.selector ++ " \x7b color: ".toList := by
      simp only [List.mem_append, not_or]
      exact ⟨h.isBare.unsigned _ (by decide), by decide⟩
    have hend : Turns Flat.paletteFind (" \x7d".toList ++ ['\n']) (" \x7d".toList ++ ['\n']) :=
      Flat.turns_palette (c := '`') (by decide) (by decide) (by decide)
    have hsplit : ∀ v : Text, [] ++ '.' :: r.selector ++ ' ' :: ("\x7b color: ".toList ++ v ++
        "; \x7d".toList) ++ ['\n'] = '.' :: r.selector ++ " \x7b color: ".toList ++ v ++ [';'] ++
        (" \x7d".toList ++ ['\n']) := by
      intro v
      simp only [List.append_assoc, List.nil_append, List.cons_append]
      rfl
    rw [hsplit, hsplit]
    exact (h.turns _ htick).append hend
  have hreads := Flat.reads_bare .nil (by decide) h.isBare (by decide) (hline _ h.line)
    (hline _ hcolor) hlast hturn
  refine ⟨_, htext ▸ hreads, ?_, rfl⟩
  rw [source_block]
  rfl

theorem reads_textOf (h : ∀ r ∈ rs, IsClear r) :
    ∃ ls, Flat.Reads (textOf rs) ls ∧
      ls.flatMap Flat.Line.body =
        (rs.map Rule.block).flatMap (Flat.Block.source " ".toList " ".toList) := by
  induction rs with
  | nil => exact ⟨[], .nil, rfl⟩
  | cons r rs ih =>
    obtain ⟨hr, hrs⟩ := List.forall_mem_cons.mp h
    obtain ⟨line, hline, hbody, -⟩ := hr.reads
    obtain ⟨ls, hls, hbodies⟩ := ih hrs
    refine ⟨line :: ls, hline.append hls, ?_⟩
    rw [List.flatMap_cons, hbody, hbodies, List.map_cons, List.flatMap_cons]

theorem count_textOf (h : ∀ r ∈ rs, IsClear r) :
    (textOf rs).count '\x7b' = (textOf rs).count '\x7d' := by
  induction rs with
  | nil => rfl
  | cons r rs ih =>
    obtain ⟨hr, hrs⟩ := List.forall_mem_cons.mp h
    have hselector : ∀ c ∈ "\x7b\x7d".toList, r.selector.count c = 0 := by
      intro c hc
      refine List.count_eq_zero.mpr (not_mem_of_forall hr.chars ?_)
      revert c
      decide
    have hopen : " \x7b color: ".toList.count '\x7b' = 1 ∧
        " \x7b color: ".toList.count '\x7d' = 0 := by
      decide
    have hclose : "; \x7d".toList.count '\x7b' = 0 ∧ "; \x7d".toList.count '\x7d' = 1 := by decide
    have hbraces := hr.braces
    have hrest := ih hrs
    have hselectors := And.intro (hselector '\x7b' (by decide)) (hselector '\x7d' (by decide))
    rw [textOf_cons, Rule.text]
    simp only [List.count_append, List.count_cons] at hbraces hrest hopen hclose ⊢
    simp only [hbraces, hrest, hopen, hclose, hselectors]
    simp
    omega

/-- **What probes compile to** after a variable text: one rule each, in the compiler's layout. -/
theorem compile_eq (h : ∀ r ∈ rs, IsClear r) (ht : IsVariableText names t)
    (fs : FileSystem) (includes : List Path) :
    Flat.compile fs (t ++ textOf rs) includes = .ok (rs.flatMap fun r => r.block.text) := by
  obtain ⟨ls, hls, hblank, -⟩ := ht.reads
  obtain ⟨ms, hms, hbody⟩ := reads_textOf h
  have hreadable : ∀ b ∈ rs.map Rule.block, b.IsReadable := by
    intro b hb
    obtain ⟨r, hr, rfl⟩ := List.mem_map.mp hb
    exact (h r hr).isReadable
  have hcount : (t ++ textOf rs ++ []).count '\x7b' = (t ++ textOf rs ++ []).count '\x7d' := by
    simp only [List.append_nil, List.count_append, ht.count, count_textOf h]
  have hcompile := Flat.compile_eq_of_blocks hls hms .nil hblank nofun (by decide) (by decide) hbody
    hreadable hcount fs includes
  rw [List.append_nil] at hcompile
  have hself : ∀ declared, ∀ r ∈ rs,
      (r.block.mapValues (Flat.evaluate declared)).text = r.block.text := by
    intro declared r hr
    have hcolor : '@' ∉ r.color := (h r hr).literal.not_mem (by decide)
    simp only [Rule.block, Flat.Block.mapValues, List.map_cons, List.map_nil,
      Flat.evaluate_eq_self hcolor]
  rw [hcompile, List.flatMap_map, List.flatMap_def, List.map_congr_left (hself _),
    ← List.flatMap_def]

end Probe

/-! ### Reading the colors -/

namespace ColorTable

open Probe

variable {r : Rule} {rs : List Rule} {css t : Text}

theorem isConcrete_of_isLiteral {color : Text} (h : IsLiteral color) : isConcrete color = true := by
  cases h with
  | hex h => rfl
  | rgba h => rfl

theorem text_block (r : Rule) : r.block.text = compiled r.selector r.color := by
  simp only [Rule.block, Flat.Block.text, Flat.propertyLine, compiled, List.flatMap_cons,
    List.flatMap_nil, List.append_assoc, List.cons_append]
  rfl

/-- The key of a clear probe is a marked name. -/
theorem isMarked_key_of_isClear (h : IsClear r) : Declaration.IsMarked r.key :=
  IsVariable.isMarked ⟨r.selector, rfl, h.hyphen, h.chars⟩

/-- A clear probe comes to what can be read back. -/
theorem isPlain_of_isClear (h : IsClear r) : (⟨[], r, r.color⟩ : Compiled).IsPlain where
  comments := nofun
  trim := h.literal.isTight.trim_eq
  line := h.literal.not_mem (by decide)
  slash := by
    rw [List.count_eq_zero.mpr h.slash]
    decide

/-- **What is read off compiled probes:** the color of each, under the name that its class has. -/
theorem ofCss_eq (h : ∀ r ∈ rs, IsClear r) :
    ofCss (rs.flatMap fun r => r.block.text) =
      Dict.ofList (rs.map fun r => ('@' :: r.selector, r.color)) := by
  have hps : ∀ p ∈ rs.map fun r => (⟨[], r, r.color⟩ : Compiled),
      Declaration.IsMarked p.rule.key ∧ p.IsPlain := by
    intro p hp
    obtain ⟨r, hr, rfl⟩ := List.mem_map.mp hp
    exact ⟨isMarked_key_of_isClear (h r hr), isPlain_of_isClear (h r hr)⟩
  have hnone : ∀ body ∈ ([] : List Text), '\n' ∉ body := nofun
  have hread := ofCss_flatMap_text hnone hps
  have hall : ∀ p ∈ rs.map fun r => (⟨[], r, r.color⟩ : Compiled),
      decide ("#".toList <+: p.value ∨ "rgba".toList <+: p.value) = true := by
    intro p hp
    obtain ⟨r, hr, rfl⟩ := List.mem_map.mp hp
    rw [← isConcrete_eq]
    exact isConcrete_of_isLiteral (h r hr).literal
  rw [List.filter_eq_self.mpr hall, List.flatMap_map, List.map_map] at hread
  simp only [text_block]
  simpa [Compiled.text, commentLines, Rule.key, Function.comp_def] using hread

end ColorTable

/-! ### The probes of the entries -/

namespace Theme

open Probe

variable {entries : List (Text × Text)} {e : Text × Text} {base : Text} {r : Rule} {i : Nat}

/-- The digits of the shades that are probed. -/
def shadeDigits : Text := "123457".toList

/-- The name of a shade, with the color that its palette call comes to. -/
structure IsShade (e : Text × Text) : Prop extends IsEntry e where
  call : ∃ bare digit, Shade.expression? e.1 = some (Flat.call bare [digit]) ∧
    (∀ c ∈ bare, isVariableChar c = true) ∧ digit ∈ shadeDigits ∧ e.2 = Flat.paletteColor [digit]

theorem mem_shadeDigits (hi : i ∈ Shade.indices) : Nat.digitChar i ∈ shadeDigits := by
  have hall : ∀ i ∈ Shade.indices, Nat.digitChar i ∈ shadeDigits := by decide
  exact hall i hi

/-- The palette call of a shade that is probed. -/
theorem exists_expression? (h : IsVariable base) (hi : i ∈ Shade.indices) :
    ∃ n bare digit, Shade.name base i = '@' :: n ∧ IsVariable ('@' :: n) ∧
      Shade.expression? ('@' :: n) = some (Flat.call bare [digit]) ∧
      (∀ c ∈ bare, isVariableChar c = true) ∧ digit ∈ shadeDigits := by
  have hmarked := h.isMarked
  obtain ⟨k, rfl, -, hk⟩ := h
  obtain ⟨m, hname, hchars⟩ := Shade.exists_name_eq (by decide) hk i
  rw [Nat.toDigits_of_lt_base (Shade.lt_ten hi)] at hname
  have hdigit := mem_shadeDigits hi
  have hdigits : ∀ d ∈ shadeDigits, isVariableChar d = true := by decide
  have hvariable : ∀ c ∈ m ++ ['-', Nat.digitChar i], isVariableChar c = true := by
    intro c hc
    rcases List.mem_append.mp hc with hc | hc
    · exact hchars c hc
    · rcases List.mem_cons.mp hc with rfl | hc
      · decide
      · rw [List.mem_singleton.mp hc]
        exact hdigits _ hdigit
  have hprimary : ∀ c ∈ Shade.primaryVariable.tail, isVariableChar c = true := by decide
  have hcall := Shade.expression?_name hmarked (Shade.lt_ten hi)
  have hform : ∀ bare digit, Shade.paletteCall bare digit = Flat.call bare [digit] := by
    intro bare digit
    rw [Shade.paletteCall_eq, Flat.call]
    simp only [List.append_assoc, List.singleton_append]
  rw [hname, hform] at hcall
  refine ⟨_, _, _, hname, ⟨_, rfl, by simp, hvariable⟩, hcall, ?_, hdigit⟩
  split
  · exact hprimary
  · exact hk

theorem turnsValue_of_not_mem {v : Text} (hv : '`' ∉ v) : Flat.Block.TurnsValue v v := by
  intro q hq
  refine Flat.turns_palette (c := '`') (by decide) (by decide) ?_
  simp only [List.mem_append, not_or]
  exact ⟨hq, hv⟩

/-- A palette call after something else in a value. -/
theorem turnsValue_call {u bare : Text} {digit : Char} (hu : '`' ∉ u)
    (hbare : ∀ c ∈ bare, isVariableChar c = true) (hdigit : digit ∈ shadeDigits) :
    Flat.Block.TurnsValue (u ++ Flat.call bare [digit]) (u ++ Flat.paletteColor [digit]) := by
  intro q hq
  have hdigits : ∀ d ∈ shadeDigits, Unicode.isDigit d = true := by decide
  have hqu : '`' ∉ q ++ u := by
    simp only [List.mem_append, not_or]
    exact ⟨hq, hu⟩
  have hcall := Flat.turns_palette_call hqu (not_mem_of_forall hbare (by decide))
    (List.cons_ne_nil digit []) (fun c hc => List.mem_singleton.mp hc ▸ hdigits digit hdigit)
  have hsemi : Turns Flat.paletteFind ([] ++ [';']) ([] ++ [';']) :=
    Flat.turns_palette (c := '`') (by decide) (by decide) (by decide)
  rw [← List.append_assoc q, ← List.append_assoc q]
  exact hcall.append hsemi

theorem isLiteral_paletteColor {digit : Char} (hdigit : digit ∈ shadeDigits) :
    IsLiteral (Flat.paletteColor [digit]) := by
  have hdigits : ∀ d ∈ shadeDigits, isHexDigit d = true := by decide
  have hform : Flat.paletteColor [digit] = '#' :: ['0', digit, '0', digit, '0', digit] := rfl
  rw [hform]
  refine .hex fun c hc => ?_
  simp only [List.mem_cons, List.not_mem_nil, or_false] at hc
  have hc' : c = '0' ∨ c = digit := by grind
  rcases hc' with rfl | rfl
  · decide
  · exact hdigits c hdigit

/-- The probe of an entry comes to its own color. -/
theorem isClear_of_entry (he : IsEntry e) (hslash : '/' ∉ e.2) :
    IsClear (Rule.of e.1 e.2) ∧
      ('@' :: (Rule.of e.1 e.2).selector, (Rule.of e.1 e.2).color) = e := by
  obtain ⟨⟨n, hn, hyphen, hchars⟩, hliteral⟩ := he
  have hselector : (Rule.of e.1 e.2).selector = n := by
    rw [hn]
    exact Declaration.dropChar_at (not_mem_of_forall hchars (by decide))
  have htick : '`' ∉ e.2 := hliteral.not_mem (by decide)
  have hcolor : (Rule.of e.1 e.2).color = e.2 := Flat.replacePalettes_eq_self htick
  have hbraces : e.2.count '\x7b' = e.2.count '\x7d' := by
    rw [List.count_eq_zero.mpr (hliteral.not_mem (by decide)),
      List.count_eq_zero.mpr (hliteral.not_mem (by decide))]
  refine ⟨⟨?_, ?_, ?_, ?_, ?_, hliteral.not_mem (by decide), hbraces⟩, ?_⟩
  · rwa [hselector]
  · rwa [hselector]
  · rwa [hcolor]
  · rwa [hcolor]
  · rw [hcolor]
    exact turnsValue_of_not_mem htick
  · rw [hselector, hcolor, ← hn]

/-- The probe of a shade comes to what its palette call comes to. -/
theorem isClear_of_shade (h : IsVariable base) (hr : r ∈ shadeRules base) :
    IsClear r ∧ IsShade ('@' :: r.selector, r.color) := by
  obtain ⟨i, hi, hrule⟩ := List.mem_filterMap.mp hr
  obtain ⟨n, bare, digit, hname, hvariable, hexpression, hbare, hdigit⟩ := exists_expression? h hi
  rw [hname, hexpression, Option.map_some] at hrule
  obtain rfl := Option.some.inj hrule
  obtain ⟨n', hn', hyphen, hchars⟩ := hvariable
  obtain rfl := (List.cons.inj hn').2
  have hselector : (Rule.of ('@' :: n) (Flat.call bare [digit])).selector = n :=
    Declaration.dropChar_at (not_mem_of_forall hchars (by decide))
  have hdigits : ∀ d ∈ shadeDigits, Unicode.isDigit d = true ∧
      ∀ c ∈ "/\n\x7b\x7d".toList, c ∉ [d] := by decide
  obtain ⟨hunicode, hmarks⟩ := hdigits digit hdigit
  have hturns := turnsValue_call (u := []) (by decide) hbare hdigit
  have hcalls := Flat.turns_palette_call (q := []) (by decide)
    (not_mem_of_forall hbare (by decide)) (List.cons_ne_nil digit [])
    (fun c hc => List.mem_singleton.mp hc ▸ hunicode)
  have hcolor : (Rule.of ('@' :: n) (Flat.call bare [digit])).color = Flat.paletteColor [digit] :=
    hcalls.replaceWith_eq
  have hslash : '/' ∉ Flat.paletteColor [digit] := by
    intro hm
    rcases Flat.mem_paletteColor hm with hm | hm
    · exact hmarks '/' (by decide) hm
    · exact absurd hm (by decide)
  have hline : '\n' ∉ Flat.call bare [digit] :=
    Flat.not_mem_call (by decide) (not_mem_of_forall hbare (by decide))
      (hmarks _ (by decide))
  have hbraces : (Flat.call bare [digit]).count '\x7b' = (Flat.call bare [digit]).count '\x7d' := by
    refine Flat.count_call (fun c hc => not_mem_of_forall hbare ?_) fun c hc => hmarks c ?_
    · revert c
      decide
    · revert c
      decide
  have hliteral := isLiteral_paletteColor hdigit
  refine ⟨⟨?_, ?_, ?_, ?_, ?_, hline, hbraces⟩, ⟨⟨?_, ?_⟩, ?_⟩⟩
  · rwa [hselector]
  · rwa [hselector]
  · rwa [hcolor]
  · rwa [hcolor]
  · rw [hcolor]
    exact hturns
  · rw [hselector]
    exact ⟨n, rfl, hyphen, hchars⟩
  · rwa [hcolor]
  · rw [hselector, hcolor]
    exact ⟨bare, digit, hexpression, hbare, hdigit, rfl⟩

/-- What a probe of the entries comes to is an entry or a shade. -/
theorem isClear_of_mem_rules (h : ∀ e ∈ entries, IsEntry e ∧ '/' ∉ e.2) (hr : r ∈ rules entries) :
    IsClear r ∧
      (('@' :: r.selector, r.color) ∈ entries ∨ IsShade ('@' :: r.selector, r.color)) := by
  rw [Probe.rules, List.mem_reverse, List.mem_append] at hr
  rcases hr with hr | hr
  · obtain ⟨e, he, rfl⟩ := List.mem_map.mp hr
    obtain ⟨hclear, heq⟩ := isClear_of_entry (h e he).1 (h e he).2
    rw [heq]
    exact ⟨hclear, .inl he⟩
  · obtain ⟨e, he, hr⟩ := List.mem_flatMap.mp hr
    obtain ⟨hclear, hshade⟩ := isClear_of_shade (h e he).1.name hr
    exact ⟨hclear, .inr hshade⟩

/-! ### What is found -/

/-- The colors that the probes of the entries come to. -/
def found (entries : List (Text × Text)) : ColorTable :=
  Dict.ofList ((rules entries).map fun r => ('@' :: r.selector, r.color))

/-- **From the text of the probes to what is read:** they compile, and the colors read off the
result are those that are found. -/
theorem compile_probes {variableText : Text}
    (hlines : ∀ l ∈ splitOn '\n' variableText, ∃ d, IsVariableLine l d)
    (h : ∀ e ∈ entries, IsEntry e ∧ '/' ∉ e.2) (fs : FileSystem) (includes : List Path) :
    ∃ css, Flat.compile fs (variableText ++ '\n' :: Probe.text entries) includes = .ok css ∧
      ColorTable.ofCss css = found entries := by
  have hclear : ∀ r ∈ rules entries, IsClear r := fun r hr => (isClear_of_mem_rules h hr).1
  refine ⟨(rules entries).flatMap fun r => r.block.text, ?_, ColorTable.ofCss_eq hclear⟩
  rw [List.append_cons]
  exact Probe.compile_eq hclear (isVariableText_of_splitOn hlines) fs includes

/-- What is found is an entry or a shade. -/
theorem mem_found (h : ∀ e ∈ entries, IsEntry e ∧ '/' ∉ e.2) (he : e ∈ (found entries).entries) :
    e ∈ entries ∨ IsShade e := by
  obtain ⟨r, hr, rfl⟩ := List.mem_map.mp (Dict.mem_ofList he)
  exact (isClear_of_mem_rules h hr).2

theorem isEntry_of_mem_found (h : ∀ e ∈ entries, IsEntry e ∧ '/' ∉ e.2)
    (he : e ∈ (found entries).entries) : IsEntry e :=
  (mem_found h he).elim (fun hm => (h e hm).1) IsShade.toIsEntry

/-- **Each entry is found with its own color,** since its probe is the last one. -/
theorem get?_found (h : ∀ e ∈ entries, IsEntry e ∧ '/' ∉ e.2)
    (hnames : (entries.map Prod.fst).Nodup) (he : e ∈ entries) :
    (found entries).get? e.1 = some e.2 := by
  have hown : (entries.map fun e => Rule.of e.1 e.2).map (fun r => ('@' :: r.selector, r.color)) =
      entries := by
    rw [List.map_map]
    exact (List.map_congr_left fun e he => (isClear_of_entry (h e he).1 (h e he).2).2).trans
      (List.map_id _)
  rw [found, Dict.get?_ofList, ← List.map_reverse, Probe.rules, List.reverse_reverse,
    List.map_append, hown, List.lookup_append, Dict.lookup_of_mem hnames he, Option.some_or]

end Theme

end Retint
