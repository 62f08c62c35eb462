import Retint.Proofs.ColorMap.Line
import Retint.Proofs.Colors.Recognizer
import Retint.Proofs.Theme.Restored

/-!
# Switching themes

The generated theme stands for the stylesheet that it was made from: compiled as it is, it gives
that stylesheet again, and compiled with other colors for its variables, it gives the stylesheet
with these colors in the places of the old ones.

Where a color is shared, the first name in the table stands for it. A shade keeps its color, because
the palette call that stands for it comes to the color that was read off its probe. A color that is
too long to be looked for stays as it is. A name that is too long keeps its older declaration, which
comes after the fresh one and so counts in its place; the names on offer are taken to be shorter.

## Main definitions

* `Theme.restored` — a value with the name or the palette call that stands for its color
* `Theme.recolored` — the color of an entry in another list of entries

## Main results

* `Theme.IsOffer.evaluate_settled` — what a restored value comes to
* `Theme.IsOffer.compile_parts` — what a theme compiles to, with any colors
* `Theme.switching_faithful` — the headline, from the probes to the theme with other colors
* `Theme.unswitched_long` — a name and a color that are too long for it
-/

namespace Retint.Theme

open Text Color Flat

variable {entries others : List (Text × Text)} {e : Text × Text} {u v w n : Text} {c : Char}

/-! ### Entries and shades -/

/-- The entries that a theme offers: names on offer that are no shades, none of them twice, with
colors that have no slash. -/
structure IsOffer (entries : List (Text × Text)) : Prop where
  entry : ∀ e ∈ entries, IsEntry e
  slash : ∀ e ∈ entries, '/' ∉ e.2
  nodup : (entries.map Prod.fst).Nodup
  shade : ∀ e ∈ entries, Shade.split? e.1 = none

theorem IsOffer.probes (h : IsOffer entries) : ∀ e ∈ entries, IsEntry e ∧ '/' ∉ e.2 :=
  fun e he => ⟨h.entry e he, h.slash e he⟩

/-- The table of an offer is plain. -/
theorem IsOffer.isPlain (h : IsOffer entries) : (found entries).IsPlain where
  literal := fun _ he => (isEntry_of_mem_found h.probes he).literal
  name := fun _ he => (isEntry_of_mem_found h.probes he).name.isMarked.isName

/-- What a color is shown as once the palette calls are replaced: a shade as its color, else as the
name. -/
def shown (e : Text × Text) : Text := if (Shade.expression? e.1).isSome then e.2 else e.1

/-- The color of an entry in another list of entries, if that has one for it. -/
def recolored (others : List (Text × Text)) (e : Text × Text) : Text :=
  (others.lookup e.1).getD e.2

/-- An entry of an offer, which its name stands for. -/
structure IsNamed (entries : List (Text × Text)) (e : Text × Text) (n : Text) : Prop where
  mem : e ∈ entries
  name : e.1 = '@' :: n
  hyphen : '-' ∈ n
  chars : ∀ c ∈ n, isVariableChar c = true
  replacement : ColorTable.replacement e.1 = '@' :: n
  shown : shown e = '@' :: n

/-- A shade, which a palette call stands for. -/
structure IsCalled (entries : List (Text × Text)) (e : Text × Text) (bare : Text) (digit : Char) :
    Prop where
  not_mem : e.1 ∉ entries.map Prod.fst
  chars : ∀ c ∈ bare, isVariableChar c = true
  digit_mem : digit ∈ shadeDigits
  color : e.2 = paletteColor [digit]
  replacement : ColorTable.replacement e.1 = call bare [digit]
  shown : shown e = e.2

/-- What stands for an entry of the table. -/
theorem IsOffer.named_or_called (h : IsOffer entries) (he : e ∈ (found entries).entries) :
    (∃ n, IsNamed entries e n) ∨ ∃ bare digit, IsCalled entries e bare digit := by
  rcases mem_found h.probes he with hm | hs
  · obtain ⟨n, hn, hyphen, hchars⟩ := (h.entry e hm).name
    have hnone : Shade.expression? e.1 = none := by rw [Shade.expression?, h.shade e hm]; rfl
    exact .inl ⟨n, hm, hn, hyphen, hchars, by rw [ColorTable.replacement, hnone, ← hn]; rfl,
      by rw [shown, hnone, ← hn]; rfl⟩
  · obtain ⟨bare, digit, hcall, hbare, hdigit, hcolor⟩ := hs.call
    refine .inr ⟨bare, digit, fun hm => ?_, hbare, hdigit, hcolor, ?_, ?_⟩
    · obtain ⟨e', he', heq⟩ := List.mem_map.mp hm
      rw [← heq, Shade.expression?, h.shade e' he'] at hcall
      cases hcall
    · rw [ColorTable.replacement, hcall, Option.getD_some]
    · rw [Theme.shown, hcall]
      rfl

/-! ### Restored values -/

/-- A value with the name or the palette call that stands for its color. -/
def restored (entries : List (Text × Text)) : Text → Text :=
  (found entries).searched.replaceEnd fun e => ColorTable.replacement e.1

/-- A restored value after its palette call is replaced. -/
def settled (entries : List (Text × Text)) : Text → Text :=
  (found entries).searched.replaceEnd shown

/-- What holds of a value without a color, of one with a name in the color's place, and of one with
a palette call there, holds of all restored values. -/
theorem IsOffer.restored_cases (h : IsOffer entries) {P : Text → Text → Text → Prop}
    (f : Text × Text → Text) (v : Text) (kept : P v v v)
    (named : ∀ u e n, v = u ++ e.2 → IsNamed entries e n →
      P (u ++ '@' :: n) (u ++ '@' :: n) (u ++ f e))
    (called : ∀ u e bare digit, v = u ++ e.2 → IsCalled entries e bare digit →
      P (u ++ call bare [digit]) v (u ++ f e)) :
    P (restored entries v) (settled entries v) ((found entries).searched.replaceEnd f v) := by
  rcases (found entries).searched.replaceEnd_cases v with hv | ⟨e, he, u, hu, hv⟩
  · rw [restored, settled, hv, hv, hv]
    exact kept
  · rw [restored, settled, hv, hv, hv]
    rcases h.named_or_called (ColorTable.mem_searched.mp he).1 with
      ⟨n, hn⟩ | ⟨bare, digit, hcalled⟩
    · rw [hn.replacement, hn.shown]
      exact named u e n hu hn
    · rw [hcalled.replacement, hcalled.shown, ← hu]
      exact called u e bare digit hu hcalled

theorem IsOffer.turnsValue (h : IsOffer entries) (hv : '`' ∉ v) :
    Block.TurnsValue (restored entries v) (settled entries v) := by
  refine h.restored_cases (P := fun r s _ => Block.TurnsValue r s) shown v
    (turnsValue_of_not_mem hv) (fun u e n hu hn => turnsValue_of_not_mem ?_)
    fun u e bare digit hu hcalled => ?_
  · have hname := not_mem_of_forall hn.chars (c := '`') (by decide)
    simp only [hu, List.mem_append, not_or] at hv
    simp [hv.1, hname]
  · simp only [hu, List.mem_append, not_or] at hv
    rw [hu, hcalled.color]
    exact turnsValue_call hv.1 hcalled.chars hcalled.digit_mem

/-- A restored value has no line feed and no backslash. -/
theorem IsOffer.not_mem_restored (h : IsOffer entries) (hc : c ∈ "\n\\".toList) (hv : c ∉ v) :
    c ∉ restored entries v := by
  have hsigns : ∀ c ∈ "\n\\".toList, isVariableChar c = false ∧ c ≠ '@' ∧
      c ∉ Shade.callLead ++ Shade.callMiddle ++ Shade.callTail ∧ c ∉ shadeDigits := by decide
  obtain ⟨hchar, hat, hcall, hdigit⟩ := hsigns c hc
  refine h.restored_cases (P := fun r _ _ => c ∉ r) shown v hv (fun u e n hu hn => ?_)
    fun u e bare digit hu hcalled => ?_
  · have hname := not_mem_of_forall hn.chars hchar
    simp only [hu, List.mem_append, not_or] at hv
    simp [hv.1, hat, hname]
  · simp only [hu, List.mem_append, not_or] at hv
    simp only [List.mem_append, not_or]
    refine ⟨hv.1, not_mem_call hcall (not_mem_of_forall hcalled.chars hchar) fun hm => ?_⟩
    rw [List.mem_singleton.mp hm] at hdigit
    exact hdigit hcalled.digit_mem

theorem IsOffer.count_restored (h : IsOffer entries) (hv : IsToken v) :
    (restored entries v).count '\x7b' = (restored entries v).count '\x7d' := by
  have hbrace : ∀ c ∈ "\x7b\x7d".toList, c ∈ "\n\x7b\x7d;".toList ∧ isVariableChar c = false ∧
      c ∉ ['@'] ∧ c ∉ shadeDigits := by decide
  have hvalue : ∀ c ∈ "\x7b\x7d".toList, c ∉ v := fun c hc => hv.not_mem c (hbrace c hc).1
  have zero_of : ∀ {t : Text}, (∀ c ∈ "\x7b\x7d".toList, c ∉ t) →
      t.count '\x7b' = t.count '\x7d' := by
    intro t ht
    rw [List.count_eq_zero.mpr (ht _ (by decide)), List.count_eq_zero.mpr (ht _ (by decide))]
  refine h.restored_cases (P := fun r _ _ => r.count '\x7b' = r.count '\x7d') shown v
    (zero_of hvalue) (fun u e n hu hn => zero_of fun c hc hm => ?_)
    fun u e bare digit hu hcalled => ?_
  · rcases List.mem_append.mp hm with hm | hm
    · exact hvalue c hc (hu ▸ List.mem_append_left _ hm)
    · rcases List.mem_cons.mp hm with rfl | hm
      · exact absurd hc (by decide)
      · exact not_mem_of_forall hn.chars (hbrace c hc).2.1 hm
  · have hcalls : (call bare [digit]).count '\x7b' = (call bare [digit]).count '\x7d' := by
      refine count_call (fun c hc => not_mem_of_forall hcalled.chars (hbrace c hc).2.1)
        fun c hc hm => (hbrace c hc).2.2.2 ?_
      rw [List.mem_singleton.mp hm]
      exact hcalled.digit_mem
    have hstart := zero_of fun c hc hm => hvalue c hc (hu ▸ List.mem_append_left _ hm)
    rw [List.count_append, List.count_append, hcalls, hstart]

/-- A text with another end is tight if it was and the end is. -/
theorem isTight_append {a : Text} (hv : IsTight (u ++ a)) (hw : IsTight w) (hne : w ≠ []) :
    IsTight (u ++ w) := by
  refine ⟨fun c hc => ?_, fun c hc => ?_⟩
  · cases u with
    | nil => exact hw.1 c hc
    | cons d u => exact hv.1 c hc
  · have hlast := List.getLast?_eq_some_getLast hne
    rw [List.getLast?_append, hlast, Option.some_or] at hc
    exact hw.2 c (hlast.trans hc)

theorem IsOffer.isToken_settled (h : IsOffer entries) (hv : IsToken v) :
    IsToken (settled entries v) := by
  refine h.restored_cases (P := fun _ s _ => IsToken s) shown v hv (fun u e n hu hn => ?_)
    fun _ _ _ _ _ _ => hv
  have htight : IsTight ('@' :: n) := by
    refine ⟨fun c hc => ?_, fun c hc => ?_⟩
    · obtain rfl := Option.some.inj hc
      decide
    · rcases List.mem_cons.mp (List.mem_of_getLast? hc) with rfl | hm
      · decide
      · exact isBlank_of_isVariableChar (hn.chars c hm)
  have hsigns : ∀ c ∈ "\n\x7b\x7d;".toList, isVariableChar c = false ∧ c ≠ '@' := by decide
  refine ⟨by simp, ?_, fun c hc hm => ?_⟩
  · exact (isTight_append (hu ▸ isTight_of_trim hv.trimmed) htight (by simp)).trim_eq
  · rcases List.mem_append.mp hm with hm | hm
    · exact hv.not_mem c hc (hu ▸ List.mem_append_left _ hm)
    · rcases List.mem_cons.mp hm with heq | hm
      · exact (hsigns c hc).2 heq
      · exact not_mem_of_forall hn.chars (hsigns c hc).1 hm

/-- What a restored value comes to, given what the variables are declared as. -/
theorem IsOffer.evaluate_settled (h : IsOffer entries) {declared : Dict Text}
    (hothers : ∀ e ∈ others, IsLiteral e.2) (hsame : others.map Prod.fst = entries.map Prod.fst)
    (hget : ∀ name ∈ entries.map Prod.fst, declared.get? name = others.lookup name)
    (hv : '@' ∉ v) : evaluate declared (settled entries v) =
      (found entries).searched.replaceEnd (recolored others) v := by
  refine h.restored_cases (P := fun _ s x => evaluate declared s = x) (recolored others) v
    (evaluate_eq_self hv) (fun u e n hu hn => ?_) fun u e bare digit hu hcalled => ?_
  · have hmem : e.1 ∈ entries.map Prod.fst := List.mem_map_of_mem hn.mem
    obtain ⟨color, hcolor⟩ : ∃ color, others.lookup e.1 = some color := by
      rw [← Option.ne_none_iff_exists', Ne, List.lookup_eq_none_iff]
      intro hnone
      rw [← hsame] at hmem
      obtain ⟨e', he', heq⟩ := List.mem_map.mp hmem
      exact absurd (hnone e' he') (by simp [heq])
    have hliteral := hothers _ (Dict.mem_of_lookup hcolor)
    have hname : ∀ c ∈ n, Flat.isNameChar c = true := fun c hc =>
      isNameChar_of_isVariableChar (hn.chars c hc)
    have hdeclared := hget e.1 hmem
    rw [hcolor, hn.name] at hdeclared
    simp only [hu, List.mem_append, not_or] at hv
    rw [recolored, hcolor, Option.getD_some, evaluate_reference hv.1
      (List.ne_nil_of_mem hn.hyphen) hname hdeclared (hliteral.not_mem (by decide))]
  · have hnone : others.lookup e.1 = none := by
      refine Dict.lookup_eq_none ?_
      rw [hsame]
      exact hcalled.not_mem
    rw [evaluate_eq_self hv, recolored, hnone, Option.getD_none, hu]

/-! ### Declarations in a restored stylesheet -/

/-- No declaration is found in a restored value. -/
theorem IsOffer.turns_strip_restored (h : IsOffer entries) (hv : '@' ∉ v)
    (hn : ∀ c ∈ n, isVariableChar c = true) :
    Turns (stripFind ('@' :: n)) (restored entries v ++ [';']) (restored entries v ++ [';']) := by
  have hstart := startsWith_stripFind n
  have hsigns : ∀ c ∈ ";:".toList, isVariableChar c = false ∧ c ≠ '@' ∧
      c ∉ Shade.callLead ++ Shade.callMiddle ++ Shade.callTail ∧ c ∉ shadeDigits := by decide
  have hname : ∀ c ∈ ";:".toList, c ∉ n := fun c hc =>
    not_mem_of_forall hn (hsigns c hc).1
  refine h.restored_cases (P := fun r _ _ => Turns (stripFind ('@' :: n)) (r ++ [';']) (r ++ [';']))
    shown v (hstart.turns ?_) (fun u e m hu hm => ?_) fun u e bare digit hu hcalled => ?_
  · simp [hv]
  · simp only [hu, List.mem_append, not_or] at hv
    rw [List.append_assoc]
    refine (hstart.turns hv.1).append (turns_strip_value (fun c hc hmem => ?_) hname)
    rcases List.mem_cons.mp hmem with heq | hmem
    · exact (hsigns c hc).2.1 heq
    · exact not_mem_of_forall hm.chars (hsigns c hc).1 hmem
  · simp only [hu, List.mem_append, not_or] at hv
    rw [List.append_assoc]
    refine (hstart.turns hv.1).append (turns_strip_value (fun c hc => ?_) hname)
    obtain ⟨hchar, -, hcall, hdigit⟩ := hsigns c hc
    refine not_mem_call hcall (not_mem_of_forall hcalled.chars hchar) fun hmem => hdigit ?_
    rw [List.mem_singleton.mp hmem]
    exact hcalled.digit_mem

/-- No declaration is found in a restored rule. -/
theorem IsOffer.turns_strip_block (h : IsOffer entries) {b : Block} (hb : b.IsFlat)
    (hn : ∀ c ∈ n, isVariableChar c = true) :
    Turns (stripFind ('@' :: n)) (b.mapValues (restored entries)).text
      (b.mapValues (restored entries)).text := by
  have hstart := startsWith_stripFind n
  have hselector : '@' ∉ b.selector ++ " \x7b\n".toList := by
    simp only [List.mem_append, not_or]
    exact ⟨hb.selector.unsigned _ (by decide), by decide⟩
  have hname : ∀ p ∈ b.properties, '@' ∉ "  ".toList ++ p.1 ++ [':'] := by
    intro p hp
    simp only [List.mem_append, not_or]
    exact ⟨⟨by decide, (hb.property p hp).1.unsigned _ (by decide)⟩, by decide⟩
  refine Block.turns_text (hstart.turns hselector) (fun p hp => ?_) (hstart.turns (by decide))
  exact turns_propertyLine (hstart.turns (hname p hp)) (hstart.turns (by decide))
    (h.turns_strip_restored ((hb.value p hp).unsigned _ (by decide)) hn) (hstart.turns (by decide))

/-! ### Themes that are compiled -/

/-- The stylesheet of the rules with the names and palette calls that stand for their colors. -/
def restoredText (entries : List (Text × Text)) (rules : List Block) : Text :=
  rules.flatMap fun b => (b.mapValues (restored entries)).text

/-- The stylesheet of the rules with the colors of other entries. -/
def recoloredText (table : ColorTable) (others : List (Text × Text)) (rules : List Block) : Text :=
  rules.flatMap fun b => (b.mapValues (table.replaceEnd (recolored others))).text

variable {rules : List Block} {t : Text}

/-- What the restored rules are read as. -/
theorem IsOffer.reads_restoredText (h : IsOffer entries) (hrules : ∀ b ∈ rules, b.IsFlat) :
    ∃ ls, Reads (restoredText entries rules) ls ∧ ls.filterMap Line.declared? = [] ∧
      ls.flatMap Line.body = (rules.map (Block.mapValues (settled entries))).flatMap
        (Block.source "\n  ".toList "\n".toList) := by
  refine ⟨rules.flatMap fun b => (b.mapValues (settled entries)).lines.map .plain,
    Reads.flatMap fun b hb => ?_, ?_, ?_⟩
  · have hb' := hrules b hb
    refine Block.reads hb'.selector hb'.property fun p hp => ?_
    have hvalue := hb'.value p hp
    exact ⟨h.not_mem_restored (by decide) (hvalue.not_mem _ (by decide)),
      (h.isToken_settled hvalue.toIsToken).not_mem _ (by decide),
      h.turnsValue (hvalue.unsigned _ (by decide))⟩
  · rw [List.filterMap_eq_nil_iff]
    intro line hline
    obtain ⟨b, -, hline⟩ := List.mem_flatMap.mp hline
    obtain ⟨l, -, rfl⟩ := List.mem_map.mp hline
    rfl
  · rw [List.flatMap_assoc, List.flatMap_map]
    refine congrArg List.flatten (List.map_congr_left fun b _ => ?_)
    rw [List.flatMap_map, ← Block.text_eq_source]
    exact Block.flatMap_lines _

theorem IsOffer.count_restoredText (h : IsOffer entries) (hrules : ∀ b ∈ rules, b.IsFlat) :
    (restoredText entries rules).count '\x7b' = (restoredText entries rules).count '\x7d' := by
  induction rules with
  | nil => rfl
  | cons b rules ih =>
    obtain ⟨hb, hrules⟩ := List.forall_mem_cons.mp hrules
    have hblock := Block.count_text (f := restored entries) hb.selector.toIsToken
      (fun p hp => (hb.property p hp).1.toIsToken)
      fun p hp => h.count_restored (hb.value p hp).toIsToken
    have hrest := ih hrules
    simp only [restoredText, List.flatMap_cons, List.count_append, hblock] at hrest ⊢
    rw [hrest]

theorem IsOffer.isReadable_settled (h : IsOffer entries) {b : Block} (hb : b.IsFlat) :
    (b.mapValues (settled entries)).IsReadable := by
  refine ⟨hb.selector.toIsToken, fun p hp => ?_, fun p hp => ?_⟩
  · obtain ⟨q, hq, rfl⟩ := List.mem_map.mp hp
    exact ⟨(hb.property q hq).1.toIsToken, (hb.property q hq).2⟩
  · obtain ⟨q, hq, rfl⟩ := List.mem_map.mp hp
    exact h.isToken_settled (hb.value q hq).toIsToken

/-- The lines that declarations are read as. -/
def declarationLines (entries : List (Text × Text)) : List Line :=
  entries.map fun e => .declaration e.1 e.2

theorem isBlank_body_declarationLines (entries : List (Text × Text)) :
    ∀ line ∈ declarationLines entries, IsBlank line.body := by
  intro line hline
  obtain ⟨e, -, rfl⟩ := List.mem_map.mp hline
  exact .nil

theorem filterMap_declarationLines (entries : List (Text × Text)) :
    (declarationLines entries).filterMap Line.declared? = entries := by
  rw [declarationLines, List.filterMap_map]
  exact List.filterMap_some

/-- What a name is declared as in lines that declare it only at their start and at their end. -/
theorem get?_declared (first last : List (Text × Text)) {names : List Text} {ls ms ns : List Line}
    (hls : ∀ e ∈ ls.filterMap Line.declared?, e.1 ∉ names) (hms : ms.filterMap Line.declared? = [])
    (hns : ∀ e ∈ ns.filterMap Line.declared?, e.1 ∉ names) {name : Text} (hname : name ∈ names) :
    (Dict.ofList ((declarationLines first ++ ls ++ ms ++ (ns ++ declarationLines last)).filterMap
      Line.declared?)).get? name =
        (last.reverse.lookup name).or (first.reverse.lookup name) := by
  have none_of : ∀ {es : List (Text × Text)}, (∀ e ∈ es, e.1 ∉ names) →
      es.reverse.lookup name = none := by
    intro es hes
    refine Dict.lookup_eq_none fun hm => ?_
    obtain ⟨e, he, rfl⟩ := List.mem_map.mp hm
    exact hes e (List.mem_reverse.mp he) hname
  rw [Dict.get?_ofList]
  simp only [List.filterMap_append, filterMap_declarationLines, hms, List.append_nil,
    List.reverse_append, List.lookup_append, none_of hls, none_of hns, Option.none_or,
    Option.or_none]

/-- **What a theme compiles to,** with declarations before and after it: the rules with the colors
that the variables have in the end. -/
theorem IsOffer.compile_parts (h : IsOffer entries) (hrules : ∀ b ∈ rules, b.IsFlat)
    (ht : IsVariableText (entries.map Prod.fst) t) {first last : List (Text × Text)}
    (hfirst : ∀ e ∈ first, IsEntry e) (hlast : ∀ e ∈ last, IsEntry e)
    (hothers : ∀ e ∈ others, IsLiteral e.2) (hsame : others.map Prod.fst = entries.map Prod.fst)
    (hlookup : ∀ name ∈ entries.map Prod.fst,
      (last.reverse.lookup name).or (first.reverse.lookup name) = others.lookup name)
    (k : Nat) (fs : FileSystem) (includes : List Path) :
    compile fs (declarations first ++ t ++ restoredText entries rules ++
        (List.replicate k '\n' ++ declarations last)) includes =
      .ok (recoloredText (found entries).searched others rules) := by
  have hlines := isVariableText_lines (entries.map Prod.fst) k
  obtain ⟨ls, hls, hblank, hdeclared⟩ := ht.reads
  obtain ⟨ms, hms, hplain, hbody⟩ := h.reads_restoredText hrules
  obtain ⟨ns, hns, hblanks, hnone⟩ := hlines.reads
  have hbefore : ∀ line ∈ declarationLines first ++ ls, IsBlank line.body :=
    List.forall_mem_append.mpr ⟨isBlank_body_declarationLines first, hblank⟩
  have hafter : ∀ line ∈ ns ++ declarationLines last, IsBlank line.body :=
    List.forall_mem_append.mpr ⟨hblanks, isBlank_body_declarationLines last⟩
  have hreadable : ∀ b ∈ rules.map (Block.mapValues (settled entries)), b.IsReadable := by
    intro b' hb'
    obtain ⟨b, hb, rfl⟩ := List.mem_map.mp hb'
    exact h.isReadable_settled (hrules b hb)
  have hcount : (declarations first ++ t ++ restoredText entries rules ++
      (List.replicate k '\n' ++ declarations last)).count '\x7b' =
      (declarations first ++ t ++ restoredText entries rules ++
        (List.replicate k '\n' ++ declarations last)).count '\x7d' := by
    simp only [List.count_append, count_declarations hfirst, count_declarations hlast, ht.count,
      hlines.count, h.count_restoredText hrules]
  have hcompile := compile_eq_of_blocks ((reads_declarations hfirst).append hls) hms
    (hns.append (reads_declarations hlast)) hbefore hafter (by decide) (by decide) hbody hreadable
    hcount fs includes
  have hget := fun name (hname : name ∈ entries.map Prod.fst) =>
    (get?_declared first last hdeclared hplain hnone hname).trans (hlookup name hname)
  rw [hcompile, List.flatMap_map, recoloredText, List.flatMap_def, List.flatMap_def]
  refine congrArg (fun texts : List Text => Except.ok texts.flatten)
    (List.map_congr_left fun b hb => ?_)
  rw [Block.mapValues_mapValues]
  refine congrArg Block.text (Block.mapValues_congr fun p hp => ?_)
  exact h.evaluate_settled hothers hsame hget (((hrules b hb).value p hp).unsigned _ (by decide))

/-- The variables of a theme that are selected from the color map of a variable text. -/
theorem isOffer_of_get? {isColor : Text → Bool} {variableText : Text}
    (hlines : ∀ l ∈ splitOn '\n' variableText, ∃ d, IsVariableLine l d)
    (hnodup : (entries.map Prod.fst).Nodup)
    (hget : ∀ e ∈ entries, (ColorMap.ofText isColor variableText).get? e.1 = some e.2)
    (hshade : ∀ e ∈ entries, Shade.split? e.1 = none)
    (hcolor : ∀ e ∈ entries, IsLiteral e.2 ∧ '/' ∉ e.2) : IsOffer entries where
  entry := fun e he => ⟨isVariable_of_get? hlines (hget e he), (hcolor e he).1⟩
  slash := fun e he => (hcolor e he).2
  nodup := hnodup
  shade := hshade

/-- Where each entry of the table keeps its color, all values stay. -/
theorem recoloredText_eq_self {table : ColorTable}
    (h : ∀ e ∈ table.entries, recolored others e = e.2) (rules : List Block) :
    recoloredText table others rules = rules.flatMap Block.text := by
  have hvalue : table.replaceEnd (recolored others) = id :=
    funext fun v => ColorTable.replaceEnd_eq_self h v
  rw [recoloredText, hvalue]
  simp only [Block.mapValues_id]

/-- An entry keeps its color unless it is an entry of the offer. -/
theorem IsOffer.recolored_eq_self (h : IsOffer entries)
    (hsame : others.map Prod.fst = entries.map Prod.fst) (he : e ∈ (found entries).entries)
    (hne : e ∉ entries) : recolored others e = e.2 := by
  rcases h.named_or_called he with ⟨n, hn⟩ | ⟨bare, digit, hcalled⟩
  · exact absurd hn.mem hne
  · rw [recolored, Dict.lookup_eq_none (hsame ▸ hcalled.not_mem), Option.getD_none]

/-- With its own colors, the table gives each value back. -/
theorem IsOffer.recoloredText_self (h : IsOffer entries) (rules : List Block) :
    recoloredText (found entries).searched entries rules = rules.flatMap Block.text := by
  refine recoloredText_eq_self (fun e he => ?_) rules
  by_cases hm : e ∈ entries
  · rw [recolored, Dict.lookup_of_mem h.nodup hm, Option.getD_some]
  · exact h.recolored_eq_self rfl (ColorTable.mem_searched.mp he).1 hm

/-- Substituting the colors that are found in flat rules. -/
theorem IsOffer.substitute_eq (h : IsOffer entries) (hrules : ∀ b ∈ rules, b.IsFlat) :
    (found entries).substitute (rules.flatMap Block.text) = restoredText entries rules :=
  ColorTable.substitute_flatMap_text h.isPlain hrules

theorem IsOffer.not_mem_restoredText (h : IsOffer entries) (hrules : ∀ b ∈ rules, b.IsFlat) :
    '\\' ∉ restoredText entries rules := by
  intro hm
  obtain ⟨b, hb, hm⟩ := List.mem_flatMap.mp hm
  have hb' := hrules b hb
  refine Block.not_mem_text (b := b.mapValues (restored entries)) (by decide)
    (hb'.selector.unsigned '\\' (by decide))
    (fun p hp => ?_) hm
  obtain ⟨q, hq, rfl⟩ := List.mem_map.mp hp
  exact ⟨(hb'.property q hq).1.unsigned _ (by decide),
    h.not_mem_restored (by decide) ((hb'.value q hq).unsigned _ (by decide))⟩

/-- The parts of a theme that offers the entries: after the fresh declarations nothing depends on
their colors. -/
theorem IsOffer.exists_theme_eq (h : IsOffer entries) (hrules : ∀ b ∈ rules, b.IsFlat)
    {variableText : Text} (hlines : ∀ l ∈ splitOn '\n' variableText, ∃ d, IsVariableLine l d)
    (hsize : ∀ e ∈ entries, Text.size e.1 ≤ 327632) :
    ∃ t, IsVariableText (entries.map Prod.fst) t ∧
      Assembly.theme ((found entries).substitute (rules.flatMap Block.text)) variableText entries =
        declarations entries ++ t ++
          (restoredText entries rules ++ List.replicate entries.length '\n') := by
  have hstrip : ∀ n, '@' :: n ∈ entries.map Prod.fst →
      Turns (stripFind ('@' :: n)) (restoredText entries rules) (restoredText entries rules) := by
    intro n hn
    obtain ⟨e, he, heq⟩ := List.mem_map.mp hn
    obtain ⟨m, hm, -, hchars⟩ := (h.entry e he).name
    obtain rfl : m = n := (List.cons.inj (hm.symm.trans heq)).2
    exact Turns.flatMap fun b hb => h.turns_strip_block (hrules b hb) hchars
  rw [h.substitute_eq hrules]
  exact Theme.exists_theme_eq h.entry h.nodup (fun e he => canStrip_iff.mpr (hsize e he)) hstrip
    (h.not_mem_restoredText hrules) hlines

/-- Other colors for the variables make entries again. -/
theorem IsOffer.isEntry_others (h : IsOffer entries)
    (hsame : others.map Prod.fst = entries.map Prod.fst) (hothers : ∀ e ∈ others, IsLiteral e.2) :
    ∀ e ∈ others, IsEntry e := by
  intro e he
  have hmem : e.1 ∈ entries.map Prod.fst := hsame ▸ List.mem_map_of_mem he
  obtain ⟨e', he', heq⟩ := List.mem_map.mp hmem
  exact ⟨heq ▸ (h.entry e' he').name, hothers e he⟩

/-- **A theme with other colors,** in front of it or behind it. -/
theorem IsOffer.exists_compile_eq (h : IsOffer entries) (hrules : ∀ b ∈ rules, b.IsFlat)
    {variableText : Text} (hlines : ∀ l ∈ splitOn '\n' variableText, ∃ d, IsVariableLine l d)
    (hsize : ∀ e ∈ entries, Text.size e.1 ≤ 327632) (fs : FileSystem) (includes : List Path) :
    ∃ rest,
      Assembly.theme ((found entries).substitute (rules.flatMap Block.text)) variableText entries =
        declarations entries ++ rest ∧
      ∀ others : List (Text × Text), others.map Prod.fst = entries.map Prod.fst →
        (∀ e ∈ others, IsLiteral e.2) →
        compile fs (declarations others ++ rest) includes =
            .ok (recoloredText (found entries).searched others rules) ∧
          compile fs (declarations entries ++ rest ++ declarations others) includes =
            .ok (recoloredText (found entries).searched others rules) := by
  obtain ⟨t, ht, htheme⟩ := h.exists_theme_eq hrules hlines hsize
  refine ⟨t ++ (restoredText entries rules ++ List.replicate entries.length '\n'),
    by rw [htheme, List.append_assoc], fun others hsame hothers => ⟨?_, ?_⟩⟩
  · -- With other colors in front, these are the only declarations of the names.
    have hlookup : ∀ name ∈ entries.map Prod.fst,
        (([] : List (Text × Text)).reverse.lookup name).or (others.reverse.lookup name) =
          others.lookup name := fun name _ => Dict.lookup_reverse (hsame ▸ h.nodup) name
    have hnone : declarations [] = [] ∧ ∀ e ∈ ([] : List (Text × Text)), IsEntry e :=
      ⟨rfl, List.forall_mem_nil _⟩
    have hcompile := h.compile_parts hrules ht (h.isEntry_others hsame hothers) hnone.2 hothers
      hsame hlookup entries.length fs includes
    rw [hnone.1, List.append_nil] at hcompile
    simpa only [List.append_assoc] using hcompile
  · -- Behind the theme, the later declarations count.
    have hlookup : ∀ name ∈ entries.map Prod.fst,
        (others.reverse.lookup name).or (entries.reverse.lookup name) = others.lookup name := by
      intro name hname
      rw [Dict.lookup_reverse (hsame ▸ h.nodup)]
      cases hl : others.lookup name with
      | some color => rfl
      | none =>
        rw [← hsame] at hname
        obtain ⟨e, he, rfl⟩ := List.mem_map.mp hname
        rw [Dict.lookup_of_mem (hsame ▸ h.nodup) he] at hl
        cases hl
    have hcompile := h.compile_parts hrules ht h.entry (h.isEntry_others hsame hothers) hothers
      hsame hlookup entries.length fs includes
    simpa only [List.append_assoc] using hcompile

/-- **Theme switching is faithful.** Take a variable text, theme variables selected from its color
map whose names can be looked for, and a stylesheet of flat rules. The probes compile, and the table
read off them has each variable with its own color. The theme made with this table compiles to the
stylesheet. With other colors in its leading declarations, or with declarations of other colors
after it, it compiles to the stylesheet in which the values that end in a color of the table end in
the new color of the first entry with that color; the colors of shades stay, and so do the colors of
more than 327670 bytes, which cannot be looked for. -/
theorem switching_faithful (fs : FileSystem) (includes : List Path) (isColor : Text → Bool)
    {variableText : Text} (hlines : ∀ l ∈ splitOn '\n' variableText, ∃ d, IsVariableLine l d)
    {entries : List (Text × Text)} (hnodup : (entries.map Prod.fst).Nodup)
    (hget : ∀ e ∈ entries, (ColorMap.ofText isColor variableText).get? e.1 = some e.2)
    (hshade : ∀ e ∈ entries, Shade.split? e.1 = none)
    (hcolor : ∀ e ∈ entries, IsLiteral e.2 ∧ '/' ∉ e.2)
    (hsize : ∀ e ∈ entries, Text.size e.1 ≤ 327632)
    {rules : List Block} (hrules : ∀ b ∈ rules, b.IsFlat) :
    ∃ probeCss table out rest,
      compile fs (variableText ++ '\n' :: Probe.text entries) includes = .ok probeCss ∧
      table = ColorTable.ofCss probeCss ∧
      (∀ e ∈ entries, table.get? e.1 = some e.2) ∧
      out = Assembly.theme (table.substitute (rules.flatMap Block.text)) variableText entries ∧
      compile fs out includes = .ok (rules.flatMap Block.text) ∧
      out = declarations entries ++ rest ∧
      ∀ others : List (Text × Text), others.map Prod.fst = entries.map Prod.fst →
        (∀ e ∈ others, IsLiteral e.2) →
        compile fs (declarations others ++ rest) includes =
            .ok (recoloredText table.searched others rules) ∧
          compile fs (out ++ declarations others) includes =
            .ok (recoloredText table.searched others rules) := by
  have h := isOffer_of_get? hlines hnodup hget hshade hcolor
  obtain ⟨probeCss, hprobes, htable⟩ := compile_probes hlines h.probes fs includes
  obtain ⟨rest, htheme, hswitched⟩ := h.exists_compile_eq hrules hlines hsize fs includes
  have hself := (hswitched entries rfl fun e he => (hcolor e he).1).1
  rw [h.recoloredText_self] at hself
  refine ⟨probeCss, found entries, _, rest, hprobes, htable.symm,
    fun e he => get?_found h.probes hnodup he, rfl, ?_, htheme, fun others hsame hothers => ?_⟩
  · rw [htheme]
    exact hself
  · rw [htheme]
    exact hswitched others hsame hothers

/-- Two variables of one color, one of them by an alias, an old declaration, and the color of a
shade. -/
theorem switching_faithful_shared_color :
    let fs : FileSystem := ⟨.dir [], []⟩
    let variableText := ("// colors\n@brand-color: #fff;\n@brand-color: #1890ff;\n".toList ++
      "@link-color : @brand-color;\n".toList)
    let entries :=
      [("@brand-color".toList, "#1890ff".toList), ("@link-color".toList, "#1890ff".toList)]
    let others := [("@brand-color".toList, "#f00".toList), ("@link-color".toList, "#0f0".toList)]
    let rules : List Block := [⟨".a:hover".toList, [("color".toList, "#1890ff".toList),
      ("border".toList, "1px solid #010101".toList)]⟩]
    ((∀ l ∈ splitOn '\n' variableText, ∃ d, IsVariableLine l d) ∧ (entries.map Prod.fst).Nodup ∧
      (∀ e ∈ entries, (ColorMap.ofText (Color.isColor []) variableText).get? e.1 = some e.2) ∧
      (∀ e ∈ entries, Shade.split? e.1 = none) ∧ (∀ e ∈ entries, IsLiteral e.2 ∧ '/' ∉ e.2) ∧
      (∀ e ∈ entries, Text.size e.1 ≤ 327632) ∧ ∀ b ∈ rules, b.IsFlat) ∧
    ∃ out rest, out = declarations entries ++ rest ∧
      compile fs out [] = .ok (rules.flatMap Block.text) ∧
      compile fs (declarations others ++ rest) [] =
        .ok ".a:hover \x7b\n  color: #0f0;\n  border: 1px solid #010101;\n\x7d\n".toList := by
  intro fs variableText entries others rules
  have hlines : ∀ l ∈ splitOn '\n' variableText, ∃ d, IsVariableLine l d := by
    have hsplit : splitOn '\n' variableText = [[] ++ "//".toList ++ " colors".toList,
        declarationLine [] "brand-color".toList 0 "#fff".toList [],
        declarationLine [] "brand-color".toList 0 "#1890ff".toList [],
        declarationLine [] "link-color".toList 1 "@brand-color".toList [], []] := by decide
    rw [hsplit]
    simp only [List.forall_mem_cons]
    exact ⟨⟨_, .comment .nil (by decide) (by decide)⟩,
      ⟨_, .declaration .nil .nil ⟨by decide, by decide, by decide, by decide⟩⟩,
      ⟨_, .declaration .nil .nil ⟨by decide, by decide, by decide, by decide⟩⟩,
      ⟨_, .declaration .nil .nil ⟨by decide, by decide, by decide, by decide⟩⟩,
      ⟨_, .blank .nil⟩, nofun⟩
  have hnodup : (entries.map Prod.fst).Nodup := by decide
  have hget : ∀ e ∈ entries,
      (ColorMap.ofText (Color.isColor []) variableText).get? e.1 = some e.2 := by decide +kernel
  have hshade : ∀ e ∈ entries, Shade.split? e.1 = none := by decide
  have hcolor : ∀ e ∈ entries, IsLiteral e.2 ∧ '/' ∉ e.2 := by
    simp only [entries, List.forall_mem_cons]
    exact ⟨⟨.hex (by decide), by decide⟩, ⟨.hex (by decide), by decide⟩, nofun⟩
  have hsize : ∀ e ∈ entries, Text.size e.1 ≤ 327632 := by decide
  have hrules : ∀ b ∈ rules, b.IsFlat := by
    simp only [rules, List.forall_mem_cons]
    refine ⟨⟨⟨⟨by decide, by decide, by decide⟩, by decide, by decide⟩, ?_, ?_⟩, nofun⟩
    · simp only [List.forall_mem_cons]
      exact ⟨⟨⟨⟨by decide, by decide, by decide⟩, by decide, by decide⟩, by decide⟩,
        ⟨⟨⟨by decide, by decide, by decide⟩, by decide, by decide⟩, by decide⟩, nofun⟩
    · simp only [List.forall_mem_cons]
      exact ⟨⟨⟨by decide, by decide, by decide⟩, by decide, by decide⟩,
        ⟨⟨by decide, by decide, by decide⟩, by decide, by decide⟩, nofun⟩
  have hothers : ∀ e ∈ others, IsLiteral e.2 := by
    simp only [others, List.forall_mem_cons]
    exact ⟨.hex (by decide), .hex (by decide), nofun⟩
  obtain ⟨probeCss, table, out, rest, hprobes, rfl, -, -, hcss, hparts, hswitched⟩ :=
    switching_faithful fs [] (Color.isColor []) hlines hnodup hget hshade hcolor hsize hrules
  have hrecolored : ∀ css, compile fs (variableText ++ '\n' :: Probe.text entries) [] = .ok css →
      recoloredText (ColorTable.ofCss css).searched others rules =
        ".a:hover \x7b\n  color: #0f0;\n  border: 1px solid #010101;\n\x7d\n".toList := by
    intro css hcompiled
    have hvalue : (compile fs (variableText ++ '\n' :: Probe.text entries) []).toOption.map
        (fun css => recoloredText (ColorTable.ofCss css).searched others rules) =
        some ".a:hover \x7b\n  color: #0f0;\n  border: 1px solid #010101;\n\x7d\n".toList := by
      decide +kernel
    rw [hcompiled] at hvalue
    exact Option.some.inj hvalue
  refine ⟨⟨hlines, hnodup, hget, hshade, hcolor, hsize, hrules⟩, out, rest, hparts, hcss, ?_⟩
  rw [(hswitched others rfl hothers).1, hrecolored probeCss hprobes]

/-! ### What is too long to be looked for -/

theorem isBare_of_isLiteral {color : Text} (h : IsLiteral color) (hslash : '/' ∉ color) :
    IsBare color := by
  refine ⟨isToken_of_isLiteral h, fun hled => hslash (hled.subset (by decide)), fun c hc => ?_⟩
  refine h.not_mem ?_
  revert c
  decide

/-- An entry as a declaration. -/
def declared (e : Text × Text) : Declaration := ⟨e.1, e.2⟩

theorem IsEntry.exists_line_eq (h : IsEntry e) :
    ∃ n, IsDeclared n e.2 ∧ (declared e).line [] = declarationLine [] n 0 e.2 [] := by
  obtain ⟨n, hn, hdeclared, -⟩ := h.exists_eq
  exact ⟨n, hdeclared, by simp [declared, Declaration.line, declarationLine, hn]⟩

/-- A line that declares an entry is a variable text. -/
theorem IsEntry.isVariableLine (h : IsEntry e) :
    ∀ l ∈ splitOn '\n' ((declared e).line []), ∃ d, IsVariableLine l d := by
  obtain ⟨n, hdeclared, hline⟩ := h.exists_line_eq
  rw [hline, splitOn_of_not_mem (not_mem_declarationLine hdeclared h.literal)]
  intro l hl
  obtain rfl := List.mem_singleton.mp hl
  exact ⟨_, .declaration .nil .nil hdeclared⟩

theorem IsEntry.get?_ofText (h : IsEntry e) {isColor : Text → Bool} (hcolor : isColor e.2 = true) :
    (ColorMap.ofText isColor ((declared e).line [])).get? e.1 = some e.2 := by
  obtain ⟨n, hdeclared, hline⟩ := h.exists_line_eq
  have htrim : trim (declared e).value = (declared e).value := h.literal.isTight.trim_eq
  refine ColorMap.get?_ofText_line h.name.isMarked htrim ?_ ?_ hcolor
  · have hat : '@' ∉ e.2 := h.literal.not_mem (by decide)
    rw [Alias.isAlias, beq_eq_false_iff_ne]
    exact fun hhead => hat (List.mem_of_mem_head? hhead)
  · rw [hline]
    exact not_mem_declarationLine hdeclared h.literal

/-- In the table of one entry its color stands for the entry. -/
theorem IsOffer.replaceEnd_single (h : IsOffer [e])
    (hne : ∀ digit ∈ shadeDigits, e.2 ≠ paletteColor [digit]) (color : Text) :
    (found [e]).replaceEnd (recolored [(e.1, color)]) e.2 = color := by
  have hown : recolored [(e.1, color)] e = color := by simp [recolored]
  have hmem : e ∈ (found [e]).entries :=
    Dict.mem_of_lookup (get?_found h.probes h.nodup (List.mem_singleton_self e))
  refine (ColorTable.replaceEnd_entry h.isPlain.literal hmem fun e' he' hcolor => ?_).trans hown
  rcases h.named_or_called he' with ⟨n, hn⟩ | ⟨bare, digit, hcalled⟩
  · rw [List.mem_singleton.mp hn.mem]
  · exact absurd (hcolor.symm.trans hcalled.color) (hne digit hcalled.digit_mem)

/-- **A name that cannot be looked for** is declared once more behind the head of the theme, so that
it keeps its color. -/
theorem IsOffer.exists_compile_eq_of_name (h : IsOffer [e]) (hrules : ∀ b ∈ rules, b.IsFlat)
    (hname : Assembly.canStrip e.1 = false) (hsame : others.map Prod.fst = [e.1])
    (hothers : ∀ e ∈ others, IsLiteral e.2) (fs : FileSystem) (includes : List Path) :
    ∃ rest, Assembly.theme ((found [e]).substitute (rules.flatMap Block.text))
        ((declared e).line []) [e] = declarations [e] ++ rest ∧
      compile fs (declarations others ++ rest) includes = .ok (rules.flatMap Block.text) := by
  have he := h.entry e (List.mem_singleton_self e)
  have hentry : ∀ e' ∈ others ++ [e], IsEntry e' :=
    List.forall_mem_append.mpr ⟨h.isEntry_others hsame hothers, h.entry⟩
  have hline : (declared e).line [] ++ ['\n'] = declarations [e] := by
    simp [declared, Declaration.line, declarations]
  refine ⟨declarations [e] ++ (restoredText [e] rules ++ ['\n']), ?_, ?_⟩
  · have hhack : '\\' ∉ restoredText [e] rules ++ ['\n'] := by
      simp [h.not_mem_restoredText hrules]
    have hkept := ((turns_hack_declarations h.entry).append
      ((turns_hack_declarations h.entry).append (startsWith_hackFind.turns hhack))).replaceWith_eq
    have hfolded :
        [e].foldr Assembly.lead ((declared e).line [] ++ '\n' :: restoredText [e] rules) =
          declarations [e] ++ (declarations [e] ++ (restoredText [e] rules ++ ['\n'])) := by
      rw [foldr_lead_of_long (List.forall_mem_singleton.mpr hname), List.append_cons, hline,
        List.append_assoc (declarations [e])]
      rfl
    rw [h.substitute_eq hrules, Assembly.theme, hfolded]
    exact hkept
  · have hlookup : ∀ name ∈ [e].map Prod.fst,
        (([] : List (Text × Text)).reverse.lookup name).or ((others ++ [e]).reverse.lookup name) =
          [e].lookup name := by
      intro name hname
      obtain rfl := List.mem_singleton.mp hname
      rw [List.reverse_append, List.reverse_singleton, List.singleton_append,
        List.lookup_cons_self, List.lookup_cons_self]
      rfl
    have hnone : declarations [] = [] ∧ ∀ e ∈ ([] : List (Text × Text)), IsEntry e :=
      ⟨rfl, List.forall_mem_nil _⟩
    have hcompile := h.compile_parts hrules (isVariableText_lines _ 0) hentry hnone.2
      (fun e' he' => (h.entry e' he').literal) rfl hlookup 1 fs includes
    rw [h.recoloredText_self] at hcompile
    simpa [declarations] using hcompile

/-- **A color that cannot be looked for** is not replaced. -/
theorem IsOffer.recoloredText_of_color (h : IsOffer [e]) (hcolor : ColorTable.canFind e.2 = false)
    (hsame : others.map Prod.fst = [e.1]) (rules : List Block) :
    recoloredText (found [e]).searched others rules = rules.flatMap Block.text := by
  refine recoloredText_eq_self (fun e' he' => ?_) rules
  obtain ⟨hmem, hfind⟩ := ColorTable.mem_searched.mp he'
  refine h.recolored_eq_self hsame hmem fun hm => ?_
  rw [List.mem_singleton.mp hm, hcolor] at hfind
  cases hfind

/-- In both cases the theme does not follow the color in its head. -/
theorem IsOffer.exists_unswitched (h : IsOffer [e]) (hrules : ∀ b ∈ rules, b.IsFlat)
    (hlong : Assembly.canStrip e.1 = false ∨ ColorTable.canFind e.2 = false)
    (hsame : others.map Prod.fst = [e.1]) (hothers : ∀ e ∈ others, IsLiteral e.2)
    (fs : FileSystem) (includes : List Path) :
    ∃ rest, Assembly.theme ((found [e]).substitute (rules.flatMap Block.text))
        ((declared e).line []) [e] = declarations [e] ++ rest ∧
      compile fs (declarations others ++ rest) includes = .ok (rules.flatMap Block.text) := by
  cases hname : Assembly.canStrip e.1 with
  | false => exact h.exists_compile_eq_of_name hrules hname hsame hothers fs includes
  | true =>
    have hcolor : ColorTable.canFind e.2 = false := hlong.resolve_left (by simp [hname])
    have he := h.entry e (List.mem_singleton_self e)
    obtain ⟨rest, htheme, hswitched⟩ := h.exists_compile_eq hrules he.isVariableLine
      (fun e' he' => canStrip_iff.mp (List.mem_singleton.mp he' ▸ hname)) fs includes
    have hcompile := (hswitched others hsame hothers).1
    rw [h.recoloredText_of_color hcolor hsame] at hcompile
    exact ⟨rest, htheme, hcompile⟩

/-- A rule with a color. -/
def button (color : Text) : Block := ⟨".btn".toList, [("color".toList, color)]⟩

theorem isFlat_button {color : Text} (h : IsLiteral color) (hslash : '/' ∉ color) :
    (button color).IsFlat := by
  have hselector : IsBare ".btn".toList := ⟨⟨by decide, by decide, by decide⟩, by decide, by decide⟩
  have hproperty : IsBare "color".toList ∧ ':' ∉ "color".toList :=
    ⟨⟨⟨by decide, by decide, by decide⟩, by decide, by decide⟩, by decide⟩
  refine ⟨hselector, fun p hp => ?_, fun p hp => ?_⟩
  · rw [List.mem_singleton.mp hp]
    exact hproperty
  · rw [List.mem_singleton.mp hp]
    exact isBare_of_isLiteral h hslash

theorem text_button_injective : Function.Injective fun color => (button color).text := by
  intro color color' heq
  simp only [button, Block.text, propertyLine, List.flatMap_cons, List.flatMap_nil,
    List.append_assoc] at heq
  have htail := List.append_cancel_left (List.append_cancel_left (List.append_cancel_left
    (List.append_cancel_left (List.append_cancel_left heq))))
  exact List.append_cancel_right htail

theorem split?_longName (k : Nat) : Shade.split? (longName k) = none := by
  rw [Shade.split?_eq_none_iff (isVariable_longName k).isMarked.isName]
  rintro ⟨base, digit, heq, hdigit⟩
  have hends : "-color".toList = "-colo".toList ++ ['r'] ∧ ['-', digit] = ['-'] ++ [digit] :=
    ⟨by decide, rfl⟩
  have hlast := congrArg List.getLast? heq
  rw [longName, hends.1, hends.2, ← List.append_assoc base, ← List.append_assoc, ← List.cons_append,
    List.getLast?_concat, List.getLast?_concat] at hlast
  rw [← Option.some.inj hlast] at hdigit
  exact absurd hdigit (by decide)

/-- A color as long as wanted. -/
def longColor (k : Nat) : Text :=
  ['r', 'g', 'b', 'a', '('] ++ ("0, 0, 0, 0.".toList ++ List.replicate k '0') ++ [')']

theorem isLiteral_longColor (k : Nat) : IsLiteral (longColor k) := by
  have hstart : ∀ c ∈ "0, 0, 0, 0.".toList, isComponentChar c = true := by decide
  refine .rgba fun c hc => (List.mem_append.mp hc).elim (hstart c) fun hc => ?_
  rw [List.eq_of_mem_replicate hc]
  decide

theorem not_mem_longColor (hc : c ∉ "rgba(0, .)".toList) (k : Nat) : c ∉ longColor k := by
  have hsub : ∀ t ∈ [['r', 'g', 'b', 'a', '('], "0, 0, 0, 0.".toList, [')']], ∀ d ∈ t,
      d ∈ "rgba(0, .)".toList := by decide
  have hpart : ∀ t ∈ [['r', 'g', 'b', 'a', '('], "0, 0, 0, 0.".toList, [')']], c ∉ t :=
    fun t ht hm => hc (hsub t ht c hm)
  have hzero : c ≠ '0' := by
    rintro rfl
    exact hc (by decide)
  simp only [longColor, List.mem_append, not_or]
  exact ⟨⟨hpart _ (by simp), hpart _ (by simp), not_mem_replicate hzero k⟩, hpart _ (by simp)⟩

theorem accepts_longColor (k : Nat) : accepts (longColor k) = true := by
  have hstart : (['r', 'g', 'b', 'a', '('] ++ "0, 0, 0, 0.".toList).foldlM State.step (.name []) =
      some .last := by decide
  have hzero : State.step .last '0' = some .last := by decide
  have hzeros : (List.replicate k '0').foldlM State.step .last = some .last := by
    induction k with
    | zero => rfl
    | succ k ih =>
      rw [List.replicate_succ, List.foldlM_cons, hzero, Option.bind_eq_bind, Option.bind_some, ih]
  rw [accepts, longColor, ← List.append_assoc, List.foldlM_append, List.foldlM_append, hstart,
    Option.bind_eq_bind, Option.bind_some, hzeros]
  decide

theorem size_longColor (k : Nat) : Text.size (longColor k) = k + 17 := by
  have hparts : Text.size ['r', 'g', 'b', 'a', '('] = 5 ∧ Text.size "0, 0, 0, 0.".toList = 11 ∧
      Text.size [')'] = 1 ∧ '0'.utf8Size = 1 := by decide
  rw [longColor, Text.size_append, Text.size_append, Text.size_append, Text.size_replicate,
    hparts.1, hparts.2.1, hparts.2.2.1, hparts.2.2.2]
  omega

/-- A name that is too long to be looked for, and a color that is: the theme does not follow the new
color in its head. -/
theorem unswitched_long :
    let fs : FileSystem := ⟨.dir [], []⟩
    ∀ e ∈ [(longName 331000, "#111111".toList), ("@link-color".toList, longColor 331000)],
      let variableText := e.1 ++ ": ".toList ++ e.2 ++ [';']
      let others := [(e.1, "#222222".toList)]
      let rules := [button e.2]
      ((∀ l ∈ splitOn '\n' variableText, ∃ d, IsVariableLine l d) ∧
        (ColorMap.ofText (Color.isColor []) variableText).get? e.1 = some e.2 ∧
        Shade.split? e.1 = none ∧ (IsLiteral e.2 ∧ '/' ∉ e.2) ∧ (∀ b ∈ rules, b.IsFlat) ∧
        ∀ e ∈ others, IsLiteral e.2) ∧
      ∃ probeCss rest,
        compile fs (variableText ++ '\n' :: Probe.text [e]) [] = .ok probeCss ∧
        Assembly.theme ((ColorTable.ofCss probeCss).substitute (rules.flatMap Block.text))
          variableText [e] = declarations [e] ++ rest ∧
        compile fs (declarations others ++ rest) [] = .ok (rules.flatMap Block.text) ∧
        rules.flatMap Block.text ≠ recoloredText (ColorTable.ofCss probeCss) others rules := by
  intro fs e he variableText others rules
  have hfacts : IsEntry e ∧ '/' ∉ e.2 ∧ e.2 ≠ "#222222".toList ∧ Color.isColor [] e.2 = true ∧
      Shade.split? e.1 = none ∧ (∀ digit ∈ shadeDigits, e.2 ≠ paletteColor [digit]) ∧
      (Assembly.canStrip e.1 = false ∨ ColorTable.canFind e.2 = false) := by
    rcases List.mem_pair.mp he with rfl | rfl
    · refine ⟨⟨isVariable_longName _, .hex (by decide)⟩, by decide, by decide, by decide,
        split?_longName _, by decide, .inl (canStrip_longName (by decide))⟩
    · refine ⟨⟨⟨_, rfl, by decide, by decide⟩, isLiteral_longColor _⟩,
        not_mem_longColor (by decide) _, fun heq => absurd (List.cons.inj heq).1 (by decide),
        isColor_of_accepts (accepts_longColor _) (not_mem_longColor (by decide) _), by decide,
        fun digit _ heq => absurd (List.cons.inj heq).1 (by decide), .inr ?_⟩
      rw [Bool.eq_false_iff, Ne, ColorTable.canFind_iff, size_longColor]
      decide
  obtain ⟨hentry, hslash, hother, hcolor, hshade, hne, hlong⟩ := hfacts
  have h : IsOffer [e] := by
    constructor
    · simpa using hentry
    · simpa using hslash
    · exact List.nodup_singleton e.1
    · simpa using hshade
  have hrules : ∀ b ∈ rules, b.IsFlat := by
    simpa [rules] using isFlat_button hentry.literal hslash
  have hothers : ∀ e ∈ others, IsLiteral e.2 := by
    intro e' he'
    rw [List.mem_singleton.mp he']
    exact .hex (by decide)
  obtain ⟨probeCss, hprobes, htable⟩ := compile_probes hentry.isVariableLine h.probes fs []
  obtain ⟨rest, htheme, hcompile⟩ := h.exists_unswitched hrules hlong rfl hothers fs []
  refine ⟨⟨hentry.isVariableLine, hentry.get?_ofText hcolor, hshade, ⟨hentry.literal, hslash⟩,
    hrules, hothers⟩, probeCss, rest, hprobes, ?_, hcompile, ?_⟩
  · rw [htable]
    exact htheme
  · have hnew : (found [e]).replaceEnd (recolored others) e.2 = "#222222".toList :=
      h.replaceEnd_single hne _
    have hrecolored : recoloredText (found [e]) others rules = (button "#222222".toList).text := by
      rw [← hnew]
      exact List.append_nil _
    have hkept : rules.flatMap Block.text = (button e.2).text := List.append_nil _
    rw [htable, hrecolored, hkept]
    exact fun heq => hother (text_button_injective heq)

end Retint.Theme
