import Retint.Generator
import Retint.Proofs.Theme.Spared

/-!
# Declarations of other variables

What a theme cuts out reaches from a declaration of one of its variables to the end of the line, or
nearly so. A declaration of another variable stays if no such declaration comes before it on its
line or stands in its value. So such declarations are found in the theme, one after the other, but
for the marks of hacks, which are cut out wherever they are.

A cut can be followed to the next line feed only. So what is known at some place is this: if nothing
has started on the line so far, then from here on the text has only been cut; and in any case this
is so from the next line feed on.

## Main definitions

* `Text.lastLine` — what comes after the last line feed
* `Theme.mentions` — one of the names stands in a text, and a colon after it
* `Theme.layout`, `Theme.apart` — a text with declarations, and those to which nothing happens
* `Theme.Spread` — texts that stand in a text one after the other
* `Theme.Follows` — what is known of the rest of a text from which something has been cut out

## Main results

* `Theme.Follows.move`, `Theme.Follows.keep` — one part of the text more
* `Theme.spread_apart` — all declarations
* `Theme.theme_spread` — the headline
* `Theme.theme_without_others` — declarations that are changed or lost
-/

namespace Retint

open Text

/-! ### The last line -/

namespace Text

variable {a b : Text}

/-- What comes after the last line feed. -/
def lastLine (t : Text) : Text := (t.reverse.takeWhile (· != '\n')).reverse

theorem lastLine_append_cons (a : Text) (hb : '\n' ∉ b) : lastLine (a ++ '\n' :: b) = b := by
  have hline : ∀ c ∈ b.reverse, (c != '\n') = true := fun c hc =>
    bne_iff_ne.mpr fun heq => hb (heq ▸ List.mem_reverse.mp hc)
  have htext : (a ++ '\n' :: b).reverse = b.reverse ++ '\n' :: a.reverse := by simp
  rw [lastLine, htext, takeWhile_append_cons hline (by decide), List.reverse_reverse]

theorem lastLine_append (a : Text) (hb : '\n' ∉ b) : lastLine (a ++ b) = lastLine a ++ b := by
  have hline : ∀ c ∈ b.reverse, (c != '\n') = true := fun c hc =>
    bne_iff_ne.mpr fun heq => hb (heq ▸ List.mem_reverse.mp hc)
  rw [lastLine, List.reverse_append, List.takeWhile_append_of_pos hline, List.reverse_append,
    List.reverse_reverse, lastLine]

/-- A text has a last line feed, or none. -/
theorem exists_lastLine (t : Text) : '\n' ∉ t ∨ ∃ a b, t = a ++ '\n' :: b ∧ '\n' ∉ b := by
  cases h : cutLast? '\n' t with
  | none => exact .inl (cutLast?_eq_none_iff.mp h)
  | some parts => exact .inr ⟨parts.1, parts.2, eq_of_cutLast? h⟩

end Text

namespace Theme

open Declaration

variable {names : List Text} {a b t u before rest : Text} {ts : List Text} {d : Declaration}
  {selected : List (Text × Text)} {ds : List (Text × Declaration)}

/-! ### Names with a colon -/

/-- The text starts with the name and, after spaces, a colon. -/
def startsDeclaring (name t : Text) : Bool :=
  match dropLead? name t with
  | some rest => (dropChar ' ' rest).head? = some ':'
  | none => false

/-- One of the names stands in the text, and, after spaces, a colon. -/
def mentions (names : List Text) : Text → Bool
  | [] => false
  | c :: t => names.any (startsDeclaring · (c :: t)) || mentions names t

theorem startsDeclaring_iff {name : Text} :
    startsDeclaring name t = true ↔ ∃ k, name ++ List.replicate k ' ' ++ [':'] <+: t := by
  unfold startsDeclaring
  split
  · rename_i rest hrest
    obtain rfl := dropLead?_eq_some_iff.mp hrest
    simp only [List.append_assoc, List.prefix_append_right_inj, decide_eq_true_eq]
    constructor
    · intro h
      obtain ⟨k, hk, -⟩ := exists_dropChar ' ' rest
      obtain ⟨more, hmore⟩ := List.head?_eq_some_iff.mp h
      exact ⟨k, more, by rw [hk, hmore]; simp⟩
    · rintro ⟨k, more, rfl⟩
      have hdrop := (dropChar_replicate_append (c := ' ') k (t := ':' :: more) (by simp)).1
      rw [List.append_assoc, List.singleton_append, hdrop]
      rfl
  · rename_i hnone
    constructor
    · intro h
      cases h
    · rintro ⟨k, h⟩
      rw [List.append_assoc] at h
      exact absurd ((List.prefix_append name _).trans h) (dropLead?_eq_none_iff.mp hnone)

theorem mentions_eq_true_iff : mentions names t = true ↔
    ∃ name ∈ names, ∃ k, name ++ List.replicate k ' ' ++ [':'] <:+: t := by
  induction t with
  | nil => simp [mentions]
  | cons c t ih =>
    simp only [mentions, Bool.or_eq_true, List.any_eq_true, startsDeclaring_iff, ih,
      List.infix_cons_iff]
    constructor
    · rintro (⟨name, hname, k, h⟩ | ⟨name, hname, k, h⟩)
      · exact ⟨name, hname, k, .inl h⟩
      · exact ⟨name, hname, k, .inr h⟩
    · rintro ⟨name, hname, k, h | h⟩
      · exact .inl ⟨name, hname, k, h⟩
      · exact .inr ⟨name, hname, k, h⟩

theorem mentions_of_infix (h : mentions names t = false) (hu : u <:+: t) :
    mentions names u = false := by
  refine Bool.eq_false_iff.mpr fun hmentions => Bool.eq_false_iff.mp h ?_
  obtain ⟨name, hname, k, hwithin⟩ := mentions_eq_true_iff.mp hmentions
  exact mentions_eq_true_iff.mpr ⟨name, hname, k, hwithin.trans hu⟩

/-- No name goes over the place between the two texts. -/
def Parted (a b : Text) : Prop := a.getLast? = some ';' ∨ b.head? = some '@'

/-- Where no name stands, no declaration starts, if none goes over the end. -/
theorem silent_of_mentions (hnames : ∀ name ∈ names, IsOrdinary name) (h : mentions names a = false)
    (hparted : Parted a b) : ∀ name ∈ names, Silent (stripFind name) a b := by
  intro name hname s hs hsuf
  rw [Option.eq_none_iff_forall_ne_some]
  intro found hfound
  obtain ⟨_, r, hsplit, ⟨k, value, rfl, -⟩, -⟩ := exists_isOlder (exists_of_stripFind hfound).2.2
  obtain ⟨n, hn, hsigns⟩ := hnames name hname
  have hlead : name ++ List.replicate k ' ' ++ [':'] <+: s ++ b := by
    refine ⟨value ++ [';'] ++ r, ?_⟩
    rw [hsplit]
    simp
  have hnot : ¬ name ++ List.replicate k ' ' ++ [':'] <+: s := fun hin =>
    Bool.eq_false_iff.mp h (mentions_eq_true_iff.mpr ⟨name, hname, k,
      hin.isInfix.trans hsuf.isInfix⟩)
  obtain ⟨w, hw⟩ :=
    (List.prefix_or_prefix_of_prefix hlead (List.prefix_append s b)).resolve_left hnot
  rcases hparted with hsemi | hat
  · obtain ⟨a, rfl⟩ := List.getLast?_eq_some_iff.mp hsemi
    obtain ⟨s, rfl, -⟩ := exists_of_suffix_concat hs hsuf
    have hmem : ';' ∈ name ++ List.replicate k ' ' ++ [':'] := hw ▸ (by simp)
    have hname : ';' ∉ name := (hnames name hname).not_mem (by decide)
    simp [hname] at hmem
  · -- The at sign of a name is its first character.
    cases w with
    | nil => exact hnot ⟨[], by rw [← hw, List.append_nil, List.append_nil]⟩
    | cons c w =>
      obtain ⟨b, rfl⟩ := List.head?_eq_some_iff.mp hat
      rw [← hw, List.prefix_append_right_inj] at hlead
      obtain ⟨rfl, -⟩ := List.cons_prefix_cons.mp hlead
      obtain ⟨x, s, rfl⟩ := List.exists_cons_of_ne_nil hs
      rw [hn] at hw
      have hmem : '@' ∈ n ++ List.replicate k ' ' ++ [':'] := by
        have htail : s ++ '@' :: w = n ++ List.replicate k ' ' ++ [':'] := (List.cons.inj hw).2
        rw [← htail]
        simp
      have hnone : '@' ∉ n := hsigns '@' (by decide)
      simp [hnone] at hmem

/-! ### Following a cut -/

/-- A cut does not go over the end of a line. -/
theorem IsCutFrom.exists_feed (hnames : ∀ name ∈ names, '\n' ∉ name)
    (h : IsCutFrom names (a ++ '\n' :: b) u) :
    ∃ x y, u = x ++ '\n' :: y ∧ IsCutFrom names b y := by
  generalize ht : a ++ '\n' :: b = t at h
  induction h generalizing a with
  | nil => exact absurd ht (by simp)
  | @keep t u c h ih =>
    cases a with
    | nil =>
      obtain ⟨rfl, rfl⟩ := List.cons.inj ht
      exact ⟨[], u, rfl, h⟩
    | cons d a =>
      obtain ⟨rfl, rfl⟩ := List.cons.inj ht
      obtain ⟨x, y, rfl, hy⟩ := ih rfl
      exact ⟨d :: x, y, rfl, hy⟩
  | @cut t u name piece hname _ hpiece h ih =>
    have hprefix : piece <+: a ++ '\n' :: b := ht ▸ List.prefix_append piece t
    obtain ⟨a, rfl⟩ := prefix_of_prefix_append_cons (hpiece.not_mem (hnames name hname)) hprefix
    exact ih (List.append_cancel_left ((List.append_assoc ..).symm.trans ht))

/-- What is known of the rest `u` of a text, from which something has been cut out. In the text,
`before` comes before the rest `t`. If no name stands on the line so far, nothing has been cut out
that goes over this place; and in any case no cut goes over a line feed. -/
structure Follows (names : List Text) (before t u : Text) : Prop where
  clear : mentions names (lastLine before) = false → IsCutFrom names t u
  feed : ∀ a b, t = a ++ '\n' :: b → ∃ x y, u = x ++ '\n' :: y ∧ IsCutFrom names b y

namespace Follows

theorem of_isCutFrom (hnames : ∀ name ∈ names, IsOrdinary name) (h : IsCutFrom names t u)
    (before : Text) : Follows names before t u where
  clear _ := h
  feed _ _ ht := (ht ▸ h).exists_feed fun name hname =>
    (hnames name hname).not_mem (by decide)

/-- **A part that is kept:** nothing has started on its line, and nothing starts in it. -/
theorem keep (hnames : ∀ name ∈ names, IsOrdinary name) (h : Follows names before (a ++ b) u)
    (hbefore : mentions names (lastLine before) = false) (ha : mentions names a = false)
    (hparted : Parted a b) : ∃ u', u = a ++ u' ∧ Follows names (before ++ a) b u' := by
  obtain ⟨u', rfl, hcut⟩ := (h.clear hbefore).of_silent (silent_of_mentions hnames ha hparted)
  exact ⟨u', rfl, of_isCutFrom hnames hcut _⟩

/-- **Any part.** From its last line feed on, if it has one, the text has only been cut. -/
theorem move (hnames : ∀ name ∈ names, IsOrdinary name) (h : Follows names before (a ++ b) u)
    (hparted : Parted a b) : ∃ x u', u = x ++ u' ∧ Follows names (before ++ a) b u' := by
  have hfeed : ∀ c d, b = c ++ '\n' :: d → ∃ x y, u = x ++ '\n' :: y ∧ IsCutFrom names d y :=
    fun c d hb => h.feed (a ++ c) d (by rw [hb, List.append_assoc])
  rcases exists_lastLine a with ha | ⟨a, c, rfl, hc⟩
  · by_cases hfree : mentions names (lastLine (before ++ a)) = false
    · have hline := lastLine_append before ha
      have hbefore := mentions_of_infix hfree (hline ▸ (List.prefix_append _ a).isInfix)
      have hpart := mentions_of_infix hfree (hline ▸ (List.suffix_append _ a).isInfix)
      obtain ⟨u', rfl, hu'⟩ := h.keep hnames hbefore hpart hparted
      exact ⟨a, u', rfl, hu'⟩
    · exact ⟨[], u, rfl, fun hclear => absurd hclear hfree, hfeed⟩
  · obtain ⟨x, y, rfl, hcut⟩ := h.feed a (c ++ b) (by simp)
    have hline : lastLine (before ++ (a ++ '\n' :: c)) = c := by
      rw [← List.append_assoc]
      exact lastLine_append_cons _ hc
    by_cases hfree : mentions names c = false
    · have hend : Parted c b := hparted.imp_left fun hlast => by
        cases c with
        | nil => simp at hlast
        | cons d c => simpa using hlast
      obtain ⟨u', rfl, hu'⟩ := hcut.of_silent (silent_of_mentions hnames hfree hend)
      exact ⟨x ++ '\n' :: c, u', by simp, of_isCutFrom hnames hu' _⟩
    · refine ⟨x ++ ['\n'], y, by simp, fun hclear => ?_, ?_⟩
      · rw [hline] at hclear
        exact absurd hclear hfree
      · rintro e f rfl
        rw [← List.append_assoc] at hcut
        exact hcut.exists_feed fun name hname => (hnames name hname).not_mem (by decide)

end Follows

/-! ### Texts that stand in a text -/

/-- The texts stand in the text one after the other. -/
inductive Spread : List Text → Text → Prop
  | nil (t : Text) : Spread [] t
  | cons (a : Text) {t rest : Text} {ts : List Text} (h : Spread ts rest) :
      Spread (t :: ts) (a ++ (t ++ rest))

namespace Spread

theorem prepend (h : Spread ts t) (a : Text) : Spread ts (a ++ t) := by
  cases h with
  | nil => exact .nil _
  | cons b h =>
    rw [← List.append_assoc]
    exact .cons (a ++ b) h

theorem append (h : Spread ts t) (b : Text) : Spread ts (t ++ b) := by
  induction h with
  | nil => exact .nil _
  | cons a _ ih =>
    rw [List.append_assoc, List.append_assoc]
    exact .cons a ih

/-- Marks of hacks do not go over the ends of texts that start and end with other signs. -/
theorem hack (h : Spread ts t) (hts : ∀ u ∈ ts, ∃ m, u = '@' :: (m ++ [';'])) :
    Spread (ts.map (replaceWith hackFind)) (replaceWith hackFind t) := by
  induction h with
  | nil => exact .nil _
  | @cons a v rest ts _ ih =>
    obtain ⟨⟨m, rfl⟩, hrest⟩ := List.forall_mem_cons.mp hts
    have hat : '@' ∉ Assembly.hackToken := by decide
    have hsemi : ';' ∉ Assembly.hackToken := by decide
    have hfirst : replaceWith hackFind ('@' :: (m ++ [';'])) =
        '@' :: (replaceWith hackFind m ++ [';']) := by
      rw [← List.nil_append ('@' :: _), hack_append_cons hat, hack_append_cons hsemi]
      rfl
    have hwhole : replaceWith hackFind (a ++ ('@' :: (m ++ [';']) ++ rest)) =
        replaceWith hackFind a ++
          ('@' :: (replaceWith hackFind m ++ [';']) ++ replaceWith hackFind rest) := by
      rw [List.cons_append, List.append_assoc, List.singleton_append, hack_append_cons hat,
        hack_append_cons hsemi]
      simp
    rw [List.map_cons, hfirst, hwhole]
    exact .cons _ (ih hrest)

end Spread

/-! ### Declarations in a text -/

/-- Declarations with some text before each. -/
def layout (ds : List (Text × Declaration)) : Text := ds.flatMap fun p => p.1 ++ p.2.line []

/-- The declarations of other variables on whose line, up to the declaration, and in whose value
none of the names stands with a colon. What comes before them all is `before`. -/
def apart (names : List Text) (before : Text) : List (Text × Declaration) → List Declaration
  | [] => []
  | (gap, d) :: rest =>
    let more := apart names (before ++ gap ++ d.line []) rest
    if names.contains d.name || mentions names (lastLine (before ++ gap)) || mentions names d.value
    then more else d :: more

/-- No name stands in the declaration of another variable if none does in its value. -/
theorem mentions_line (hnames : ∀ name ∈ names, IsOrdinary name) (hd : IsOrdinary d.name)
    (hother : d.name ∉ names) (hvalue : mentions names d.value = false) :
    mentions names (d.line []) = false := by
  refine Bool.eq_false_iff.mpr fun hmentions => Bool.eq_false_iff.mp hvalue ?_
  obtain ⟨name, hname, k, hwithin⟩ := mentions_eq_true_iff.mp hmentions
  obtain ⟨m, rfl, hm⟩ := hnames name hname
  obtain ⟨n, hn, hsigns⟩ := hd
  have hne : m ≠ n := by
    rintro rfl
    exact hother (hn ▸ hname)
  have hends : ∀ c ∈ ": ".toList, c ∈ "@: ;\n\\".toList := by decide
  have hstarts : ∀ c ∈ "@: ".toList, c ∈ "@: ;\n\\".toList := by decide
  have hline : d.line [] = declarationLine [] n 0 d.value [] := by
    simp [Declaration.line, declarationLine, hn]
  exact mentions_eq_true_iff.mpr ⟨_, hname, k, infix_of_infix_declarationLine hne
    (fun c hc => hm c (hends c hc)) (fun c hc => hsigns c (hstarts c hc))
    List.not_mem_nil (hline ▸ hwithin)⟩

/-- **All declarations.** The induction is on the declarations, and what is known of the rest of the
text is carried along. -/
theorem spread_apart (hnames : ∀ name ∈ names, IsOrdinary name)
    (hds : ∀ p ∈ ds, IsOrdinary p.2.name)
    (h : Follows names before (layout ds ++ rest) u) :
    Spread ((apart names before ds).map (Declaration.line · [])) u := by
  induction ds generalizing before u with
  | nil => exact .nil u
  | cons p ds ih =>
    obtain ⟨gap, d⟩ := p
    obtain ⟨hd, hds⟩ := List.forall_mem_cons.mp hds
    have hlayout : layout ((gap, d) :: ds) ++ rest = gap ++ (d.line [] ++ (layout ds ++ rest)) := by
      simp only [layout, List.flatMap_cons, List.append_assoc]
    have hend : ∀ t, Parted (d.line []) t := fun t => .inl List.getLast?_concat
    have hstart : Parted gap (d.line [] ++ (layout ds ++ rest)) := by
      obtain ⟨n, hn, -⟩ : IsOrdinary d.name := hd
      exact .inr (by simp [Declaration.line, hn])
    rw [hlayout] at h
    obtain ⟨x, u₁, rfl, h₁⟩ := h.move hnames hstart
    rw [apart]
    split
    · obtain ⟨y, u₂, rfl, h₂⟩ := h₁.move hnames (hend _)
      exact ((ih hds h₂).prepend y).prepend x
    · rename_i hkept
      obtain ⟨⟨hother, hline⟩, hvalue⟩ :
          (d.name ∉ names ∧ mentions names (lastLine (before ++ gap)) = false) ∧
            mentions names d.value = false := by simpa [and_assoc] using hkept
      obtain ⟨u₂, rfl, h₂⟩ := h₁.keep hnames hline (mentions_line hnames hd hother hvalue) (hend _)
      exact .cons x (ih hds h₂)

theorem apart_subset (names : List Text) (before : Text) (ds : List (Text × Declaration)) :
    apart names before ds ⊆ ds.map Prod.snd := by
  induction ds generalizing before with
  | nil => exact List.Subset.refl _
  | cons p ds ih =>
    obtain ⟨gap, d⟩ := p
    rw [apart, List.map_cons]
    split
    · exact List.subset_cons_of_subset d (ih _)
    · exact List.cons_subset_cons d (ih _)

/-! ### Main result -/

/-- **What a theme keeps of other declarations.** In a variable text with declarations of any
variables, whatever stands between them, take those of other variables than the theme's that have
none of the theme's names with a colon before them on their line, nor in their values. They stand
in the theme, as often and in the order in which they stand in the variable text, and they are
unchanged but for the marks of hacks in their values. -/
theorem theme_spread (hnames : ∀ e ∈ selected, IsOrdinary e.1) (hds : ∀ p ∈ ds, IsOrdinary p.2.name)
    (css rest : Text) :
    Spread ((apart (selected.map Prod.fst) [] ds).map fun d =>
        Declaration.line ⟨d.name, Text.replace Assembly.hackToken [] d.value⟩ [])
      (Assembly.theme css (layout ds ++ rest) selected) := by
  have hall : ∀ name ∈ selected.map Prod.fst, IsOrdinary name := List.forall_mem_map.mpr hnames
  obtain ⟨front, body, back, htheme, hcut⟩ := exists_theme_eq_append hnames css (layout ds ++ rest)
  rw [List.append_assoc] at hcut
  have hspread := spread_apart hall hds (.of_isCutFrom hall hcut [])
  have hordinary : ∀ d ∈ apart (selected.map Prod.fst) [] ds, IsOrdinary d.name := by
    intro d hd
    obtain ⟨p, hp, rfl⟩ := List.mem_map.mp (apart_subset _ _ ds hd)
    exact hds p hp
  have hends : ∀ u ∈ (apart (selected.map Prod.fst) [] ds).map (Declaration.line · []),
      ∃ m, u = '@' :: (m ++ [';']) := by
    intro u hu
    obtain ⟨d, hd, rfl⟩ := List.mem_map.mp hu
    obtain ⟨n, hn, -⟩ := hordinary d hd
    exact ⟨n ++ ": ".toList ++ d.value, by simp [Declaration.line, hn]⟩
  have hmarks : ∀ d ∈ apart (selected.map Prod.fst) [] ds,
      (replaceWith hackFind ∘ (Declaration.line · [])) d =
        Declaration.line ⟨d.name, Text.replace Assembly.hackToken [] d.value⟩ [] := by
    intro d hd
    exact hack_line ((hordinary d hd).not_mem (by decide)) []
  have hhacked := hspread.hack hends
  rw [List.map_map, List.map_congr_left hmarks] at hhacked
  rw [htheme]
  exact (hhacked.append back).prepend front

/-- Two declarations before one that is cut out, and one after it on the next line. -/
theorem theme_spread_around :
    let ds : List (Text × Declaration) := [([], ⟨"@line-width".toList, "1px\\9".toList⟩),
      ("\n".toList, ⟨"@link-color".toList, "red".toList⟩),
      (" ".toList, ⟨"@primary-color".toList, "#1890ff".toList⟩),
      ("\n  ".toList, ⟨"@shadow".toList, "0 1px\n  2px".toList⟩)]
    Spread ["@line-width: 1px;".toList, "@link-color: red;".toList, "@shadow: 0 1px\n  2px;".toList]
      (Assembly.theme [] (layout ds ++ "\n".toList)
        [("@primary-color".toList, "#1890ff".toList)]) := by
  intro ds
  have hnames : ∀ e ∈ [("@primary-color".toList, "#1890ff".toList)], IsOrdinary e.1 := by
    intro e he
    obtain rfl := List.mem_singleton.mp he
    exact ⟨"primary-color".toList, rfl, by decide⟩
  have hds : ∀ p ∈ ds, IsOrdinary p.2.name := by
    have hsigns : ∀ p ∈ ds, p.2.name.head? = some '@' ∧
        ∀ c ∈ "@: ;\n\\".toList, c ∉ p.2.name.tail := by decide
    intro p hp
    obtain ⟨hat, htail⟩ := hsigns p hp
    exact ⟨p.2.name.tail, (List.cons_head?_tail hat).symm, htail⟩
  exact theme_spread hnames hds [] "\n".toList

/-- A mark of a hack is cut out of a declaration, and a declaration that comes after one of a
variable of the theme on a line is lost. -/
theorem theme_without_others :
    let ds : List (Text × Declaration) := [([], ⟨"@line-width".toList, "1px\\9".toList⟩),
      ("\n".toList, ⟨"@primary-color".toList, "#1890ff".toList⟩),
      ("\n".toList, ⟨"@primary-color".toList, "#1890ff".toList⟩),
      (" ".toList, ⟨"@link-color".toList, "red".toList⟩)]
    let selected := Generator.select ["@primary-color".toList]
      (ColorMap.ofText (Color.isColor []) (layout ds))
    selected = [("@primary-color".toList, "#1890ff".toList)] ∧
      ¬ "@line-width: 1px\\9;".toList <:+: Assembly.theme [] (layout ds) selected ∧
      ¬ "@link-color: red;".toList <:+: Assembly.theme [] (layout ds) selected := by
  intro ds selected
  refine ⟨by decide +kernel, fun hwidth => ?_, fun hlink => ?_⟩
  · exact absurd (contains_iff.mpr hwidth) (by decide +kernel)
  · exact absurd (contains_iff.mpr hlink) (by decide +kernel)

end Theme

end Retint
