import Retint.ColorMap
import Retint.Proofs.Flat.Reads
import Retint.Proofs.Text.Braces
import Retint.Proofs.Theme.Strip

/-!
# The lines of a variable text

A variable text is made of blank lines, comments, and declarations that take a line each. Cutting
out the declarations of a variable and cutting out the mark of a hack leave it one, each line by
itself; and the compiler reads each line by itself too.

## Main definitions

* `Theme.declarationLine`, `Theme.IsDeclared` — a line with a declaration, and what can be declared
* `Theme.IsVariableLine` — the lines of a variable text, with the name that each declares

## Main results

* `Theme.IsVariableLine.strip` — a line without the declarations of a variable
* `Theme.IsVariableLine.hack` — a line without the marks of hacks
* `Theme.IsVariableLine.reads` — what a line is read as
-/

namespace Retint.Theme

open Text

variable {l name value indent tail t : Text} {gap size : Nat} {n m : Text} {d : Option Text}

/-! ### Lines -/

/-- What can stand on a line as a name and its value: the value has no semicolon, colon or
backslash, and its braces match. -/
structure IsDeclared (name value : Text) : Prop where
  ne_nil : name ≠ []
  nameChar : ∀ c ∈ name, Flat.isNameChar c = true
  not_mem : ∀ c ∈ ";:\\".toList, c ∉ value
  braces : bracesMatch 0 value = true

/-- A line with a declaration: spaces before the colon and a space after it. -/
def declarationLine (indent name : Text) (gap : Nat) (value tail : Text) : Text :=
  indent ++ '@' :: name ++ List.replicate gap ' ' ++ ": ".toList ++ value ++ ';' :: tail

/-- The lines of a variable text, with the name that each declares: blank ones, comments without
braces, and declarations. -/
inductive IsVariableLine : Text → Option Text → Prop
  | blank {line : Text} (h : IsBlank line) : IsVariableLine line none
  | comment {indent rest : Text} (hindent : IsBlank indent) (ho : '\x7b' ∉ rest)
      (hc : '\x7d' ∉ rest) : IsVariableLine (indent ++ "//".toList ++ rest) none
  | declaration {indent name : Text} {gap : Nat} {value tail : Text} (hindent : IsBlank indent)
      (htail : IsBlank tail) (h : IsDeclared name value) :
      IsVariableLine (declarationLine indent name gap value tail) (some ('@' :: name))

/-- A declaration up to its value. -/
def declarationLead (indent name : Text) (gap : Nat) : Text :=
  indent ++ '@' :: name ++ List.replicate gap ' ' ++ [':']

theorem declarationLine_eq (indent name : Text) (gap : Nat) (value tail : Text) :
    declarationLine indent name gap value tail =
      declarationLead indent name gap ++ [' '] ++ value ++ ';' :: tail := by
  simp only [declarationLine, declarationLead, List.append_assoc, List.cons_append]
  rfl

theorem declarationLine_eq_append (indent name : Text) (gap : Nat) (value tail : Text) :
    declarationLine indent name gap value tail = indent ++ '@' :: (name ++
      (List.replicate gap ' ' ++ ':' :: (' ' :: value ++ ';' :: tail))) := by
  simp only [declarationLine, List.append_assoc]
  rfl

/-- A space or the colon comes right after the name. -/
theorem exists_gap_eq (gap : Nat) (t : Text) :
    ∃ c y, List.replicate gap ' ' ++ ':' :: t = c :: y ∧ c ∈ " :".toList := by
  cases gap with
  | zero => exact ⟨':', _, rfl, by decide⟩
  | succ k => exact ⟨' ', _, rfl, by decide⟩

theorem not_mem_replicate {c d : Char} (h : c ≠ d) (k : Nat) : c ∉ List.replicate k d := fun hm =>
  h (List.eq_of_mem_replicate hm)

/-- What stands before a value has only signs that belong to a declaration. -/
theorem not_mem_declarationLead {c : Char} (hindent : IsBlank indent)
    (hname : ∀ c ∈ name, Flat.isNameChar c = true) (hblank : isBlank c = false)
    (hchar : Flat.isNameChar c = false) (hc : c ∉ "@:".toList) (gap : Nat) :
    c ∉ declarationLead indent name gap := by
  have hc' : c ≠ '@' ∧ c ≠ ':' := by simpa using hc
  have hspace : c ≠ ' ' := by
    rintro rfl
    exact absurd hblank (by decide)
  simp only [declarationLead, List.mem_append, List.mem_cons, List.not_mem_nil, or_false, not_or]
  exact ⟨⟨⟨hindent.not_mem hblank, hc'.1, not_mem_of_forall hname hchar⟩,
    not_mem_replicate hspace gap⟩, hc'.2⟩

/-! ### Declarations that are cut out -/

/-- The declaration of the variable is cut out of its line. -/
theorem strip_declarationLine (hstrip : Assembly.canStrip ('@' :: n) = true)
    (hindent : IsBlank indent) (htail : IsBlank tail) (hvalue : '\n' ∉ value)
    (hline : '\n' ∉ tail) :
    Assembly.strip ('@' :: n) (declarationLine indent n gap value tail) = indent ++ tail := by
  have hfind : stripFind ('@' :: n) ('@' :: n ++ List.replicate gap ' ' ++
      ':' :: ' ' :: value ++ [';'] ++ tail) = some ([], ('@' :: n ++ List.replicate gap ' ' ++
      ':' :: ' ' :: value ++ [';']).length) := by
    have hgap := dropChar_replicate_append gap (c := ' ')
      (t := ':' :: (' ' :: value ++ ';' :: tail)) (by simp)
    have hrest : (' ' :: value ++ ';' :: tail ++ []).takeWhile (· != '\n') =
        ' ' :: value ++ ';' :: tail ++ [] := by
      refine List.takeWhile_append_of_pos fun c hc => bne_iff_ne.mpr ?_
      rintro rfl
      have hne : '\n' ≠ ' ' ∧ '\n' ≠ ';' := by decide
      simp [hvalue, hline] at hc
    have hcut := cutLast?_append_cons (' ' :: value) (htail.not_mem (c := ';') (by decide))
    rw [List.append_nil] at hrest
    rw [stripFind_eq hstrip]
    simp only [Assembly.declaration?, List.append_assoc, List.cons_append,
      List.nil_append] at hgap hrest hcut ⊢
    rw [← List.cons_append, dropLead?_append_self]
    simp only [hgap, hrest, hcut, Option.map_some, List.length_append, List.length_cons,
      List.length_replicate, List.length_nil]
    congr 2
    omega
  have hsplit : declarationLine indent n gap value tail = indent ++
      ('@' :: n ++ List.replicate gap ' ' ++ ':' :: ' ' :: value ++ [';'] ++ tail) := by
    simp only [declarationLine, List.append_assoc]
    rfl
  rw [hsplit, strip_append (hindent.not_mem (by decide)), strip_eq_replaceWith]
  refine congrArg (indent ++ ·) ((replaceWith_append_of_find (by simp) hfind).trans ?_)
  exact (strip_eq_replaceWith ..).symm.trans (strip_of_not_mem (htail.not_mem (by decide)) _)

/-- A name with a colon after it stands in the declaration of another variable only if it stands in
the value. -/
theorem infix_of_infix_declarationLine {k : Nat} (hne : n ≠ name) (hn : ∀ c ∈ ": ".toList, c ∉ n)
    (hname : ∀ c ∈ "@: ".toList, c ∉ name) (hindent : '@' ∉ indent)
    (h : '@' :: n ++ List.replicate k ' ' ++ [':'] <:+: declarationLine indent name gap value []) :
    '@' :: n ++ List.replicate k ' ' ++ [':'] <:+: value := by
  have hline : declarationLine indent name gap value [] = indent ++ '@' :: ((name ++
      List.replicate gap ' ' ++ ": ".toList) ++ (value ++ [';'])) := by
    simp [declarationLine]
  rw [hline] at h
  rcases List.infix_cons_iff.mp (infix_of_cons_infix_append hindent h) with hstart | hlater
  · -- It starts with the name, so the two names are the same.
    obtain ⟨rest, hrest⟩ := (List.cons_prefix_cons.mp hstart).2
    have hsplit : (n ++ List.replicate k ' ') ++ ':' :: rest =
        (name ++ List.replicate gap ' ') ++ ':' :: (' ' :: (value ++ [';'])) := by simpa using hrest
    have hcolons : ':' ∉ n ++ List.replicate k ' ' ∧ ':' ∉ name ++ List.replicate gap ' ' := by
      simp [hn, hname]
    have hends : ∀ {m : Text}, ' ' ∉ m → m.getLast? ≠ some ' ' := fun hm hlast =>
      hm (List.mem_of_getLast? hlast)
    obtain ⟨hnames, -⟩ := append_cons_inj hcolons.1 hcolons.2 hsplit
    exact absurd (append_replicate_inj (hends (hn _ (by decide))) (hends (hname _ (by decide)))
      hnames).1 hne
  · have hat : '@' ∉ name ++ List.replicate gap ' ' ++ ": ".toList := by simp [hname]
    exact infix_of_infix_append (by decide) (infix_of_cons_infix_append hat hlater)

/-- No older declaration stands in that of another variable, unless it stands in the value. -/
theorem isClean_declarationLine (hne : n ≠ name) (hn : ∀ c ∈ ": ".toList, c ∉ n)
    (hname : ∀ c ∈ "@: ".toList, c ∉ name) (hindent : '@' ∉ indent) (htail : ';' ∉ tail)
    (hvalue : ∀ k, ¬ '@' :: n ++ List.replicate k ' ' ++ [':'] <:+: value) :
    IsClean ('@' :: n) (declarationLine indent name gap value tail) := by
  have hline : declarationLine indent name gap value tail =
      declarationLine indent name gap value [] ++ tail := by
    simp [declarationLine]
  rw [hline]
  refine IsClean.append ?_ htail
  rintro _ ⟨k, v, rfl, -⟩ hwithin
  refine hvalue k
    (infix_of_infix_declarationLine hne hn hname hindent (List.IsInfix.trans ?_ hwithin))
  exact ⟨[], v ++ [';'], by simp⟩

/-- The declaration of another variable stays. -/
theorem strip_declarationLine_of_ne (hne : n ≠ name) (hn : ∀ c ∈ n, Flat.isNameChar c = true)
    (hindent : IsBlank indent) (htail : IsBlank tail) (h : IsDeclared name value) :
    Assembly.strip ('@' :: n) (declarationLine indent name gap value tail) =
      declarationLine indent name gap value tail := by
  have hsigns : ∀ c ∈ "@: ".toList, Flat.isNameChar c = false := by decide
  have hsub : ∀ c ∈ ": ".toList, c ∈ "@: ".toList := by decide
  refine IsClean.strip_eq (isClean_declarationLine hne
    (fun c hc => not_mem_of_forall hn (hsigns c (hsub c hc)))
    (fun c hc => not_mem_of_forall h.nameChar (hsigns c hc)) (hindent.not_mem (by decide))
    (htail.not_mem (by decide)) fun k hwithin => ?_)
  exact h.not_mem ':' (by decide) (hwithin.subset (by simp))

/-- **A line without the declarations of a variable** declares what it did, unless that was it. -/
theorem IsVariableLine.strip (h : IsVariableLine l d) (hl : '\n' ∉ l)
    (hn : ∀ c ∈ n, Flat.isNameChar c = true) (hstrip : Assembly.canStrip ('@' :: n) = true) :
    ∃ d', IsVariableLine (Assembly.strip ('@' :: n) l) d' ∧
      ∀ m, d' = some m → d = some m ∧ m ≠ '@' :: n := by
  cases h with
  | blank h =>
    rw [strip_of_not_mem (h.not_mem (by decide))]
    exact ⟨none, .blank h, nofun⟩
  | @comment indent rest hindent ho hc =>
    have hlead : '@' ∉ indent ++ "//".toList := by
      simp only [List.mem_append, not_or]
      exact ⟨hindent.not_mem (by decide), by decide⟩
    have hsub := (sublist_strip ('@' :: n) rest).subset
    rw [strip_append hlead]
    exact ⟨none, .comment hindent (fun hm => ho (hsub hm)) (fun hm => hc (hsub hm)), nofun⟩
  | @declaration indent name gap value tail hindent htail h =>
    by_cases hname : n = name
    · subst hname
      simp only [declarationLine, List.mem_append, List.mem_cons, not_or] at hl
      rw [strip_declarationLine hstrip hindent htail hl.1.2 hl.2.2]
      exact ⟨none, .blank (hindent.append htail), nofun⟩
    · rw [strip_declarationLine_of_ne hname hn hindent htail h]
      refine ⟨_, .declaration hindent htail h, fun m hm => ⟨hm, ?_⟩⟩
      rintro rfl
      exact hname (List.cons.inj (Option.some.inj hm)).2.symm

/-! ### Hacks that are cut out -/

/-- What is cut out at the start of a text with the marks of hacks. -/
def hackFind (t : Text) : Option (Text × Nat) :=
  if startsWith Assembly.hackToken t then some ([], Assembly.hackToken.length) else none

theorem startsWith_hackFind : StartsWith hackFind '\\' := by
  intro c t hc
  refine if_neg fun h => hc ?_
  exact (List.cons_prefix_cons.mp (startsWith_iff.mp h)).1.symm

/-- Marks are cut out by parts that end in a sign no mark has. -/
theorem turns_hack {c : Char} (hc : c ∉ Assembly.hackToken) (l : Text) :
    Turns hackFind (l ++ [c]) (replaceWith hackFind l ++ [c]) := by
  refine turns_concat (fun rest s _ hsuf => ⟨?_, fun new size hf => ?_⟩) fun rest =>
    startsWith_hackFind c rest fun h => hc (h ▸ List.mem_cons_self ..)
  · have hiff : startsWith Assembly.hackToken (s ++ c :: rest) =
        startsWith Assembly.hackToken s := by
      rw [Bool.eq_iff_iff, startsWith_iff, startsWith_iff]
      exact ⟨prefix_of_prefix_append_cons hc, fun h => h.trans (List.prefix_append _ _)⟩
    rw [hackFind, hiff, hackFind]
  · rw [hackFind] at hf
    split at hf
    · rename_i h
      obtain ⟨-, rfl⟩ := Prod.mk.inj (Option.some.inj hf)
      exact ⟨by decide, (startsWith_iff.mp h).length_le⟩
    · cases hf

theorem sublist_hack (t : Text) : (replaceWith hackFind t).Sublist t := by
  refine sublist_replaceWith (fun s new size hf => ?_) t
  rw [hackFind] at hf
  split at hf
  · exact (Prod.mk.inj (Option.some.inj hf)).1.symm
  · cases hf

/-- **A line without the marks of hacks** declares what it did: only a comment can have any. -/
theorem IsVariableLine.hack (h : IsVariableLine l d) :
    IsVariableLine (replaceWith hackFind l) d := by
  cases h with
  | blank h =>
    rw [(startsWith_hackFind.turns (h.not_mem (by decide))).replaceWith_eq]
    exact .blank h
  | @comment indent rest hindent ho hc =>
    have hlead : '\\' ∉ indent ++ "//".toList := by
      simp only [List.mem_append, not_or]
      exact ⟨hindent.not_mem (by decide), by decide⟩
    have hsub := (sublist_hack rest).subset
    rw [startsWith_hackFind.turns hlead rest]
    exact .comment hindent (fun hm => ho (hsub hm)) (fun hm => hc (hsub hm))
  | @declaration indent name gap value tail hindent htail h =>
    have hmem : '\\' ∉ declarationLine indent name gap value tail := by
      have hlead := not_mem_declarationLead hindent h.nameChar (c := '\\') (by decide) (by decide)
        (by decide) gap
      rw [declarationLine_eq]
      simp only [List.mem_append, List.mem_cons, List.not_mem_nil, or_false, not_or]
      exact ⟨⟨⟨hlead, by decide⟩, h.not_mem _ (by decide)⟩, by decide,
        htail.not_mem (by decide)⟩
    rw [(startsWith_hackFind.turns hmem).replaceWith_eq]
    exact .declaration hindent htail h

/-! ### Lines that are read -/

theorem chomp_declarationLine (indent name : Text) (gap : Nat) (value tail : Text) :
    Text.chomp (declarationLine indent name gap value tail) =
      declarationLine indent name gap value (Text.chomp tail) := by
  rw [declarationLine_eq, chomp_append_cons (by decide), ← declarationLine_eq]

theorem chomp_comment (indent rest : Text) :
    Text.chomp (indent ++ "//".toList ++ rest) = indent ++ "//".toList ++ Text.chomp rest := by
  have h := chomp_append_cons (c := '/') (by decide) (indent ++ ['/']) rest
  simp only [List.append_assoc, List.singleton_append] at h ⊢
  exact h

theorem IsVariableLine.chomp (h : IsVariableLine l d) : IsVariableLine (Text.chomp l) d := by
  cases h with
  | blank h => exact .blank h.chomp
  | @comment indent rest hindent ho hc =>
    have hsub := chomp_subset rest
    rw [chomp_comment]
    exact .comment hindent (fun hm => ho (hsub hm)) (fun hm => hc (hsub hm))
  | declaration hindent htail h =>
    rw [chomp_declarationLine]
    exact .declaration hindent htail.chomp h

theorem trimStart_declarationLine (hindent : IsBlank indent) (gap : Nat) (value tail : Text) :
    trimStart (declarationLine indent name gap value tail) = '@' :: (name ++
      (List.replicate gap ' ' ++ ':' :: (' ' :: value ++ ';' :: tail))) := by
  rw [declarationLine_eq_append, trimStart_append hindent, trimStart_cons (by decide)]

/-- The name of a declaration is read, and the value as well if it has no white space at its ends.
-/
theorem exists_declaration?_declarationLine (hindent : IsBlank indent) (htail : IsBlank tail)
    (hne : name ≠ []) (hname : ∀ c ∈ name, Flat.isNameChar c = true) (gap : Nat) (value : Text) :
    ∃ v, Flat.declaration? (declarationLine indent name gap value tail) = some ('@' :: name, v) ∧
      (IsTight value → value ≠ [] → v = value) := by
  have hchars : ∀ c ∈ " :".toList, Flat.isNameChar c = false := by decide
  obtain ⟨c, y, hgap, hmem⟩ := exists_gap_eq gap (' ' :: value ++ ';' :: tail)
  have hc := hchars c hmem
  have hnamed : Flat.name? ('@' :: (name ++ (List.replicate gap ' ' ++
      ':' :: (' ' :: value ++ ';' :: tail)))) = some ('@' :: name, List.replicate gap ' ' ++
      ':' :: (' ' :: value ++ ';' :: tail)) := by
    rw [hgap, Flat.name?, takeWhile_append_cons hname hc, dropWhile_append_cons hname hc]
    cases name with
    | nil => exact absurd rfl hne
    | cons c name => rfl
  have hrest : trimStart (List.replicate gap ' ' ++ ':' :: (' ' :: value ++ ';' :: tail)) =
      ':' :: (' ' :: value ++ ';' :: tail) := by
    rw [trimStart_append (isBlank_replicate_space gap), trimStart_cons (by decide)]
  have hend : trimEnd (' ' :: value ++ ';' :: tail) = ' ' :: value ++ [';'] := by
    rw [List.append_cons, trimEnd_append _ htail, trimEnd_concat _ (by decide)]
  have hlead := dropLead?_append_self [':'] (' ' :: value ++ ';' :: tail)
  have htrim : IsTight value → value ≠ [] → trimStart (' ' :: value) = value := by
    intro htight hvalue
    have h := htight.trimStart_append hvalue []
    rw [List.append_nil] at h
    rw [← List.singleton_append, Text.trimStart_append (by decide), h]
  simp only [List.singleton_append] at hlead
  simp only [Flat.declaration?, trimStart_declarationLine hindent, hnamed, hrest, hend, hlead,
    Option.bind_eq_bind, Option.bind_some, List.reverse_append, List.reverse_singleton,
    List.singleton_append, List.reverse_reverse]
  cases hv : trimStart (' ' :: value) with
  | nil =>
    cases hr : (' ' :: value).reverse with
    | nil => simp at hr
    | cons c r =>
      refine ⟨[c], rfl, fun htight hvalue => ?_⟩
      rw [htrim htight hvalue] at hv
      exact absurd hv hvalue
  | cons c v =>
    refine ⟨c :: v, rfl, fun htight hvalue => ?_⟩
    rw [← hv, htrim htight hvalue]

/-- A declaration is read as one, whatever its value is. -/
theorem lineOf_declarationLine (hindent : IsBlank indent) (htail : IsBlank tail) (hne : name ≠ [])
    (hname : ∀ c ∈ name, Flat.isNameChar c = true) (gap : Nat) (value : Text) :
    ∃ v, Flat.Line.of (declarationLine indent name gap value tail) = .declaration ('@' :: name) v ∧
      (IsTight value → value ≠ [] → v = value) := by
  obtain ⟨v, hv, htight⟩ := exists_declaration?_declarationLine hindent htail hne hname gap value
  refine ⟨v, ?_, htight⟩
  have hcomment : startsWith "//".toList ('@' :: (name ++ (List.replicate gap ' ' ++
      ':' :: (' ' :: value ++ ';' :: tail)))) = false := by
    rw [Bool.eq_false_iff, Ne, startsWith_iff]
    exact fun h => absurd (List.cons_prefix_cons.mp h).1 (by decide)
  rw [Flat.Line.of, trimStart_declarationLine hindent, hcomment, hv]
  rfl

/-- A declaration is no import. -/
theorem statement?_declarationLine (hindent : IsBlank indent)
    (hname : ∀ c ∈ name, Flat.isNameChar c = true) (gap : Nat) (value tail rest : Text) :
    Flat.statement? (declarationLine indent name gap value tail ++ '\n' :: rest) = none := by
  have hquote :
      ∀ c ∈ indent ++ '@' :: name ++ List.replicate gap ' ', Import.isQuote c = false := by
    intro c hc
    refine Bool.eq_false_iff.mpr fun hq => ?_
    have hcq : c = '"' ∨ c = '\'' := by simpa [Import.isQuote] using hq
    have hlead := not_mem_declarationLead hindent hname (c := c)
      (by rcases hcq with rfl | rfl <;> decide) (by rcases hcq with rfl | rfl <;> decide)
      (by rcases hcq with rfl | rfl <;> decide) gap
    exact hlead (List.mem_append_left _ hc)
  rw [← Flat.statement?_eq_none_of_colon hquote
    (" ".toList ++ value ++ ';' :: tail ++ '\n' :: rest)]
  simp only [declarationLine, List.append_assoc]
  rfl

/-- The palette calls in the value of a declaration are replaced. -/
theorem turns_palette_declarationLine (hindent : IsBlank indent) (htail : IsBlank tail)
    (h : IsDeclared name value) (gap : Nat) :
    Turns Flat.paletteFind (declarationLine indent name gap value tail ++ ['\n'])
      (declarationLine indent name gap (Flat.replacePalettes value) tail ++ ['\n']) := by
  have hsplit : ∀ v t, declarationLine indent name gap v t ++ ['\n'] =
      declarationLead indent name gap ++ [' '] ++ (v ++ [';']) ++ (t ++ ['\n']) := by
    intro v t
    simp only [declarationLine_eq, List.append_assoc, List.cons_append, List.nil_append]
  have hlead := not_mem_declarationLead hindent h.nameChar (c := '`') (by decide) (by decide)
    (by decide) gap
  have hbrace : ∀ s, Shade.callLead ++ s <:+ value → '\x7d' ∈ s := by
    intro s hs
    obtain ⟨k, hk⟩ := exists_bracesMatch_of_suffix h.braces hs
    have hopen : Shade.callLead = "color(~`colorPalette(\"@".toList ++ ['\x7b'] := by decide
    rw [hopen, List.append_assoc, bracesMatch_append (by decide) (by decide),
      List.singleton_append, bracesMatch_open] at hk
    exact mem_of_bracesMatch_open hk
  have hvalue : Turns Flat.paletteFind (value ++ [';']) (Flat.replacePalettes value ++ [';']) :=
    turns_concat (Flat.closed_palette (by decide) (by decide) (h.not_mem _ (by decide)) hbrace)
      fun rest =>
        Flat.paletteFind_eq_none fun h => absurd (List.cons_prefix_cons.mp h).1 (by decide)
  rw [hsplit, hsplit]
  exact ((Flat.turns_palette (by decide) (by decide) hlead).append hvalue).append
    (Flat.turns_palette (by decide) (by decide) (htail.not_mem (c := '`') (by decide)))

/-- **What a declaration is read as.** Palette calls in its value are replaced, and a value that has
no backtick stays as it is. -/
theorem reads_declarationLine (hindent : IsBlank indent) (htail : IsBlank tail)
    (h : IsDeclared name value) (hl : '\n' ∉ declarationLine indent name gap value tail) :
    ∃ v, Flat.Reads (declarationLine indent name gap value tail ++ ['\n'])
        [.declaration ('@' :: name) v] ∧
      ('`' ∉ value → IsTight value → value ≠ [] → v = value) := by
  have hline : '\n' ∉ declarationLine indent name gap (Flat.replacePalettes value) tail := by
    simp only [declarationLine, List.mem_append, List.mem_cons, not_or] at hl ⊢
    refine ⟨⟨hl.1.1, fun hm => ?_⟩, hl.2⟩
    rcases mem_replaceWith hm with hm | ⟨s, new, size, hf, hm⟩
    · exact hl.1.2 hm
    · obtain ⟨_, digits, _, -, -, -, hdigits, rfl, -⟩ := Flat.paletteFind_eq_some_iff.mp hf
      rcases Flat.mem_paletteColor hm with hm | hm
      · exact absurd (hdigits _ hm) (by decide)
      · exact absurd hm (by decide)
  have hreads :=
    Flat.Reads.line hl hline (statement?_declarationLine hindent h.nameChar gap value tail)
    (turns_palette_declarationLine hindent htail h gap)
  obtain ⟨v, hv, htight⟩ := lineOf_declarationLine hindent htail.chomp h.ne_nil h.nameChar gap
    (Flat.replacePalettes value)
  rw [chomp_declarationLine, hv] at hreads
  refine ⟨v, hreads, fun htick => ?_⟩
  rwa [Flat.replacePalettes_eq_self htick] at htight

/-- **What a line of a variable text is read as:** nothing that is part of a rule, and a declaration
of the name that the line declares. -/
theorem IsVariableLine.reads (h : IsVariableLine l d) (hl : '\n' ∉ l) :
    ∃ line, Flat.Reads (l ++ ['\n']) [line] ∧ IsBlank line.body ∧
      line.declared?.map Prod.fst = d := by
  have hchomp := h.chomp
  cases h with
  | blank h =>
    have hat : '@' ∉ l ++ ['\n'] := by
      have hm := h.not_mem (c := '@') (by decide)
      simp [hm]
    have himport : ∀ rest, Flat.statement? (l ++ '\n' :: rest) = none := by
      intro rest
      rw [List.append_cons]
      exact Flat.statement?_eq_none hat ⟨'\n', by simp, by decide⟩ rest
    have hreads := Flat.Reads.line hl hl himport
      (Flat.turns_palette (by decide) (by decide) (h.not_mem (c := '`') (by decide)))
    have hblank := h.chomp
    have hof : Flat.Line.of (Text.chomp l) = .plain (Text.chomp l) := by
      have hstart := trimStart_blank hblank
      have hnone : Flat.declaration? (Text.chomp l) = none := by
        simp [Flat.declaration?, hstart, Flat.name?]
      rw [Flat.Line.of, hstart, hnone]
      rfl
    rw [hof] at hreads
    exact ⟨_, hreads, hblank.append (by decide), rfl⟩
  | @comment indent rest hindent ho hc =>
    have himport : ∀ r, Flat.statement? (indent ++ "//".toList ++ rest ++ '\n' :: r) = none := by
      intro r
      have hat : '@' ∉ indent ++ "//".toList := by
        simp only [List.mem_append, not_or]
        exact ⟨hindent.not_mem (by decide), by decide⟩
      rw [List.append_assoc]
      refine Flat.statement?_eq_none hat ⟨'/', ?_, by decide⟩ _
      exact List.mem_append_right _ (by decide)
    have hopen : '\x7b' ∉ indent ++ "//".toList ++ rest := by
      simp only [List.mem_append, not_or]
      exact ⟨⟨hindent.not_mem (by decide), by decide⟩, ho⟩
    have hreads := Flat.Reads.line hl hl himport (Flat.turns_palette (by decide) (by decide) hopen)
    have hof : Flat.Line.of (Text.chomp (indent ++ "//".toList ++ rest)) = .comment := by
      have hstart : startsWith "//".toList ('/' :: '/' :: Text.chomp rest) = true :=
        startsWith_iff.mpr (List.prefix_append "//".toList _)
      have hsplit : indent ++ "//".toList ++ Text.chomp rest =
          indent ++ '/' :: '/' :: Text.chomp rest := by
        rw [List.append_assoc]
        rfl
      rw [chomp_comment, hsplit, Flat.Line.of, Text.trimStart_append hindent,
        trimStart_cons (by decide), if_pos hstart]
    rw [hof] at hreads
    exact ⟨_, hreads, .nil, rfl⟩
  | declaration hindent htail h =>
    obtain ⟨v, hreads, -⟩ := reads_declarationLine hindent htail h hl
    exact ⟨_, hreads, .nil, rfl⟩

theorem IsVariableLine.count (h : IsVariableLine l d) : l.count '\x7b' = l.count '\x7d' := by
  have none_of_blank : ∀ t : Text, IsBlank t → t.count '\x7b' = 0 ∧ t.count '\x7d' = 0 :=
    fun t ht => ⟨List.count_eq_zero.mpr (ht.not_mem (by decide)),
      List.count_eq_zero.mpr (ht.not_mem (by decide))⟩
  cases h with
  | blank h => rw [(none_of_blank l h).1, (none_of_blank l h).2]
  | @comment indent rest hindent ho hc =>
    have hslashes : "//".toList.count '\x7b' = 0 ∧ "//".toList.count '\x7d' = 0 := by decide
    simp only [List.count_append, none_of_blank indent hindent, hslashes,
      List.count_eq_zero.mpr ho, List.count_eq_zero.mpr hc]
  | @declaration indent name gap value tail hindent htail h =>
    have hlead : ∀ c ∈ "\x7b\x7d".toList, (declarationLead indent name gap).count c = 0 := by
      intro c hc
      have hc' : isBlank c = false ∧ Flat.isNameChar c = false ∧ c ∉ "@:".toList := by
        revert c
        decide
      exact List.count_eq_zero.mpr
        (not_mem_declarationLead hindent h.nameChar hc'.1 hc'.2.1 hc'.2.2 gap)
    have hvalue := count_of_bracesMatch h.braces
    have htail' := none_of_blank _ ((by decide : IsBlank [' ']).append htail)
    have hsemi : [';'].count '\x7b' = 0 ∧ [';'].count '\x7d' = 0 := by decide
    rw [declarationLine_eq, List.append_cons]
    have hleads := And.intro (hlead '\x7b' (by decide)) (hlead '\x7d' (by decide))
    simp only [List.count_append, List.count_cons] at hvalue htail' hsemi ⊢
    omega

end Retint.Theme
