import Retint.Compiler.Flat
import Retint.Proofs.Colors.Literal
import Retint.Proofs.Dict
import Retint.Proofs.Text.Lines

/-!
# Reading a source part by part

The compiler for flat sheets goes over a whole source several times: for imports, for palette calls,
for lines. A part of a source that ends with a line is read by itself in each of these passes, so
what the compiler makes of a source can be put together from what it reads in the parts.

## Main definitions

* `Flat.call` — a palette call
* `Flat.Reads` — what lines a part of a source is read as, whatever comes after it

## Main results

* `Flat.paletteCall?_eq_some_iff` — which texts start with a palette call
* `Flat.Reads.append` — parts after one another
* `Flat.Reads.compile_eq` — what a source compiles to, by the lines that are read
-/

namespace Retint.Flat

open Text

variable {t l : Text} {ls : List Line}

/-! ### Imports -/

theorem assemble_consChar (inline : Text → Except Failure Text) (c : Char)
    (ps : List Import.Piece) :
    assemble inline (Import.consChar c ps) = (assemble inline ps).map (c :: ·) := by
  cases ps with
  | nil => rfl
  | cons p ps =>
    cases p with
    | verbatim t => cases h : assemble inline ps <;> simp [Import.consChar, assemble, h, Except.map]
    | statement t target =>
      rw [Import.consChar, assemble]
      · rfl
      · simp

theorem assemble_piecesFrom_line (inline : Text → Except Failure Text) (hl : '\n' ∉ l)
    (rest : Text) :
    assemble inline (Import.piecesFrom statement? false 0 (l ++ '\n' :: rest)) =
      (assemble inline (Import.piecesFrom statement? true 0 rest)).map (l ++ '\n' :: ·) := by
  induction l with
  | nil =>
    rw [List.nil_append, Import.piecesFrom]
    exact assemble_consChar inline _ _
  | cons c l ih =>
    simp only [List.mem_cons, not_or] at hl
    have hc : (c == '\n') = false := beq_eq_false_iff_ne.mpr (Ne.symm hl.1)
    rw [List.cons_append, Import.piecesFrom, hc]
    refine (assemble_consChar inline c _).trans ?_
    rw [ih hl.2]
    cases assemble inline (Import.piecesFrom statement? true 0 rest) <;> rfl

/-- A line that is no import comes out as it is. -/
theorem assemble_line (inline : Text → Except Failure Text) (hl : '\n' ∉ l) (rest : Text)
    (h : statement? (l ++ '\n' :: rest) = none) :
    assemble inline (Import.piecesFrom statement? true 0 (l ++ '\n' :: rest)) =
      (assemble inline (Import.piecesFrom statement? true 0 rest)).map (l ++ '\n' :: ·) := by
  rw [← assemble_piecesFrom_line inline hl rest]
  congr 1
  cases l with
  | nil =>
    rw [List.nil_append] at h ⊢
    simp only [Import.piecesFrom, h, if_true]
    rfl
  | cons c l =>
    rw [List.cons_append] at h ⊢
    simp only [Import.piecesFrom, h, if_true]
    rfl

/-- There is no import where something else comes first on the line. -/
theorem statement?_eq_none {a : Text} (hat : '@' ∉ a)
    (ha : ∃ c ∈ a, Import.isLineBlank c = false) (b : Text) : statement? (a ++ b) = none := by
  have hdrop : ∃ c s, (a ++ b).dropWhile Import.isLineBlank = c :: s ∧ c ≠ '@' := by
    induction a with
    | nil => simp at ha
    | cons c a ih =>
      simp only [List.mem_cons, not_or] at hat
      rw [List.cons_append, List.dropWhile_cons]
      split
      · rename_i hc
        refine ih hat.2 ?_
        obtain ⟨d, hd, hblank⟩ := ha
        rcases List.mem_cons.mp hd with rfl | hd
        · rw [hc] at hblank
          cases hblank
        · exact ⟨d, hd, hblank⟩
      · exact ⟨c, a ++ b, rfl, Ne.symm hat.1⟩
  obtain ⟨c, s, hs, hc⟩ := hdrop
  have hkeyword : Import.keyword? (a ++ b) = none := by
    unfold Import.keyword?
    rw [hs, dropLead?_eq_none_iff]
    intro hlead
    exact hc (List.cons_prefix_cons.mp hlead).1.symm
  simp [statement?, hkeyword]

/-- There is no import where a colon comes before any quote. -/
theorem statement?_eq_none_of_colon {a : Text} (ha : ∀ c ∈ a, Import.isQuote c = false) (b : Text) :
    statement? (a ++ ':' :: b) = none := by
  cases hk : Import.keyword? (a ++ ':' :: b) with
  | none => simp [statement?, hk]
  | some r =>
    have htarget : Import.target? (trimStart r) = none := by
      rw [Import.keyword?, dropWhile_append_stop (by decide), dropLead?_eq_some_iff] at hk
      obtain ⟨m, hm⟩ := prefix_of_prefix_append_cons (by decide) ⟨r, hk.symm⟩
      rw [← hm, List.append_assoc, List.append_cancel_left_eq] at hk
      obtain ⟨d, s, hs, hd⟩ := exists_trimStart (c := ':') (by decide) m b
      have hquote : Import.isQuote d = false := by
        rcases List.mem_append.mp hd with hd | hd
        · refine ha d ((List.dropWhile_sublist Import.isLineBlank).subset ?_)
          rw [← hm]
          exact List.mem_append_right _ hd
        · obtain rfl := List.mem_singleton.mp hd
          decide
      rw [← hk, hs, Import.target?, hquote]
      rfl
    simp [statement?, hk, htarget]

/-! ### Palette calls -/

/-- A palette call for a name, with the digits of an index. -/
def call (name digits : Text) : Text :=
  Shade.callLead ++ name ++ Shade.callMiddle ++ digits ++ Shade.callTail

/-- What is replaced at the start of a text when palette calls are. -/
def paletteFind (t : Text) : Option (Text × Nat) :=
  (paletteCall? t).map fun (digits, n) => (paletteColor digits, n)

theorem mem_paletteColor {c : Char} {digits : Text} (h : c ∈ paletteColor digits) :
    c ∈ digits ∨ c ∈ "#0".toList := by
  have hzero : '0' ∈ "#0".toList := by decide
  simp only [paletteColor, List.mem_append, List.mem_cons] at h
  rcases h with ((h | h) | rfl | h) | rfl | h
  · exact .inr h
  · exact .inl h
  · exact .inr hzero
  · exact .inl h
  · exact .inr hzero
  · exact .inl h

theorem call_ne_nil (name digits : Text) : call name digits ≠ [] := by
  intro h
  rw [call] at h
  simp only [List.append_eq_nil_iff] at h
  exact absurd h.1.1.1.1 (by decide)

theorem not_mem_call {c : Char} {name digits : Text}
    (hc : c ∉ Shade.callLead ++ Shade.callMiddle ++ Shade.callTail) (hname : c ∉ name)
    (hdigits : c ∉ digits) : c ∉ call name digits := by
  simp only [List.mem_append, not_or] at hc
  simp only [call, List.mem_append, not_or]
  exact ⟨⟨⟨⟨hc.1.1, hname⟩, hc.1.2⟩, hdigits⟩, hc.2⟩

/-- The braces of a call are those around the name. -/
theorem count_call {name digits : Text} (hname : ∀ c ∈ "\x7b\x7d".toList, c ∉ name)
    (hdigits : ∀ c ∈ "\x7b\x7d".toList, c ∉ digits) :
    (call name digits).count '\x7b' = (call name digits).count '\x7d' := by
  have hparts : Shade.callLead.count '\x7b' + Shade.callMiddle.count '\x7b' +
      Shade.callTail.count '\x7b' = Shade.callLead.count '\x7d' + Shade.callMiddle.count '\x7d' +
      Shade.callTail.count '\x7d' := by decide
  have hzero : ∀ c ∈ "\x7b\x7d".toList, name.count c = 0 ∧ digits.count c = 0 := fun c hc =>
    ⟨List.count_eq_zero.mpr (hname c hc), List.count_eq_zero.mpr (hdigits c hc)⟩
  simp only [call, List.count_append, hzero '\x7b' (by decide), hzero '\x7d' (by decide)]
  omega

theorem paletteCall?_eq (t : Text) :
    paletteCall? t = (dropLead? Shade.callLead t).bind fun r₁ =>
      (dropLead? Shade.callMiddle (r₁.drop (r₁.takeWhile (· != '\x7d')).length)).bind fun r₂ =>
        if (r₂.takeWhile Unicode.isDigit).isEmpty then none
        else (dropLead? Shade.callTail
            (r₂.drop (r₂.takeWhile Unicode.isDigit).length)).bind fun _ =>
          some (r₂.takeWhile Unicode.isDigit,
            Shade.callLead.length + (r₁.takeWhile (· != '\x7d')).length + Shade.callMiddle.length +
              (r₂.takeWhile Unicode.isDigit).length + Shade.callTail.length) :=
  rfl

/-- A text starts with a palette call exactly if it is one with something after it. -/
theorem paletteCall?_eq_some_iff {digits : Text} {n : Nat} :
    paletteCall? t = some (digits, n) ↔
      ∃ name rest, t = call name digits ++ rest ∧ '\x7d' ∉ name ∧ digits ≠ [] ∧
        (∀ c ∈ digits, Unicode.isDigit c = true) ∧ n = (call name digits).length := by
  rw [paletteCall?_eq]
  constructor
  · intro h
    obtain ⟨r₁, h₁, h⟩ := Option.bind_eq_some_iff.mp h
    obtain ⟨r₂, h₂, h⟩ := Option.bind_eq_some_iff.mp h
    have hname := List.prefix_iff_eq_append.mp (List.takeWhile_prefix (l := r₁) (· != '\x7d'))
    have hdigits := List.prefix_iff_eq_append.mp (List.takeWhile_prefix (l := r₂) Unicode.isDigit)
    have all_name := List.all_takeWhile (l := r₁) (p := (· != '\x7d'))
    have all_digits := List.all_takeWhile (l := r₂) (p := Unicode.isDigit)
    generalize r₁.takeWhile (· != '\x7d') = name at *
    generalize r₂.takeWhile Unicode.isDigit = ds at *
    split at h
    · cases h
    · rename_i hne
      obtain ⟨r₃, h₃, h⟩ := Option.bind_eq_some_iff.mp h
      obtain ⟨rfl, rfl⟩ := Prod.mk.inj (Option.some.inj h)
      refine ⟨name, r₃, ?_, ?_, ?_, List.all_eq_true.mp all_digits, ?_⟩
      · rw [dropLead?_eq_some_iff.mp h₁, ← hname, dropLead?_eq_some_iff.mp h₂, ← hdigits,
          dropLead?_eq_some_iff.mp h₃]
        simp only [call, List.append_assoc]
      · intro hm
        exact absurd (List.all_eq_true.mp all_name _ hm) (by decide)
      · simpa using hne
      · simp only [call, List.length_append]
  · rintro ⟨name, rest, rfl, hname, hne, hdigits, rfl⟩
    have no_brace : ∀ c ∈ name, (c != '\x7d') = true := by
      intro c hc
      refine bne_iff_ne.mpr ?_
      rintro rfl
      exact hname hc
    have take_name : ∀ r, (name ++ (Shade.callMiddle ++ r)).takeWhile (· != '\x7d') = name :=
      fun r => takeWhile_append_cons (d := '\x7d') no_brace (by decide) _
    have take_digits : ∀ r, (digits ++ (Shade.callTail ++ r)).takeWhile Unicode.isDigit = digits :=
      fun r => takeWhile_append_cons (d := ')') hdigits (by decide) _
    simp only [call, List.append_assoc]
    rw [dropLead?_append_self, Option.bind_some, take_name, List.drop_left, dropLead?_append_self,
      Option.bind_some, take_digits, List.drop_left, if_neg (by simpa using hne),
      dropLead?_append_self, Option.bind_some]
    simp only [List.length_append, Nat.add_assoc]

theorem paletteFind_eq_some_iff {new : Text} {n : Nat} :
    paletteFind t = some (new, n) ↔
      ∃ name digits rest, t = call name digits ++ rest ∧ '\x7d' ∉ name ∧ digits ≠ [] ∧
        (∀ c ∈ digits, Unicode.isDigit c = true) ∧ new = paletteColor digits ∧
        n = (call name digits).length := by
  simp only [paletteFind, Option.map_eq_some_iff, Prod.exists, Prod.mk.injEq,
    paletteCall?_eq_some_iff]
  constructor
  · rintro ⟨digits, _, ⟨name, rest, ht, hname, hne, hdigits, rfl⟩, rfl, rfl⟩
    exact ⟨name, digits, rest, ht, hname, hne, hdigits, rfl, rfl⟩
  · rintro ⟨name, digits, rest, ht, hname, hne, hdigits, rfl, rfl⟩
    exact ⟨digits, _, ⟨name, rest, ht, hname, hne, hdigits, rfl⟩, rfl, rfl⟩

/-- Nothing is replaced where a text does not start like a palette call. -/
theorem paletteFind_eq_none (h : ¬ Shade.callLead <+: t) : paletteFind t = none := by
  rw [Option.eq_none_iff_forall_ne_some]
  rintro ⟨new, n⟩ hf
  obtain ⟨name, digits, rest, rfl, -⟩ := paletteFind_eq_some_iff.mp hf
  refine h ?_
  simp only [call, List.append_assoc]
  exact List.prefix_append _ _

theorem replacePalettes_eq_self (h : '`' ∉ t) : replacePalettes t = t := by
  refine replaceWith_eq_self fun s _ hsuf => paletteFind_eq_none fun hlead => h ?_
  rw [List.append_nil] at hlead
  exact hsuf.subset (hlead.subset (by decide))

/-- A part that lacks one of the characters that each palette call starts with is copied, if it ends
in a character that is none of them. -/
theorem turns_palette {c d : Char} (hc : c ∈ Shade.callLead) (hd : d ∉ Shade.callLead)
    (hl : c ∉ l) :
    Turns paletteFind (l ++ [d]) (l ++ [d]) := by
  refine turns_of_silent fun rest s hs hsuf => paletteFind_eq_none fun hlead => ?_
  obtain ⟨s, rfl, hsl⟩ := exists_of_suffix_concat hs hsuf
  rw [List.append_assoc] at hlead
  have hled := prefix_of_prefix_append_cons hd hlead
  exact hl (hsl.subset (hled.subset hc))

theorem turns_palette_end : Turns paletteFind ['\n'] ['\n'] :=
  turns_palette (l := []) (c := '`') (by decide) (by decide) (by decide)

/-- Where each palette call that starts in a part has the brace that closes its name there too, the
calls in the part are the same whatever comes after a character that stands in no call. -/
theorem closed_palette {d : Char} (hd : d ∉ Shade.callLead ++ Shade.callMiddle ++ Shade.callTail)
    (hdigit : Unicode.isDigit d = false) (hl : d ∉ l)
    (hbrace : ∀ s, Shade.callLead ++ s <:+ l → '\x7d' ∈ s) (rest : Text) :
    Closed paletteFind l (d :: rest) := by
  intro s hs hsuf
  have hds : d ∉ s := fun hm => hl (hsuf.subset hm)
  have hlead : d ∉ Shade.callLead := fun hm => hd (by simp only [List.mem_append, hm, true_or])
  refine ⟨?_, fun new n hf => ?_⟩
  · ext ⟨new, n⟩
    simp only [paletteFind_eq_some_iff]
    refine exists_congr fun name => exists_congr fun digits => ⟨?_, ?_⟩
    · rintro ⟨r, hr, hname, hne, hdigits, h⟩
      have hled : Shade.callLead <+: s := by
        refine prefix_of_prefix_append_cons hlead (b := rest) ?_
        rw [hr]
        simp only [call, List.append_assoc]
        exact List.prefix_append _ _
      obtain ⟨u, rfl⟩ := hled
      obtain ⟨a, b, rfl, ha⟩ := List.eq_append_cons_of_mem (hbrace u hsuf)
      have hmiddle : Shade.callMiddle = '\x7d' :: "\", ".toList := by decide
      have hsplit : a ++ '\x7d' :: (b ++ d :: rest) =
          name ++ '\x7d' :: ("\", ".toList ++ digits ++ Shade.callTail ++ r) := by
        simpa only [call, hmiddle, List.append_assoc, List.cons_append,
          List.append_cancel_left_eq] using hr
      obtain ⟨rfl, -⟩ := append_cons_inj ha hname hsplit
      have hcall : d ∉ call a digits := by
        refine not_mem_call hd (fun hm => hds ?_) fun hm => ?_
        · exact List.mem_append_right _ (List.mem_append_left _ hm)
        · rw [hdigits d hm] at hdigit
          cases hdigit
      obtain ⟨r', hr'⟩ := prefix_of_prefix_append_cons hcall ⟨r, hr.symm⟩
      exact ⟨r', hr'.symm, hname, hne, hdigits, h⟩
    · rintro ⟨r, rfl, h⟩
      exact ⟨r ++ d :: rest, by rw [List.append_assoc], h⟩
  · obtain ⟨name, digits, r, rfl, -, -, -, -, rfl⟩ := paletteFind_eq_some_iff.mp hf
    refine ⟨List.length_pos_iff.mpr (call_ne_nil name digits), ?_⟩
    rw [List.length_append]
    omega

/-- A palette call after text without a backtick. -/
theorem turns_palette_call {q name digits : Text} (hq : '`' ∉ q) (hname : '\x7d' ∉ name)
    (hne : digits ≠ []) (hdigits : ∀ c ∈ digits, Unicode.isDigit c = true) :
    Turns paletteFind (q ++ call name digits) (q ++ paletteColor digits) := by
  have hfind : ∀ rest, paletteFind (call name digits ++ rest) =
      some (paletteColor digits, (call name digits).length) := fun rest =>
    paletteFind_eq_some_iff.mpr ⟨name, digits, rest, rfl, hname, hne, hdigits, rfl, rfl⟩
  intro rest
  have hsilent : Silent paletteFind q (call name digits ++ rest) := by
    -- A call that starts in `q` would have its first backtick where this one has it.
    intro s hs hsuf
    refine paletteFind_eq_none fun ⟨r, hr⟩ => hs ?_
    have hsplit : Shade.callLead = "color(~".toList ++ '`' :: "colorPalette(\"@\x7b".toList := by
      decide
    simp only [call, hsplit, List.append_assoc, List.cons_append] at hr
    rw [← List.append_assoc] at hr
    have htick : '`' ∉ s ++ "color(~".toList := by
      intro hm
      rcases List.mem_append.mp hm with hm | hm
      · exact hq (hsuf.subset hm)
      · exact absurd hm (by decide)
    have heq := (append_cons_inj (by decide) htick hr).1
    exact List.append_left_eq_self.mp heq.symm
  rw [List.append_assoc, replaceWith_append_of_silent hsilent,
    replaceWith_append_of_find (call_ne_nil name digits) (hfind rest), List.append_assoc]

/-! ### What is read -/

/-- The lines that a source is read as. -/
def readLines (t : Text) : List Line := (Text.lines t).map Line.of

/-- Whatever comes after `t`, it has no imports and its palette calls are replaced by themselves,
and then it is read as these lines. -/
structure Reads (t : Text) (ls : List Line) : Prop where
  imports : ∀ inline rest, assemble inline (Import.piecesFrom statement? true 0 (t ++ rest)) =
    (assemble inline (Import.piecesFrom statement? true 0 rest)).map (t ++ ·)
  lines : ∃ t', Turns paletteFind t t' ∧ ∀ rest, readLines (t' ++ rest) = ls ++ readLines rest

theorem Reads.nil : Reads [] [] where
  imports := fun inline rest => by
    rw [List.nil_append]
    cases assemble inline (Import.piecesFrom statement? true 0 rest) <;> rfl
  lines := ⟨[], .nil, fun _ => rfl⟩

/-- Parts after one another. -/
theorem Reads.append {u : Text} {ms : List Line} (h : Reads t ls) (h' : Reads u ms) :
    Reads (t ++ u) (ls ++ ms) where
  imports := fun inline rest => by
    rw [List.append_assoc, h.imports, h'.imports]
    cases assemble inline (Import.piecesFrom statement? true 0 rest) <;>
      simp [Except.map, List.append_assoc]
  lines := by
    obtain ⟨t', ht, hls⟩ := h.lines
    obtain ⟨u', hu, hms⟩ := h'.lines
    exact ⟨t' ++ u', ht.append hu,
      fun rest => by rw [List.append_assoc, hls, hms, List.append_assoc]⟩

theorem Reads.flatMap {α : Type} {f : α → Text} {g : α → List Line} : ∀ {l : List α},
    (∀ x ∈ l, Reads (f x) (g x)) → Reads (l.flatMap f) (l.flatMap g)
  | [], _ => .nil
  | x :: l, h => by
    obtain ⟨hx, hl⟩ := List.forall_mem_cons.mp h
    exact hx.append (Reads.flatMap hl)

/-- A line on its own, which palette calls may turn into another one. -/
theorem Reads.line {l' : Text} (hl : '\n' ∉ l) (hl' : '\n' ∉ l')
    (himport : ∀ rest, statement? (l ++ '\n' :: rest) = none)
    (hturn : Turns paletteFind (l ++ ['\n']) (l' ++ ['\n'])) :
    Reads (l ++ ['\n']) [Line.of (chomp l')] where
  imports := fun inline rest => by
    simp only [List.append_assoc, List.singleton_append]
    exact assemble_line inline hl rest (himport rest)
  lines := by
    refine ⟨_, hturn, fun rest => ?_⟩
    rw [List.append_assoc, readLines, List.singleton_append, lines_append_cons hl']
    rfl

/-- **What a source compiles to,** by the lines that are read. -/
theorem Reads.compile_eq (h : Reads t ls) (hbraces : t.count '\x7b' = t.count '\x7d')
    (fs : FileSystem) (includes : List Path) :
    compile fs t includes = ((rules (ls.flatMap Line.body)).mapM
      (Rule.css (Dict.ofList (ls.filterMap Line.declared?)))).map List.flatten := by
  obtain ⟨t', hturn, hlines⟩ := h.lines
  have hinline : inlineImports fs includes importDepth t = .ok t := by
    have himports := fun inline => h.imports inline []
    rw [List.append_nil] at himports
    rw [importDepth, inlineImports, himports]
    simp [Import.piecesFrom, assemble, Except.map]
  have hread : (Text.lines (replacePalettes t)).map Line.of = ls := by
    have hpalettes : replacePalettes t = t' := hturn.replaceWith_eq
    have hall := hlines []
    rw [List.append_nil] at hall
    rw [hpalettes, ← readLines, hall]
    exact List.append_nil ls
  rw [compile, hinline]
  simp only [compileInlined, hbraces, ne_eq, not_true_eq_false, if_false, Program.of, hread]

end Retint.Flat
