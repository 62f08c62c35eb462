import Mathlib.Data.List.TakeWhile
import Retint.Assembly
import Retint.Proofs.Pattern.Sought
import Retint.Proofs.Text.Lines
import Retint.Proofs.Text.Places
import Retint.Proofs.Text.Replace

/-!
# Cutting out declarations

A theme declares its variables anew, and older declarations of them are cut out. In a line the first
one that is found reaches to the last semicolon, so there is one cut in a line at most, and no
semicolon comes after it.

## Main definitions

* `Theme.IsOlder` — a declaration of a name that is cut out
* `Theme.IsClean` — a text without one
* `Theme.stripFind` — what is cut out at the start of a text

## Main results

* `Theme.canStrip_iff` — how long a name can be
* `Theme.exists_isOlder` — what is found is an older declaration
* `Theme.exists_strip_eq` — what becomes of a line
* `Theme.turns_strip` — a text is gone through line by line
-/

namespace Retint.Theme

open Text

variable {name n l t u piece : Text} {size : Nat}

/-! ### Older declarations -/

/-- A declaration of the name in one line, up to a semicolon. -/
def IsOlder (name piece : Text) : Prop :=
  ∃ k value, piece = name ++ List.replicate k ' ' ++ ':' :: (value ++ [';']) ∧ '\n' ∉ value

theorem IsOlder.exists_concat (h : IsOlder name piece) : ∃ p, piece = p ++ [';'] := by
  obtain ⟨k, value, rfl, -⟩ := h
  exact ⟨name ++ List.replicate k ' ' ++ ':' :: value, by simp⟩

theorem IsOlder.colon_mem (h : IsOlder name piece) : ':' ∈ piece := by
  obtain ⟨k, value, rfl, -⟩ := h
  simp

theorem IsOlder.ne_nil (h : IsOlder name piece) : piece ≠ [] := by
  obtain ⟨p, rfl⟩ := h.exists_concat
  simp

theorem IsOlder.not_mem (h : IsOlder name piece) (hname : '\n' ∉ name) : '\n' ∉ piece := by
  obtain ⟨k, value, rfl, hvalue⟩ := h
  simp [hname, hvalue]

/-- No older declaration of the name stands in the text. -/
def IsClean (name t : Text) : Prop := ∀ piece, IsOlder name piece → ¬ piece <:+: t

theorem isClean_of_not_mem (ht : ';' ∉ t) : IsClean name t := fun piece hpiece hwithin => by
  obtain ⟨p, rfl⟩ := hpiece.exists_concat
  exact ht (hwithin.subset (by simp))

theorem IsClean.of_part (h : IsClean name t) (hu : u <:+: t) : IsClean name u :=
  fun piece hpiece hwithin => h piece hpiece (hwithin.trans hu)

/-- Nothing comes together that does not end in a semicolon. -/
theorem IsClean.append (h : IsClean name t) (hu : ';' ∉ u) : IsClean name (t ++ u) :=
  fun piece hpiece hwithin => by
    obtain ⟨p, rfl⟩ := hpiece.exists_concat
    exact h _ hpiece (infix_of_infix_append hu hwithin)

/-! ### What can be looked for -/

/-- The pattern of a name covers the older declarations of it. -/
theorem matches_pattern_iff {a b : Pattern.Place} :
    Pattern.Matches (Assembly.pattern name).pattern a b ↔
      ∃ piece, IsOlder name piece ∧ a.Goes piece b := by
  have hplain : ∀ p ∈ [Pattern.Piece.group true .spaces, .char ':', .group true .inLine, .char ';'],
      p.pattern.IsPlain = true := by
    simp only [List.forall_mem_cons]
    exact ⟨rfl, rfl, rfl, rfl, nofun⟩
  have hgroup : ∀ p : Pattern.Piece, (Pattern.Piece.group true p).pattern = p.pattern :=
    fun _ => rfl
  rw [Assembly.pattern, Pattern.Piece.matches_textThen_iff (by decide) hplain]
  simp only [List.map_cons, List.map_nil, List.prod_cons, List.prod_nil, mul_one, Language.mem_mul,
    hgroup, Pattern.Piece.mem_language_spaces, Pattern.Piece.mem_language_char,
    Pattern.Piece.mem_language_inLine]
  constructor
  · rintro ⟨-, ⟨-, ⟨k, rfl⟩, -, ⟨-, rfl, -, ⟨value, hvalue, -, rfl, rfl⟩, rfl⟩, rfl⟩, hab⟩
    exact ⟨_, ⟨k, value, rfl, hvalue⟩, by simpa using hab⟩
  · rintro ⟨-, ⟨k, value, rfl, hvalue⟩, hab⟩
    refine ⟨_, ⟨_, ⟨k, rfl⟩, _, ⟨_, rfl, _, ⟨value, hvalue, _, rfl, rfl⟩, rfl⟩, rfl⟩, ?_⟩
    simpa using hab

/-- **Which names can be looked for:** those of up to so many bytes. -/
theorem canStrip_iff : Assembly.canStrip name = true ↔ Text.size name ≤ 327632 := by
  have hdepth : ∀ p ∈ [Pattern.Piece.group true .spaces, .char ':', .group true .inLine, .char ';'],
      p.depth < Pattern.Piece.depthLimit := by decide
  have hsizes : (([.group true .spaces, .char ':', .group true .inLine, .char ';'] :
      List Pattern.Piece).map Pattern.Piece.size).sum = 1304 := by decide
  rw [Assembly.canStrip, Assembly.pattern, Pattern.Piece.isUsable_textThen_iff (by decide) hdepth,
    hsizes]
  simp only [Pattern.Piece.baseSize, Pattern.Piece.sizeLimit, stateSize]
  omega

/-- A name as long as wanted. -/
def longName (k : Nat) : Text := '@' :: (List.replicate k 'a' ++ "-color".toList)

theorem size_longName (k : Nat) : Text.size (longName k) = k + 7 := by
  have hparts : Text.size "-color".toList = 6 ∧ '@'.utf8Size = 1 ∧ 'a'.utf8Size = 1 := by decide
  rw [longName, Text.size_cons, Text.size_append, Text.size_replicate, hparts.1, hparts.2.1,
    hparts.2.2]
  omega

theorem canStrip_longName {k : Nat} (h : 327625 < k) : Assembly.canStrip (longName k) = false := by
  rw [Bool.eq_false_iff, Ne, canStrip_iff, size_longName]
  omega

/-! ### What is found -/

/-- What is cut out at the start of a text with the declarations of a variable. -/
def stripFind (name t : Text) : Option (Text × Nat) :=
  if Assembly.canStrip name then (Assembly.declaration? name t).map fun size => ([], size) else none

theorem stripFind_eq (h : Assembly.canStrip name = true) (t : Text) :
    stripFind name t = (Assembly.declaration? name t).map fun size => ([], size) := if_pos h

theorem strip_eq_replaceWith (name t : Text) :
    Assembly.strip name t = replaceWith (stripFind name) t := by
  unfold Assembly.strip stripFind
  split
  · rfl
  · exact (replaceWith_eq_self fun _ _ _ => rfl).symm

theorem exists_of_stripFind {new : Text} (h : stripFind name t = some (new, size)) :
    new = [] ∧ Assembly.canStrip name = true ∧ Assembly.declaration? name t = some size := by
  unfold stripFind at h
  split at h
  · rename_i hname
    obtain ⟨_, hsize, hpair⟩ := Option.map_eq_some_iff.mp h
    obtain ⟨rfl, rfl⟩ := Prod.mk.inj hpair
    exact ⟨rfl, hname, hsize⟩
  · cases h

/-- Nothing is cut out for a name that cannot be looked for. -/
theorem strip_eq_self (h : Assembly.canStrip name = false) (t : Text) :
    Assembly.strip name t = t := by
  simp [Assembly.strip, h]

/-- **What is found is an older declaration**, up to the last semicolon of the line. -/
theorem exists_isOlder (h : Assembly.declaration? name t = some size) :
    ∃ piece rest, t = piece ++ rest ∧ IsOlder name piece ∧ size = piece.length ∧
      ('\n' ∉ t → ';' ∉ rest) := by
  unfold Assembly.declaration? at h
  split at h
  · cases h
  · rename_i after hafter
    obtain ⟨k, hk, hlen⟩ := exists_dropChar ' ' after
    split at h
    · rename_i line hline
      obtain ⟨⟨value, r⟩, hcut, rfl⟩ := Option.map_eq_some_iff.mp h
      obtain ⟨hsplit, hr⟩ := eq_of_cutLast? hcut
      obtain ⟨u, hu⟩ := List.takeWhile_prefix (l := line) (· != '\n')
      have hfeed : '\n' ∉ value := fun hm => by
        have hmem : '\n' ∈ line.takeWhile (· != '\n') := hsplit ▸ List.mem_append_left _ hm
        exact absurd (List.mem_takeWhile_imp hmem) (by decide)
      have ht : t = name ++ List.replicate k ' ' ++ ':' :: line := by
        rw [dropLead?_eq_some_iff.mp hafter, List.append_assoc, ← hline, ← hk]
      refine ⟨_, r ++ u, ?_, ⟨k, value, rfl, hfeed⟩, ?_, fun hnone => ?_⟩
      · rw [ht, ← hu, hsplit]
        simp
      · simp only [List.length_append, List.length_cons, List.length_replicate, hlen,
          List.length_nil]
        omega
      · have hwhole : line.takeWhile (· != '\n') = line :=
          List.takeWhile_eq_self_iff.mpr fun c hc => bne_iff_ne.mpr fun heq =>
            hnone (by rw [ht, ← heq]; simp [hc])
        rw [hwhole, List.append_right_eq_self] at hu
        rwa [hu, List.append_nil]
    · cases h

/-- Where an older declaration stands, one is found. -/
theorem IsOlder.declaration?_ne_none (h : IsOlder name piece) (rest : Text) :
    Assembly.declaration? name (piece ++ rest) ≠ none := by
  obtain ⟨k, value, rfl, hvalue⟩ := h
  have hdrop : dropChar ' ' (List.replicate k ' ' ++ ':' :: (value ++ ';' :: rest)) =
      ':' :: (value ++ ';' :: rest) := (dropChar_replicate_append k (by simp)).1
  have hcut : cutLast? ';' ((value ++ ';' :: rest).takeWhile (· != '\n')) ≠ none := by
    rw [Ne, cutLast?_eq_none_iff, not_not]
    have hline : ∀ c ∈ value, (c != '\n') = true := fun c hc => bne_iff_ne.mpr fun heq =>
      hvalue (heq ▸ hc)
    rw [List.takeWhile_append_of_pos hline]
    simp
  simp only [List.append_assoc, List.cons_append, List.nil_append, Assembly.declaration?,
    dropLead?_append_self, hdrop]
  simpa using hcut

/-- A text without an older declaration stays as it is. -/
theorem IsClean.strip_eq (h : IsClean name t) : Assembly.strip name t = t := by
  rw [strip_eq_replaceWith]
  refine replaceWith_eq_self fun s _ hsuf => ?_
  rw [List.append_nil, Option.eq_none_iff_forall_ne_some]
  intro found hs
  obtain ⟨piece, rest, rfl, hpiece, -⟩ := exists_isOlder (exists_of_stripFind hs).2.2
  exact h piece hpiece ((List.prefix_append piece rest).isInfix.trans hsuf.isInfix)

/-- Where none is found, none starts. -/
theorem IsClean.cons {c : Char} (h : IsClean name t) (rest : Text)
    (hnone : Assembly.declaration? name (c :: t ++ rest) = none) : IsClean name (c :: t) := by
  intro piece hpiece hwithin
  rcases List.infix_cons_iff.mp hwithin with ⟨r, hr⟩ | hwithin
  · rw [← hr, List.append_assoc] at hnone
    exact hpiece.declaration?_ne_none _ hnone
  · exact h piece hpiece hwithin

/-- **Cutting out the declarations of a name in one line.** There is none, or all from the first one
up to the last semicolon is cut out. -/
theorem exists_strip_eq (hname : Assembly.canStrip name = true) (hline : '\n' ∉ l) :
    IsClean name l ∨ ∃ a piece b, l = a ++ (piece ++ b) ∧ IsOlder name piece ∧ ';' ∉ b ∧
      Assembly.strip name l = a ++ b ∧ IsClean name a := by
  induction l with
  | nil => exact .inl (isClean_of_not_mem List.not_mem_nil)
  | cons c l ih =>
    cases hfind : Assembly.declaration? name (c :: l) with
    | some size =>
      obtain ⟨piece, b, hl, hpiece, rfl, hrest⟩ := exists_isOlder hfind
      have hb := hrest hline
      refine .inr ⟨[], piece, b, hl, hpiece, hb, ?_, isClean_of_not_mem List.not_mem_nil⟩
      rw [hl] at hfind ⊢
      have hcut : Assembly.strip name (piece ++ b) = [] ++ Assembly.strip name b := by
        rw [strip_eq_replaceWith, strip_eq_replaceWith]
        exact replaceWith_append_of_find hpiece.ne_nil (by rw [stripFind_eq hname, hfind]; rfl)
      rw [hcut, (isClean_of_not_mem hb).strip_eq]
    | none =>
      have hstrip : Assembly.strip name (c :: l) = c :: Assembly.strip name l := by
        rw [strip_eq_replaceWith, strip_eq_replaceWith]
        exact replaceWith_cons_of_none (by rw [stripFind_eq hname, hfind]; rfl)
      rcases ih fun hm => hline (List.mem_cons_of_mem c hm) with hl | ⟨a, piece, b, rfl, hrest⟩
      · exact .inl (hl.cons [] (by rwa [List.append_nil]))
      · obtain ⟨hpiece, hb, hcut, ha⟩ := hrest
        exact .inr ⟨c :: a, piece, b, rfl, hpiece, hb, by rw [hstrip, hcut]; rfl,
          ha.cons (piece ++ b) hfind⟩

/-! ### Line by line -/

theorem startsWith_stripFind (n : Text) : StartsWith (stripFind ('@' :: n)) '@' := by
  intro c t hc
  have hnone : dropLead? ('@' :: n) (c :: t) = none :=
    dropLead?_eq_none_iff.mpr fun h => hc (List.cons_prefix_cons.mp h).1.symm
  simp [stripFind, Assembly.declaration?, hnone]

theorem declaration?_line (hname : '\n' ∉ name) (l rest : Text) :
    Assembly.declaration? name (l ++ '\n' :: rest) = Assembly.declaration? name l := by
  cases hlead : dropLead? name l with
  | none =>
    have hlead' : dropLead? name (l ++ '\n' :: rest) = none := by
      rw [dropLead?_eq_none_iff] at hlead ⊢
      exact fun h => hlead (prefix_of_prefix_append_cons hname h)
    simp [Assembly.declaration?, hlead, hlead']
  | some r =>
    obtain rfl := dropLead?_eq_some_iff.mp hlead
    have hdrop : dropChar ' ' (r ++ '\n' :: rest) = dropChar ' ' r ++ '\n' :: rest :=
      dropWhile_append_stop (p := (· == ' ')) (d := '\n') (by decide) r rest
    have htake := takeWhile_append_stop (p := (· == ' ')) (d := '\n') (by decide) r rest
    simp only [Assembly.declaration?, List.append_assoc, dropLead?_append_self, hdrop, htake]
    cases hs : dropChar ' ' r with
    | nil => rfl
    | cons c after =>
      have hline := takeWhile_append_stop (p := (· != '\n')) (d := '\n') (by decide) after rest
      by_cases hc : c = ':'
      · subst hc
        simp only [List.cons_append, hline]
      · simp [hc]

theorem closed_strip (hname : '\n' ∉ name) (l rest : Text) :
    Closed (stripFind name) l ('\n' :: rest) := by
  intro s _ hsuf
  refine ⟨?_, fun new size hf => ?_⟩
  · rw [stripFind, declaration?_line hname, stripFind]
  · obtain ⟨-, -, hsize⟩ := exists_of_stripFind hf
    obtain ⟨piece, r, rfl, hpiece, rfl, -⟩ := exists_isOlder hsize
    exact ⟨List.length_pos_iff.mpr hpiece.ne_nil, by simp⟩

/-- Declarations are cut out line by line. -/
theorem turns_strip (hn : '\n' ∉ n) (l : Text) :
    Turns (stripFind ('@' :: n)) (l ++ ['\n']) (Assembly.strip ('@' :: n) l ++ ['\n']) := by
  have hname : '\n' ∉ '@' :: n := by simpa using hn
  rw [strip_eq_replaceWith]
  exact turns_concat (closed_strip hname l) fun rest =>
    startsWith_stripFind n '\n' rest (by decide)

/-- No declaration starts in a value without colons. -/
theorem turns_strip_value (ht : ∀ c ∈ ";:".toList, c ∉ t) (hn : ∀ c ∈ ";:".toList, c ∉ n) :
    Turns (stripFind ('@' :: n)) (t ++ [';']) (t ++ [';']) := by
  refine turns_of_silent fun rest s hs hsuf => ?_
  obtain ⟨u, rfl, hu⟩ := exists_of_suffix_concat hs hsuf
  rw [Option.eq_none_iff_forall_ne_some]
  intro found hfound
  obtain ⟨_, r, heq, ⟨k, value, rfl, -⟩, -⟩ := exists_isOlder (exists_of_stripFind hfound).2.2
  have hlead : ';' ∉ '@' :: n ++ List.replicate k ' ' ∧ ':' ∉ '@' :: n ++ List.replicate k ' ' := by
    simp [hn]
  have hrest : ∀ c ∈ ";:".toList, c ∉ u := fun c hc hm => ht c hc (hu.subset hm)
  rw [List.append_assoc, List.singleton_append, List.append_assoc, List.cons_append] at heq
  obtain ⟨-, hsign, -⟩ :=
    append_cons_inj_of_not_mem ⟨hrest _ (by decide), hrest _ (by decide)⟩ hlead heq
  exact absurd hsign (by decide)

/-- What is left is made of characters of the text. -/
theorem sublist_strip (name t : Text) : (Assembly.strip name t).Sublist t := by
  rw [strip_eq_replaceWith]
  exact sublist_replaceWith (fun s new size hf => (exists_of_stripFind hf).1) t

theorem strip_append {a : Text} (ha : '@' ∉ a) (n t : Text) :
    Assembly.strip ('@' :: n) (a ++ t) = a ++ Assembly.strip ('@' :: n) t := by
  rw [strip_eq_replaceWith, strip_eq_replaceWith]
  exact (startsWith_stripFind n).turns ha t

theorem strip_of_not_mem (ht : ':' ∉ t) (name : Text) : Assembly.strip name t = t :=
  IsClean.strip_eq fun _ hpiece hwithin => ht (hwithin.subset hpiece.colon_mem)

end Retint.Theme
