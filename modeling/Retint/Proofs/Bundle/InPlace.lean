import Retint.Proofs.Bundle.Expansion

/-!
# What a bundle is made of

The own text of a file is its text without the imports that are inlined. In the expansion of a
sheet the own text of every file that is met comes once and in its order, with what the file imports
before what follows the import. Files do not run into each other: a line of the bundle belongs to
one file.

## Main definitions

* `Bundle.ownText` — the text of pieces without the imports that are inlined
* `Bundle.InPlace` — the own text of a file and its imports are where they should be
* `Bundle.tagged` — the characters of a bundle with the files that they come from

## Main results

* `Bundle.Expansion.inPlace` — whatever is met is in place
* `Bundle.Expansion.seams` — where the text of one file meets that of another, a line ends
* `Bundle.bundle_inPlace` — a bundle is the expansion of its entry, in which every file that is
  reached is in place and lines are kept
-/

namespace Retint.Bundle

open Import Relation

/-! ### Own text -/

/-- The text of pieces without the imports that are inlined. -/
def ownText (dir : Path) (ps : List Piece) : Text :=
  (ps.filter fun p => (importOf? dir p).isNone).flatMap Piece.text

/-- The text that comes from a file. -/
def fileText (file : Path) (blocks : List Block) : Text :=
  textOf (blocks.filter fun b => b.file = file)

variable {source : Source Id} {opened opened' seen seen' : List Path} {dir file path next : Path}
  {p : Piece} {ps : List Piece} {blocks inner more : List Block}

@[simp] theorem ownText_nil (dir : Path) : ownText dir [] = [] := rfl

theorem ownText_cons_own (h : importOf? dir p = none) (ps : List Piece) :
    ownText dir (p :: ps) = p.text ++ ownText dir ps := by
  simp [ownText, h]

theorem ownText_cons_import (h : importOf? dir p = some path) (ps : List Piece) :
    ownText dir (p :: ps) = ownText dir ps := by
  simp [ownText, h]

@[simp] theorem fileText_nil (file : Path) : fileText file [] = [] := rfl

theorem fileText_cons_self (file : Path) (t : Text) (blocks : List Block) :
    fileText file (⟨file, t⟩ :: blocks) = t ++ fileText file blocks := by
  simp [fileText, textOf]

theorem fileText_append (file : Path) (blocks more : List Block) :
    fileText file (blocks ++ more) = fileText file blocks ++ fileText file more := by
  simp [fileText, textOf]

theorem fileText_eq_nil (h : ∀ b ∈ blocks, b.file ≠ file) : fileText file blocks = [] := by
  rw [fileText, List.filter_eq_nil_iff.2]
  · rfl
  · simpa using h

/-! ### Files in place -/

/-- The own text of a file comes in the blocks once and in order, and at each of its imports the
blocks can be cut so that what the file has before the import is on the left, what it has after it
is on the right, and the imported file is not on the right. -/
structure InPlace (source : Source Id) (opened seen : List Path) (blocks : List Block) (file : Path)
    (ps : List Piece) : Prop where
  own : fileText file blocks = ownText (dirOf file) ps
  imports : ∀ before p after path, ps = before ++ p :: after →
    importOf? (dirOf file) p = some path →
    ∃ next, source.canonical path = .ok next ∧ next ∈ seen ∧ next ∉ opened ∧
      ∃ left right, blocks = left ++ right ∧ fileText file left = ownText (dirOf file) before ∧
        fileText file right = ownText (dirOf file) after ∧ ∀ b ∈ right, b.file ≠ next

theorem InPlace.append_left (h : InPlace source opened seen blocks file ps)
    (hmore : ∀ b ∈ more, b.file ≠ file) : InPlace source opened seen (more ++ blocks) file ps where
  own := by rw [fileText_append, fileText_eq_nil hmore, List.nil_append, h.own]
  imports before p after path hps hpiece := by
    obtain ⟨next, hpath, hseen, hopened, left, right, rfl, hleft, hright, hnext⟩ :=
      h.imports before p after path hps hpiece
    refine ⟨next, hpath, hseen, hopened, more ++ left, right, by rw [List.append_assoc], ?_, hright,
      hnext⟩
    rw [fileText_append, fileText_eq_nil hmore, List.nil_append, hleft]

/-- What comes later is of files that were being inlined, or that are met later. -/
theorem InPlace.append_right (h : InPlace source opened' seen blocks file ps)
    (hopened : opened ⊆ opened') (hseen : seen ⊆ seen') (hfile : ∀ b ∈ more, b.file ≠ file)
    (hmore : ∀ b ∈ more, b.file ∈ opened' ∨ b.file ∉ seen) :
    InPlace source opened seen' (blocks ++ more) file ps where
  own := by rw [fileText_append, fileText_eq_nil hfile, List.append_nil, h.own]
  imports before p after path hps hpiece := by
    obtain ⟨next, hpath, hnext, hnotOpened, left, right, rfl, hleft, hright, hlast⟩ :=
      h.imports before p after path hps hpiece
    refine ⟨next, hpath, hseen hnext, fun hmem => hnotOpened (hopened hmem), left, right ++ more,
      by rw [List.append_assoc], hleft, ?_, ?_⟩
    · rw [fileText_append, fileText_eq_nil hfile, List.append_nil, hright]
    · intro b hb
      rcases List.mem_append.1 hb with hb | hb
      · exact hlast b hb
      · rintro rfl
        exact (hmore b hb).elim hnotOpened fun hnew => hnew hnext

theorem InPlace.cons_own (h : InPlace source opened seen blocks file ps)
    (hpiece : importOf? (dirOf file) p = none) :
    InPlace source opened seen (⟨file, p.text⟩ :: blocks) file (p :: ps) where
  own := by rw [fileText_cons_self, ownText_cons_own hpiece, h.own]
  imports before q after path hps hq := by
    cases before with
    | nil =>
      obtain ⟨rfl, -⟩ := List.cons.inj hps
      simp [hpiece] at hq
    | cons b before =>
      obtain ⟨rfl, htail⟩ := List.cons.inj hps
      obtain ⟨next, hpath, hseen, hopened, left, right, rfl, hleft, hright, hnext⟩ :=
        h.imports before q after path htail hq
      refine ⟨next, hpath, hseen, hopened, ⟨file, p.text⟩ :: left, right, rfl, ?_, hright, hnext⟩
      rw [fileText_cons_self, ownText_cons_own hpiece, hleft]

/-- An import comes before the rest of the file, and nothing after it is of what it imports. -/
theorem InPlace.cons_import (h : InPlace source opened seen blocks file ps)
    (hpiece : importOf? (dirOf file) p = some path) (hpath : source.canonical path = .ok next)
    (hseen : next ∈ seen) (hopened : next ∉ opened) (hinner : ∀ b ∈ inner, b.file ≠ file)
    (hnext : ∀ b ∈ blocks, b.file ≠ next) :
    InPlace source opened seen (inner ++ blocks) file (p :: ps) where
  own := by
    rw [fileText_append, fileText_eq_nil hinner, List.nil_append, ownText_cons_import hpiece, h.own]
  imports before q after path' hps hq := by
    cases before with
    | nil =>
      obtain ⟨rfl, rfl⟩ := List.cons.inj hps
      obtain rfl := Option.some.inj (hpiece.symm.trans hq)
      exact ⟨next, hpath, hseen, hopened, inner, blocks, rfl, fileText_eq_nil hinner, h.own, hnext⟩
    | cons b before =>
      obtain ⟨rfl, htail⟩ := List.cons.inj hps
      obtain ⟨next', hpath', hseen', hopened', left, right, rfl, hleft, hright, hnext'⟩ :=
        h.imports before q after path' htail hq
      refine ⟨next', hpath', hseen', hopened', inner ++ left, right, by rw [List.append_assoc], ?_,
        hright, hnext'⟩
      rw [fileText_append, fileText_eq_nil hinner, List.nil_append, ownText_cons_import hpiece,
        hleft]

/-- The pieces of a file are in place in what they expand to. -/
theorem Expansion.inPlace_file (h : Expansion source opened file ps seen blocks seen')
    (hopened : opened ⊆ seen) (hfile : file ∈ opened) :
    InPlace source opened seen' blocks file ps := by
  induction h with
  | nil => exact ⟨rfl, fun before p after path hps => by simp at hps⟩
  | own hpiece _ ih => exact (ih hopened hfile).cons_own hpiece
  | @again opened seen seen' file path next p ps blocks hpiece hpath hnotOpened hseen rest ih =>
    have hne := (ne_of_mem_of_not_mem hfile hnotOpened).symm
    have hinner : ∀ b ∈ ([] : List Block), b.file ≠ file := List.forall_mem_nil _
    exact (ih hopened hfile).cons_import hpiece hpath (rest.subset hseen) hnotOpened hinner
      fun b => rest.file_ne hseen hne
  | first hpiece hpath hnotOpened hnew hread inside rest ihInside ihRest =>
    have hne := (ne_of_mem_of_not_mem hfile hnotOpened).symm
    have hmid := List.cons_subset.1 inside.subset
    refine (ihRest (fun f hf => hmid.2 (hopened hf)) hfile).cons_import hpiece hpath
      (rest.subset hmid.1) hnotOpened (fun b => ?_) fun b => rest.file_ne hmid.1 hne
    exact inside.file_ne (List.mem_cons_of_mem _ (hopened hfile)) hne.symm

/-- Whatever is met on the way is in place. -/
theorem Expansion.inPlace (h : Expansion source opened file ps seen blocks seen')
    (hopened : opened ⊆ seen) (hfile : file ∈ opened) {f : Path} (hf : f ∈ seen')
    (hnew : f ∉ seen) :
    ∃ content, source.read f = .ok content ∧
      InPlace source opened seen' blocks f (pieces content) := by
  induction h with
  | nil => exact absurd hf hnew
  | @own opened seen seen' file p ps blocks _ _ ih =>
    obtain ⟨content, hread, hplace⟩ := ih hopened hfile hf hnew
    have hmore : ∀ b ∈ [Block.mk file p.text], b.file ≠ f := by
      rw [List.forall_mem_singleton]
      exact ne_of_mem_of_not_mem (hopened hfile) hnew
    exact ⟨content, hread, hplace.append_left hmore⟩
  | again _ _ _ _ _ ih => exact ih hopened hfile hf hnew
  | @first opened seen mid seen' file path next content p ps inner blocks hpiece hpath hnotOpened
      hnext hread inside rest ihInside ihRest =>
    have hmid := List.cons_subset.1 inside.subset
    have hopenedNext := append_subset_cons hopened next
    have hnextOpened : next ∈ opened ++ [next] := by simp
    by_cases hf' : f ∈ mid
    · -- What is met inside stays in place whatever the rest of the pieces adds.
      obtain ⟨content', hread', hplace⟩ : ∃ content', source.read f = .ok content' ∧
          InPlace source (opened ++ [next]) mid inner f (pieces content') := by
        by_cases heq : f = next
        · subst heq
          exact ⟨content, hread, inside.inPlace_file hopenedNext hnextOpened⟩
        · refine ihInside hopenedNext hnextOpened hf' fun hmem => ?_
          exact (List.mem_cons.1 hmem).elim heq hnew
      have hne : f ≠ file := (ne_of_mem_of_not_mem (hopened hfile) hnew).symm
      refine ⟨content', hread', hplace.append_right (List.subset_append_left _ _) rest.subset
        (fun b => rest.file_ne hf' hne) fun b hb => ?_⟩
      refine (rest.file_of_mem hb).imp (fun heq => ?_) And.right
      rw [heq]
      exact List.mem_append_left _ hfile
    · obtain ⟨content', hread', hplace⟩ := ihRest (fun g hg => hmid.2 (hopened hg)) hfile hf hf'
      refine ⟨content', hread', hplace.append_left fun b hb => ?_⟩
      exact ne_of_mem_of_not_mem (inside.file_mem (List.mem_cons_self ..) hb) hf'

/-- What a file in place has an import of is there, and is met. -/
theorem InPlace.exists_of_wants {content : Text}
    (h : InPlace source opened seen blocks file (pieces content))
    (hread : source.read file = .ok content) (hwants : Wants source file path) :
    ∃ next ∈ seen, source.canonical path = .ok next := by
  obtain ⟨content', hread', p, hp, hpiece⟩ := hwants
  obtain rfl := Except.ok.inj (hread.symm.trans hread')
  obtain ⟨before, after, hsplit⟩ := List.append_of_mem hp
  obtain ⟨next, hpath, hseen, -⟩ := h.imports before p after path hsplit hpiece
  exact ⟨next, hseen, hpath⟩

section

variable {entry first : Path} {content : Text}

/-- In the expansion of an entry all files that are met are in place. -/
theorem Expansion.inPlace_entry
    (h : Expansion source [first] first (pieces content) [first] blocks seen)
    (hread : source.read first = .ok content) (hfile : file ∈ seen) :
    ∃ content, source.read file = .ok content ∧
      InPlace source [first] seen blocks file (pieces content) := by
  have hfirst := List.mem_singleton_self first
  by_cases heq : file = first
  · rw [heq]
    exact ⟨content, hread, h.inPlace_file (List.Subset.refl _) hfirst⟩
  · exact h.inPlace (List.Subset.refl _) hfirst hfile fun hmem => heq (List.mem_singleton.1 hmem)

/-- In the expansion of an entry those files are met that the entry reaches. -/
theorem Expansion.mem_iff_reaches
    (h : Expansion source [first] first (pieces content) [first] blocks seen)
    (hentry : source.canonical entry = .ok first) (hread : source.read first = .ok content) :
    file ∈ seen ↔ Reaches source entry file := by
  constructor
  · intro hfile
    refine ⟨first, hentry, ?_⟩
    by_cases heq : file = first
    · rw [heq]
    · exact h.reaches hread (List.Subset.refl _) hfile fun hmem => heq (List.mem_singleton.1 hmem)
  · rintro ⟨first', hentry', hreach⟩
    obtain rfl := Except.ok.inj (hentry.symm.trans hentry')
    induction hreach with
    | refl => exact h.subset (List.mem_singleton_self _)
    | tail _ himports ih =>
      obtain ⟨content', hread', hplace⟩ := h.inPlace_entry hread ih
      obtain ⟨path, hwants, hpath⟩ := himports
      obtain ⟨next, hseen, hpath'⟩ := hplace.exists_of_wants hread' hwants
      rwa [Except.ok.inj (hpath.symm.trans hpath')]

end

/-! ### Lines -/

/-- The characters of a block, each with the file that it comes from. -/
def Block.tagged (b : Block) : List (Path × Char) := b.text.map fun c => (b.file, c)

/-- The characters of blocks, each with the file that it comes from. -/
def tagged (blocks : List Block) : List (Path × Char) := blocks.flatMap Block.tagged

/-- Two characters are of one file, or a line ends between them. -/
def Seam (x y : Path × Char) : Prop := x.1 = y.1 ∨ x.2 = '\n' ∨ y.2 = '\n'

theorem map_snd_tagged (blocks : List Block) : (tagged blocks).map Prod.snd = textOf blocks := by
  simp [tagged, textOf, Block.tagged, List.map_flatMap, Function.comp_def]

theorem Block.isChain_tagged (b : Block) : b.tagged.IsChain Seam :=
  (List.pairwise_map.2 (List.pairwise_of_forall fun _ _ => .inl rfl)).isChain

/-- A text without line feeds belongs to one file. -/
theorem file_eq_of_isChain {x : Path × Char} {line : List (Path × Char)}
    (h : (x :: line).IsChain Seam) (hline : ∀ y ∈ x :: line, y.2 ≠ '\n') :
    ∀ y ∈ line, y.1 = x.1 := by
  induction line generalizing x with
  | nil => exact fun y hy => absurd hy List.not_mem_nil
  | cons z line ih =>
    obtain ⟨hseam, hrest⟩ := List.isChain_cons_cons.1 h
    have hz : z.1 = x.1 := by
      rcases hseam with heq | hend | hend
      · exact heq.symm
      · exact absurd hend (hline x (List.mem_cons_self ..))
      · exact absurd hend (hline z (List.mem_cons_of_mem _ (List.mem_cons_self ..)))
    intro y hy
    rcases List.mem_cons.1 hy with rfl | hy
    · exact hz
    · rw [← hz]
      exact ih hrest (fun w hw => hline w (List.mem_cons_of_mem _ hw)) y hy

/-- Statements take whole lines of the pieces that they are among. -/
structure WholeLines (ps : List Piece) : Prop where
  isChain : ps.IsChain Meets
  ne_nil : ∀ p ∈ ps, p.text ≠ []
  getLast : ∀ p ∈ ps, p.isStatement = true → p.text.getLast? ≠ some '\n'

theorem wholeLines_pieces (t : Text) : WholeLines (pieces t) where
  isChain := (isSplit_pieces t).isChain
  ne_nil := (isSplit_pieces t).ne_nil
  getLast p hp hs := by
    cases p with
    | verbatim => cases hs
    | statement s target =>
      obtain ⟨parts, hparts, rfl, -⟩ := (isSplit_pieces t).statement s target hp
      exact hparts.getLast?_text

theorem WholeLines.tail (h : WholeLines (p :: ps)) : WholeLines ps where
  isChain := h.isChain.tail
  ne_nil q hq := h.ne_nil q (List.mem_cons_of_mem _ hq)
  getLast q hq := h.getLast q (List.mem_cons_of_mem _ hq)

/-- After a statement a line feed comes next. After any piece the file goes on, unless the piece
ends a line. -/
theorem Expansion.head_tagged (h : Expansion source opened file ps seen blocks seen')
    (hps : WholeLines (p :: ps)) {x : Path × Char} (hx : x ∈ (tagged blocks).head?) :
    (p.isStatement = true → x.2 = '\n') ∧ (x.1 = file ∨ p.text.getLast? = some '\n') := by
  cases ps with
  | nil =>
    cases h
    cases hx
  | cons q ps =>
    obtain ⟨hmeets, -⟩ := List.isChain_cons_cons.1 hps.isChain
    cases q with
    | statement s target =>
      have hlast := hmeets.1 rfl
      exact ⟨fun hs => absurd hlast (hps.getLast p (List.mem_cons_self ..) hs), .inr hlast⟩
    | verbatim t =>
      obtain ⟨c, u, hu⟩ := List.exists_cons_of_ne_nil
        (hps.ne_nil _ (List.mem_cons_of_mem _ (List.mem_cons_self ..)))
      obtain rfl : t = c :: u := hu
      cases h with
      | own hpiece rest =>
        obtain rfl : (file, c) = x := Option.some.inj hx
        refine ⟨fun hs => ?_, .inl rfl⟩
        obtain ⟨t, ht⟩ := hmeets.2 hs
        exact (List.cons.inj ht).1
      | again hpiece => cases hpiece
      | first hpiece => cases hpiece

theorem isStatement_of_importOf? (h : importOf? dir p = some path) : p.isStatement = true := by
  cases p with
  | verbatim => cases h
  | statement => rfl

/-- Where the text of one file meets that of another, a line ends. -/
theorem Expansion.seams (h : Expansion source opened file ps seen blocks seen')
    (hps : WholeLines ps) : (tagged blocks).IsChain Seam := by
  induction h with
  | nil => exact .nil
  | @own opened seen seen' file p ps blocks hpiece rest ih =>
    rw [tagged, List.flatMap_cons]
    refine List.isChain_append.2 ⟨Block.isChain_tagged _, ih hps.tail, fun x hx y hy => ?_⟩
    have hlast : p.text.getLast? = some x.2 ∧ x.1 = file := by
      rw [Block.tagged, List.getLast?_map] at hx
      obtain ⟨c, hc, rfl⟩ := Option.map_eq_some_iff.1 hx
      exact ⟨hc, rfl⟩
    rcases (rest.head_tagged hps hy).2 with heq | hend
    · exact .inl (hlast.2.trans heq.symm)
    · exact .inr (.inl (Option.some.inj (hlast.1.symm.trans hend)))
  | again _ _ _ _ _ ih => exact ih hps.tail
  | @first opened seen mid seen' file path next content p ps inner blocks hpiece hpath _ _ _ inside
      rest ihInside ihRest =>
    rw [tagged, List.flatMap_append]
    refine List.isChain_append.2 ⟨ihInside (wholeLines_pieces content), ihRest hps.tail,
      fun x hx y hy => ?_⟩
    exact .inr (.inr ((rest.head_tagged hps hy).1 (isStatement_of_importOf? hpiece)))

/-- A line belongs to one file. -/
theorem Expansion.file_eq_of_line (h : Expansion source opened file ps seen blocks seen')
    (hps : WholeLines ps) {line : List (Path × Char)} (hline : line <:+: tagged blocks)
    (hfeed : ∀ x ∈ line, x.2 ≠ '\n') : ∀ x ∈ line, ∀ y ∈ line, x.1 = y.1 := by
  cases line with
  | nil => exact fun x hx => absurd hx List.not_mem_nil
  | cons z line =>
    have hchain := List.IsChain.infix (h.seams hps) hline
    have heq := file_eq_of_isChain hchain hfeed
    have hall : ∀ x ∈ z :: line, x.1 = z.1 := List.forall_mem_cons.2 ⟨rfl, heq⟩
    exact fun x hx y hy => (hall x hx).trans (hall y hy).symm

/-- A bundle is the expansion of its entry, where an import is replaced by what it means the first
time that this is met and by nothing from then on. The own text of every file that is reached comes
once and in its order, with what the file imports before what follows the import, and every line
belongs to one file. -/
theorem bundle_inPlace {limit : Nat} {entry : Path} {t : Text}
    (h : bundle source limit entry = .ok t) :
    ∃ first content blocks seen, source.canonical entry = .ok first ∧
      source.read first = .ok content ∧
      Expansion source [first] first (pieces content) [first] blocks seen ∧
      (∀ blocks' seen', Expansion source [first] first (pieces content) [first] blocks' seen' →
        blocks' = blocks ∧ seen' = seen) ∧
      (tagged blocks).map Prod.snd = t ∧
      (∀ file, file ∈ seen ↔ Reaches source entry file) ∧
      (∀ b ∈ blocks, Reaches source entry b.file) ∧
      (∀ file, Reaches source entry file → ∃ content, source.read file = .ok content ∧
        (pieces content).flatMap Piece.text = content ∧ IsSplit true (pieces content) ∧
        InPlace source [first] seen blocks file (pieces content)) ∧
      ∀ line, line <:+: tagged blocks → (∀ x ∈ line, x.2 ≠ '\n') →
        ∀ x ∈ line, ∀ y ∈ line, x.1 = y.1 := by
  obtain ⟨first, content, blocks, seen, hentry, hread, hexpansion, htext⟩ := exists_expansion h
  have hreach : ∀ file, file ∈ seen ↔ Reaches source entry file :=
    fun file => hexpansion.mem_iff_reaches hentry hread
  refine ⟨first, content, blocks, seen, hentry, hread, hexpansion,
    fun blocks' seen' h' => hexpansion.unique h', ?_, hreach, fun b hb => ?_, fun file hfile => ?_,
    fun line hline hfeed => ?_⟩
  · rw [map_snd_tagged, htext]
  · exact (hreach b.file).1 (hexpansion.file_mem (List.mem_singleton_self _) hb)
  · obtain ⟨content', hread', hplace⟩ := hexpansion.inPlace_entry hread ((hreach file).2 hfile)
    exact ⟨content', hread', flatMap_pieces content', isSplit_pieces content', hplace⟩
  · exact hexpansion.file_eq_of_line (wholeLines_pieces content) hline hfeed

/-- A sheet that imports another one in two ways, and a plain stylesheet. -/
def diamond : FileSystem :=
  ⟨.dir [("a.less".toList,
      .file (.text "@import 'b';\n@import 'c';\n@import 'x.css';\n@a: 1;\n".toList) false),
    ("b.less".toList, .file (.text "@import 'd';\n@b: 2;".toList) false),
    ("c.less".toList, .file (.text "@import 'd.less';\n@c: 3;\n".toList) false),
    ("d.less".toList, .file (.text "@d: 4;".toList) false)], []⟩

theorem bundle_inPlace_diamond :
    bundle (treeSource diamond) (treeLimit diamond) (.ofString "a.less") =
        .ok "@d: 4;\n@b: 2;\n\n@c: 3;\n\n@import 'x.css';\n@a: 1;\n".toList ∧
      ∃ blocks seen, (tagged blocks).map Prod.snd =
          "@d: 4;\n@b: 2;\n\n@c: 3;\n\n@import 'x.css';\n@a: 1;\n".toList ∧
        (∀ b ∈ blocks, Reaches (treeSource diamond) (.ofString "a.less") b.file) ∧
        InPlace (treeSource diamond) [.ofString "/a.less"] seen blocks (.ofString "/a.less")
          (pieces "@import 'b';\n@import 'c';\n@import 'x.css';\n@a: 1;\n".toList) ∧
        ∀ line, line <:+: tagged blocks → (∀ x ∈ line, x.2 ≠ '\n') →
          ∀ x ∈ line, ∀ y ∈ line, x.1 = y.1 := by
  have hbundle : bundle (treeSource diamond) (treeLimit diamond) (.ofString "a.less") =
        .ok "@d: 4;\n@b: 2;\n\n@c: 3;\n\n@import 'x.css';\n@a: 1;\n".toList := rfl
  obtain ⟨first, content, blocks, seen, hentry, hread, -, -, htext, -, hblocks, hplace, hlines⟩ :=
    bundle_inPlace hbundle
  obtain rfl : Path.ofString "/a.less" = first := Except.ok.inj hentry
  obtain ⟨content', hread', -, -, hin⟩ := hplace _ ⟨_, hentry, .refl⟩
  obtain rfl : _ = content' := Except.ok.inj hread'
  exact ⟨hbundle, blocks, seen, htext, hblocks, hin, hlines⟩

end Retint.Bundle
