import Retint.Path
import Retint.Proofs.Text.Lines

/-!
# Paths seen from directories

What is put after a directory to see a path from it is the same for every relative path: the
directory, and a slash unless there is one. So it makes no difference whether a path is seen from a
directory that is itself seen from another one, or the other way round.

A path is also a list of components. The name of a file seen from a directory is one component
more, however the directory is spelled.

## Main definitions

* `Path.lead` — what stands before a relative path that is seen from a directory
* `Path.components` — the components of a path
* `Path.IsFileName` — the names that files and directories can have
* `Path.under` — a path down from a directory, name by name

## Main results

* `Path.join_assoc` — paths seen from directories that are seen from directories
* `Path.components_under` — the components of a path down from a directory
* `Path.extension?_join_iff` — the extension of a file in a directory
-/

namespace Retint.Path

variable {p q : Path} {name ext : Text} {names : List Text}

/-! ### Seeing paths from directories -/

/-- What stands before a relative path that is seen from `p`. -/
def lead (p : Path) : Text :=
  if p.text.isEmpty || p.text.getLast? == some '/' then p.text else p.text ++ ['/']

theorem join_of_isRelative (p : Path) (h : q.isAbsolute = false) :
    p.join q = ⟨p.lead ++ q.text⟩ := by
  unfold join lead
  rw [h, if_neg Bool.false_ne_true]
  split
  · rfl
  · rw [List.append_assoc, List.singleton_append]

theorem lead_nil : lead ⟨[]⟩ = [] := rfl

theorem lead_concat (t : Text) (c : Char) :
    lead ⟨t ++ [c]⟩ = t ++ (if c = '/' then [c] else [c, '/']) := by
  by_cases hc : c = '/' <;> simp [lead, hc]

/-- What a directory leads with is nothing, or it ends in a slash. -/
theorem lead_cases (p : Path) :
    p.text = [] ∧ p.lead = [] ∨ ∃ t, p.lead = t ++ ['/'] ∧
      (p.text = t ∧ t ≠ [] ∨ p.text = t ++ ['/']) := by
  obtain ⟨text⟩ := p
  rcases List.eq_nil_or_concat text with rfl | ⟨t, c, rfl⟩
  · exact .inl ⟨rfl, rfl⟩
  · right
    rw [List.concat_eq_append, lead_concat]
    by_cases hc : c = '/'
    · exact ⟨t, by rw [if_pos hc, hc], .inr (by rw [hc])⟩
    · exact ⟨t ++ [c], by simp [hc], .inl ⟨rfl, by simp⟩⟩

/-- What a directory leads with goes on with what is put after it. -/
theorem lead_append (p : Path) (t : Text) : lead ⟨p.lead ++ t⟩ = p.lead ++ lead ⟨t⟩ := by
  rcases List.eq_nil_or_concat t with rfl | ⟨t, c, rfl⟩
  · rw [List.append_nil, lead_nil, List.append_nil]
    rcases p.lead_cases with ⟨-, h⟩ | ⟨u, h, -⟩
    · rw [h, lead_nil]
    · rw [h, lead_concat, if_pos rfl]
  · rw [List.concat_eq_append, ← List.append_assoc, lead_concat, lead_concat, List.append_assoc]

/-- What a relative path spells from a directory is absolute if the directory is. -/
theorem isAbsolute_lead_append (t : Text) (ht : (⟨t⟩ : Path).isAbsolute = false) :
    (⟨p.lead ++ t⟩ : Path).isAbsolute = p.isAbsolute := by
  rcases p.lead_cases with ⟨htext, hlead⟩ | ⟨u, hlead, ⟨htext, hne⟩ | htext⟩
  · rw [hlead, List.nil_append, ht, isAbsolute, htext]
    rfl
  · obtain ⟨c, u, rfl⟩ := List.exists_cons_of_ne_nil hne
    simp [isAbsolute, hlead, htext]
  · cases u <;> simp [isAbsolute, hlead, htext]

/-- **Paths seen from directories.** A path seen from a directory that is seen from another one is
the path as seen from the first directory, seen from the other one. -/
theorem join_assoc (p q r : Path) : (p.join q).join r = p.join (q.join r) := by
  cases hr : r.isAbsolute with
  | true => rw [join_of_isAbsolute _ hr, join_of_isAbsolute _ hr, join_of_isAbsolute _ hr]
  | false =>
    cases hq : q.isAbsolute with
    | true =>
      have hqr : (q.join r).isAbsolute = true := by
        rw [join_of_isRelative q hr, isAbsolute_lead_append r.text hr, hq]
      rw [join_of_isAbsolute p hq, join_of_isAbsolute p hqr]
    | false =>
      have hqr : (⟨q.lead ++ r.text⟩ : Path).isAbsolute = false := by
        rw [isAbsolute_lead_append r.text hr, hq]
      rw [join_of_isRelative p hq, join_of_isRelative _ hr, join_of_isRelative q hr,
        join_of_isRelative p hqr, lead_append, List.append_assoc]

/-! ### Components -/

/-- The names that files and directories can have. -/
def IsFileName (name : Text) : Prop := name ∉ [[], ['.'], ['.', '.']] ∧ '/' ∉ name

instance (name : Text) : Decidable (IsFileName name) := inferInstanceAs (Decidable (_ ∧ _))

/-- What a path starts from: the root, or a dot that is the first of its parts. -/
def start (p : Path) : List Text :=
  if p.isAbsolute then [['/']]
  else if (Text.splitOn '/' p.text).head? = some ['.'] then [['.']]
  else []

/-- The components of a path, the root being one of them. -/
def components (p : Path) : List Text :=
  p.start ++ (Text.splitOn '/' p.text).filter fun part => !isFiller part

theorem IsFileName.isFiller_eq (h : IsFileName name) : isFiller name = false := by
  simp only [IsFileName, List.mem_cons, List.not_mem_nil, or_false, not_or] at h
  simp [isFiller, h.1.1, h.1.2.1]

theorem IsFileName.isAbsolute_eq (h : IsFileName name) : (⟨name⟩ : Path).isAbsolute = false := by
  have hhead : name.head? ≠ some '/' := fun heq => h.2 (List.mem_of_mem_head? heq)
  simpa [isAbsolute] using hhead

theorem IsFileName.join_eq (h : IsFileName name) (p : Path) : p.join ⟨name⟩ = ⟨p.lead ++ name⟩ :=
  join_of_isRelative p h.isAbsolute_eq

/-- Only the first part tells what a path starts from. -/
theorem start_append_slash (t u : Text) : start ⟨t ++ '/' :: u⟩ = start ⟨t ++ ['/']⟩ := by
  cases t with
  | nil => rfl
  | cons c t =>
    obtain ⟨part, parts, h⟩ := List.exists_cons_of_ne_nil (Text.splitOn_ne_nil '/' (c :: t))
    simp only [start, Text.splitOn_append_append, h]
    rfl

theorem start_concat_slash {t : Text} (ht : t ≠ []) : start ⟨t ++ ['/']⟩ = start ⟨t⟩ := by
  obtain ⟨c, t, rfl⟩ := List.exists_cons_of_ne_nil ht
  obtain ⟨part, parts, h⟩ := List.exists_cons_of_ne_nil (Text.splitOn_ne_nil '/' (c :: t))
  simp only [start, Text.splitOn_append_append, h]
  rfl

/-- **One component more.** -/
theorem components_join (h : IsFileName name) (p : Path) :
    (p.join ⟨name⟩).components = p.components ++ [name] := by
  have hdot : name ≠ ['.'] := fun heq => h.1 (by simp [heq])
  have hpart : Text.splitOn '/' name = [name] := Text.splitOn_of_not_mem h.2
  have hkept : [name].filter (fun part => !isFiller part) = [name] := by simp [h.isFiller_eq]
  obtain ⟨text⟩ := p
  rw [h.join_eq]
  rcases lead_cases ⟨text⟩ with ⟨rfl, hlead⟩ | ⟨t, hlead, htext⟩
  · have hstart : start ⟨name⟩ = [] := by simp [start, h.isAbsolute_eq, hpart, hdot]
    rw [hlead, List.nil_append, components, hstart, hpart, hkept]
    rfl
  · rw [hlead, List.append_assoc, List.singleton_append, components, start_append_slash,
      Text.splitOn_append_append, List.filter_append, hpart, hkept, ← List.append_assoc]
    refine congrArg (· ++ [name]) ?_
    rcases htext with ⟨rfl, hne⟩ | rfl
    · rw [start_concat_slash hne]
      rfl
    · have hnone : (Text.splitOn '/' []).filter (fun part => !isFiller part) = [] := rfl
      rw [components, Text.splitOn_append_append, List.filter_append, hnone, List.append_nil]

/-- The path down from a directory, name by name. -/
def under (dir : Path) (names : List Text) : Path := names.foldl (fun p name => p.join ⟨name⟩) dir

theorem under_cons (dir : Path) (name : Text) (names : List Text) :
    dir.under (name :: names) = (dir.join ⟨name⟩).under names := rfl

theorem under_concat (dir : Path) (names : List Text) (name : Text) :
    dir.under (names ++ [name]) = (dir.under names).join ⟨name⟩ := by
  rw [under, List.foldl_append]
  rfl

/-- **The components of a path down from a directory** are those of the directory and the names. -/
theorem components_under (dir : Path) (h : ∀ name ∈ names, IsFileName name) :
    (dir.under names).components = dir.components ++ names := by
  induction names generalizing dir with
  | nil => exact (List.append_nil _).symm
  | cons name names ih =>
    obtain ⟨hname, hnames⟩ := List.forall_mem_cons.mp h
    rw [under_cons, ih _ hnames, components_join hname, List.append_assoc, List.singleton_append]

/-! ### Names and extensions -/

/-- The last part of the path to a file is its name. -/
theorem fileName?_join (h : IsFileName name) (p : Path) :
    (p.join ⟨name⟩).fileName? = some name := by
  have hpart : Text.splitOn '/' name = [name] := Text.splitOn_of_not_mem h.2
  have hback : ∃ before, (p.join ⟨name⟩).partsBack = name :: before := by
    rw [h.join_eq]
    rcases lead_cases p with ⟨-, hlead⟩ | ⟨t, hlead, -⟩
    · exact ⟨[], by simp [partsBack, hlead, h.isAbsolute_eq, hpart]⟩
    · cases t with
      | nil => exact ⟨[], by simp [partsBack, hlead, isAbsolute, hpart]⟩
      | cons c t =>
        rw [hlead, partsBack]
        split
        · exact ⟨(Text.splitOn '/' t).reverse, by simp [Text.splitOn_append_append, hpart]⟩
        · refine ⟨(Text.splitOn '/' (c :: t)).reverse, ?_⟩
          rw [List.append_assoc, List.singleton_append, Text.splitOn_append_append, hpart,
            List.reverse_append, List.reverse_singleton, List.singleton_append]
  obtain ⟨before, hback⟩ := hback
  have hlast : (p.join ⟨name⟩).lastPart? = some (name, before) := by
    simp [lastPart?, hback, dropFiller, h.isFiller_eq]
  have hdots : ¬ (name = ['.'] ∨ name = ['.', '.']) := fun hor => h.1 (by
    rcases hor with rfl | rfl <;> decide)
  rw [fileName?, hlast]
  exact if_neg hdots

/-- **The extension of a file in a directory** is what follows the last dot of its name, if there is
something before that dot. -/
theorem extension?_join_iff (h : IsFileName name) (p : Path) :
    (p.join ⟨name⟩).extension? = some ext ↔
      ∃ stem, stem ≠ [] ∧ name = stem ++ '.' :: ext ∧ '.' ∉ ext := by
  unfold extension?
  rw [fileName?_join h, Option.bind_some]
  constructor
  · intro hext
    split at hext
    · rename_i stem last hcut
      obtain ⟨rfl, hlast⟩ := Text.eq_of_cutLast? hcut
      split at hext
      · cases hext
      · rename_i hstem
        obtain rfl := Option.some.inj hext
        exact ⟨stem, fun heq => hstem (by rw [heq]; rfl), rfl, hlast⟩
    · cases hext
  · rintro ⟨stem, hstem, rfl, hext⟩
    rw [Text.cutLast?_append_cons stem hext]
    obtain ⟨c, stem, rfl⟩ := List.exists_cons_of_ne_nil hstem
    rfl

end Retint.Path
