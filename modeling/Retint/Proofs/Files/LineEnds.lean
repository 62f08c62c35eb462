import Retint.Proofs.Files.Written
import Retint.Proofs.Dict

/-!
# Files with other line ends

A line can end in a line feed, or in a carriage return and a line feed. All texts of a tree can be
brought from the one form into the other; the tree has the same files then, and every path leads to
where it led.

## Main definitions

* `Text.crlf` — a text with a carriage return before each line feed
* `Text.dropReturns` — a text without carriage returns
* `Files.Entry.crlf`, `FileSystem.crlf` — a tree in which all texts have these line ends
* `Files.Entry.texts` — the texts in a tree

## Main results

* `Text.dropReturns_crlf` — the carriage returns can be dropped again
* `FileSystem.canonical_crlf`, `FileSystem.readText_crlf` — where paths lead, and what is read there
* `FileSystem.mem_texts` — what is read is among the texts
-/

namespace Retint

namespace Text

variable {a b t : Text}

/-- A text with a carriage return before each line feed. -/
def crlf : Text → Text
  | [] => []
  | c :: t => if c = '\n' then '\r' :: '\n' :: crlf t else c :: crlf t

/-- A text without carriage returns. -/
def dropReturns (t : Text) : Text := t.filter (· != '\r')

theorem crlf_feed (t : Text) : crlf ('\n' :: t) = '\r' :: '\n' :: crlf t := if_pos rfl

theorem crlf_cons {c : Char} (hc : c ≠ '\n') (t : Text) : crlf (c :: t) = c :: crlf t := if_neg hc

theorem crlf_append (a b : Text) : crlf (a ++ b) = crlf a ++ crlf b := by
  induction a with
  | nil => rfl
  | cons c a ih =>
    by_cases hc : c = '\n'
    · rw [hc, List.cons_append, crlf_feed, crlf_feed, ih]
      rfl
    · rw [List.cons_append, crlf_cons hc, crlf_cons hc, ih]
      rfl

theorem crlf_of_not_mem (h : '\n' ∉ t) : crlf t = t := by
  induction t with
  | nil => rfl
  | cons c t ih =>
    rw [crlf_cons (Ne.symm (List.ne_of_not_mem_cons h)), ih (List.not_mem_of_not_mem_cons h)]

/-- The first line with its end, and the text after it. -/
theorem crlf_append_cons (h : '\n' ∉ a) (b : Text) :
    crlf (a ++ '\n' :: b) = (a ++ ['\r']) ++ '\n' :: crlf b := by
  rw [crlf_append, crlf_of_not_mem h, List.append_assoc]
  rfl

theorem dropReturns_append (a b : Text) : dropReturns (a ++ b) = dropReturns a ++ dropReturns b :=
  List.filter_append ..

theorem dropReturns_of_not_mem (h : '\r' ∉ t) : dropReturns t = t := by
  refine List.filter_eq_self.mpr fun c hc => ?_
  simpa using ne_of_mem_of_not_mem hc h

theorem dropReturns_subset (t : Text) : dropReturns t ⊆ t := fun _ hc => (List.mem_filter.mp hc).1

/-- The carriage returns can be dropped again. -/
theorem dropReturns_crlf (h : '\r' ∉ t) : dropReturns (crlf t) = t := by
  induction t with
  | nil => rfl
  | cons c t ih =>
    have hc : c ≠ '\r' := Ne.symm (List.ne_of_not_mem_cons h)
    replace ih : (crlf t).filter (· != '\r') = t := ih (List.not_mem_of_not_mem_cons h)
    by_cases hn : c = '\n'
    · rw [hn, crlf_feed, dropReturns]
      simp [ih]
    · rw [crlf_cons hn, dropReturns]
      simp [hc, ih]

/-- Each line feed comes after a carriage return. -/
theorem exists_of_crlf_eq_append_feed (h : crlf t = a ++ '\n' :: b) : ∃ a', a = a' ++ ['\r'] := by
  induction t generalizing a with
  | nil => simp [crlf] at h
  | cons c t ih =>
    by_cases hn : c = '\n'
    · rw [hn, crlf_feed] at h
      rcases a with _ | ⟨d, _ | ⟨d', a⟩⟩
      · cases (List.cons.inj h).1
      · obtain ⟨hd, -⟩ := List.cons.inj h
        exact ⟨[], by rw [← hd]; rfl⟩
      · obtain ⟨a', rfl⟩ := ih (List.cons.inj (List.cons.inj h).2).2
        exact ⟨d :: d' :: a', rfl⟩
    · rw [crlf_cons hn] at h
      cases a with
      | nil => exact absurd (List.cons.inj h).1 hn
      | cons d a =>
        obtain ⟨a', rfl⟩ := ih (List.cons.inj h).2
        exact ⟨d :: a', rfl⟩

/-- Each carriage return comes before a line feed. -/
theorem exists_of_crlf_eq_append_return (ht : '\r' ∉ t) (h : crlf t = a ++ '\r' :: b) :
    ∃ b', b = '\n' :: b' := by
  induction t generalizing a with
  | nil => simp [crlf] at h
  | cons c t ih =>
    have hc : c ≠ '\r' := Ne.symm (List.ne_of_not_mem_cons ht)
    replace ht := List.not_mem_of_not_mem_cons ht
    by_cases hn : c = '\n'
    · rw [hn, crlf_feed] at h
      rcases a with _ | ⟨d, _ | ⟨d', a⟩⟩
      · exact ⟨crlf t, (List.cons.inj h).2.symm⟩
      · cases (List.cons.inj (List.cons.inj h).2).1
      · exact ih ht (List.cons.inj (List.cons.inj h).2).2
    · rw [crlf_cons hn] at h
      cases a with
      | nil => exact absurd (List.cons.inj h).1 hc
      | cons d a => exact ih ht (List.cons.inj h).2

end Text

namespace Files

/-- A content with a carriage return before each line feed of a text. -/
def Content.crlf : Content → Content
  | text t => text (Text.crlf t)
  | raw bytes => raw bytes

namespace Entry

mutual

/-- A tree in which the texts have a carriage return before each line feed. -/
def crlf : Entry → Entry
  | file content executable => file content.crlf executable
  | link target => link target
  | dir entries => dir (crlfIn entries)

def crlfIn : List (Text × Entry) → List (Text × Entry)
  | [] => []
  | (name, e) :: rest => (name, crlf e) :: crlfIn rest

end

mutual

/-- The texts in a tree. -/
def texts : Entry → List Text
  | file (.text t) _ => [t]
  | file (.raw _) _ => []
  | link _ => []
  | dir entries => textsIn entries

def textsIn : List (Text × Entry) → List Text
  | [] => []
  | (_, e) :: rest => texts e ++ textsIn rest

end

mutual

theorem fileCount_crlf : ∀ e : Entry, e.crlf.fileCount = e.fileCount
  | file .. => rfl
  | link _ => rfl
  | dir entries => fileCountIn_crlfIn entries

theorem fileCountIn_crlfIn : ∀ entries : List (Text × Entry),
    fileCountIn (crlfIn entries) = fileCountIn entries
  | [] => rfl
  | (_, e) :: rest => by
    rw [crlfIn, fileCountIn, fileCountIn, fileCount_crlf e, fileCountIn_crlfIn rest]

end

theorem lookup_crlfIn (name : Text) (entries : List (Text × Entry)) :
    (crlfIn entries).lookup name = (entries.lookup name).map crlf := by
  induction entries with
  | nil => rfl
  | cons entry rest ih =>
    obtain ⟨name', e⟩ := entry
    rw [crlfIn, List.lookup_cons, List.lookup_cons]
    cases name == name' with
    | true => rfl
    | false => exact ih

theorem at?_crlf (names : List Text) (e : Entry) : e.crlf.at? names = (e.at? names).map crlf := by
  induction names generalizing e with
  | nil => rfl
  | cons name names ih =>
    cases e with
    | file => rfl
    | link => rfl
    | dir entries =>
      show ((crlfIn entries).lookup name).bind (at? names) =
        ((entries.lookup name).bind (at? names)).map crlf
      rw [lookup_crlfIn]
      cases entries.lookup name with
      | none => rfl
      | some child => exact ih child

theorem mem_textsIn {name t : Text} {e : Entry} {entries : List (Text × Entry)}
    (he : (name, e) ∈ entries) (ht : t ∈ e.texts) : t ∈ textsIn entries := by
  induction entries with
  | nil => cases he
  | cons entry entries ih =>
    rw [textsIn, List.mem_append]
    rcases List.mem_cons.mp he with rfl | he
    · exact .inl ht
    · exact .inr (ih he)

theorem mem_texts {e : Entry} {names : List Text} {t : Text} {executable : Bool}
    (h : e.at? names = some (.file (.text t) executable)) : t ∈ e.texts := by
  induction names generalizing e with
  | nil =>
    obtain rfl := Option.some.inj h
    exact List.mem_singleton_self t
  | cons name names ih =>
    cases e with
    | dir entries =>
      obtain ⟨child, hchild, hrest⟩ := Option.bind_eq_some_iff.mp h
      exact mem_textsIn (Dict.mem_of_lookup hchild) (ih hrest)
    | file => cases h
    | link => cases h

end Entry

end Files

namespace FileSystem

open Files Entry

variable {fs : FileSystem}

/-- A file system in which all texts have a carriage return before each line feed. -/
def crlf (fs : FileSystem) : FileSystem := { fs with root := fs.root.crlf }

theorem at?_root_crlf (names : List Text) :
    fs.crlf.root.at? names = (fs.root.at? names).map Entry.crlf := at?_crlf names fs.root

theorem go_crlf (place ps : List Text) : fs.crlf.go place ps = fs.go place ps := by
  induction ps generalizing place with
  | nil => rfl
  | cons part rest ih =>
    cases hdir : fs.root.at? place.reverse with
    | none =>
      rw [go, go, at?_root_crlf, hdir]
      rfl
    | some e =>
      cases e with
      | file =>
        rw [go, go, at?_root_crlf, hdir]
        rfl
      | link =>
        rw [go, go, at?_root_crlf, hdir]
        rfl
      | dir entries =>
        have hdir' : fs.crlf.root.at? place.reverse = some (.dir (crlfIn entries)) := by
          rw [at?_root_crlf, hdir]
          rfl
        rw [go_cons_of_dir part rest hdir, go_cons_of_dir part rest hdir', ih, ih, ih,
          lookup_crlfIn]
        cases entries.lookup part with
        | none => rfl
        | some child => cases child <;> rfl

theorem goThrough_crlf (n : Nat) (place ps : List Text) :
    fs.crlf.goThrough n place ps = fs.goThrough n place ps := by
  induction n generalizing place ps with
  | zero => rw [goThrough, goThrough, go_crlf]
  | succ n ih =>
    rw [goThrough, goThrough, go_crlf]
    cases fs.go place ps with
    | atLink target place rest => simp only [ih]
    | arrived | missing | fault => rfl

theorem place?_crlf (p : Path) : fs.crlf.place? p = fs.place? p := by
  have hresolve : fs.crlf.resolve p = fs.resolve p := by
    rw [resolve, resolve]
    simp only [goThrough_crlf]
    rfl
  rw [place?, place?, hresolve]

/-- A path leads to where it led. -/
theorem canonical_crlf (p : Path) : fs.crlf.canonical p = fs.canonical p := by
  rw [canonical, canonical, place?_crlf]

/-- What is read has the other line ends. -/
theorem readText_crlf (p : Path) : fs.crlf.readText p = (fs.readText p).map Text.crlf := by
  rw [readText, readText, read, read, entry?, entry?, place?_crlf]
  cases fs.place? p with
  | error f => rfl
  | ok names =>
    dsimp only
    rw [at?_root_crlf]
    cases fs.root.at? names with
    | none => rfl
    | some e =>
      cases e with
      | file content executable => cases content <;> rfl
      | link => rfl
      | dir => rfl

/-- What is read is among the texts of the tree. -/
theorem mem_texts {p : Path} {t : Text} (h : fs.readText p = .ok t) : t ∈ fs.root.texts := by
  obtain ⟨names, -, hfile⟩ := readText_eq_ok_iff.mp h
  rw [file?] at hfile
  cases hentry : fs.root.at? names with
  | none => simp [hentry] at hfile
  | some e =>
    cases e with
    | file content executable =>
      rw [hentry] at hfile
      obtain rfl : content = .text t := Option.some.inj hfile
      exact Entry.mem_texts hentry
    | link | dir => simp [hentry, content?] at hfile

end FileSystem

end Retint
