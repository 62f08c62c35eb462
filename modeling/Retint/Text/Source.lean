import Retint.Text

/-!
# Places in a text

A place in a text is given by the number of bytes before it. A source is a text together with what
lies on either side of each of its places, so that spans of it can be looked at without going
through the text each time.

## Main definitions

* `Cut` — the two sides of a place
* `Source` — a text with its places
* `Source.cut?` — the sides of a place of a source
* `Source.slice?` — the characters between two places

## Main results

* `Source.cut?_eq` — the sides of a place are what taking and dropping so many bytes gives
* `Source.slice?_eq` — a slice of a source is that of its text
-/

namespace Retint

/-- The two sides of a place in a text. The characters before it stand nearest first. -/
structure Cut where
  before : Text
  after : Text
deriving DecidableEq, Repr

namespace Cut

/-- The places of a text, by bytes, given what lies before it; inside of a character is none. -/
def list (before : Text) : Text → List (Option Cut)
  | [] => [some ⟨before, []⟩]
  | c :: rest =>
    some ⟨before, c :: rest⟩ :: (List.replicate (c.utf8Size - 1) none ++ list (c :: before) rest)

/-- Adds the places of a text to others. -/
def collect (before : Text) (cuts : Array (Option Cut)) : Text → Array (Option Cut)
  | [] => cuts.push (some ⟨before, []⟩)
  | c :: rest =>
    collect (c :: before)
      ((cuts.push (some ⟨before, c :: rest⟩)).append (Array.replicate (c.utf8Size - 1) none)) rest

theorem toList_collect (before t : Text) (cuts : Array (Option Cut)) :
    (collect before cuts t).toList = cuts.toList ++ list before t := by
  induction t generalizing before cuts with
  | nil => simp [collect, list]
  | cons c t ih => simp [collect, list, ih]

theorem getElem?_list (before t : Text) (i : Nat) :
    (list before t)[i]?.join =
      (Text.take? i t).bind fun l => (Text.drop? i t).map fun r => ⟨l.reverse ++ before, r⟩ := by
  induction t generalizing before i with
  | nil => cases i <;> simp [list, Text.take?, Text.drop?]
  | cons c t ih =>
    cases i with
    | zero => simp [list, Text.take?, Text.drop?]
    | succ i =>
      have hc : 0 < c.utf8Size := Char.utf8Size_pos c
      by_cases h : c.utf8Size ≤ i + 1
      · have hi : c.utf8Size - 1 ≤ i := by omega
        have hsub : i - (c.utf8Size - 1) = i + 1 - c.utf8Size := by omega
        simp only [list, List.getElem?_cons_succ, Text.take?, Text.drop?, h, if_true]
        rw [List.getElem?_append_right (by simpa using hi)]
        simp only [List.length_replicate, hsub, ih]
        cases Text.take? (i + 1 - c.utf8Size) t <;> simp
      · have hi : i < c.utf8Size - 1 := by omega
        simp only [list, List.getElem?_cons_succ, Text.take?, Text.drop?, h, if_false]
        rw [List.getElem?_append_left (by simpa using hi)]
        simp [hi]

end Cut

/-- A text with its places. -/
structure Source where
  text : Text
  cuts : Array (Option Cut)
  cuts_eq : cuts = Cut.collect [] #[] text

namespace Source

def of (text : Text) : Source := ⟨text, _, rfl⟩

/-- The sides of the place after so many bytes. -/
def cut? (s : Source) (offset : Nat) : Option Cut := s.cuts[offset]?.join

theorem cut?_eq (s : Source) (offset : Nat) :
    s.cut? offset = (Text.take? offset s.text).bind fun l =>
      (Text.drop? offset s.text).map fun r => ⟨l.reverse, r⟩ := by
  have h := Cut.getElem?_list [] s.text offset
  simp only [List.append_nil] at h
  rw [← h, cut?, s.cuts_eq, ← Array.getElem?_toList, Cut.toList_collect]
  rfl

/-- The characters between two places. -/
def slice? (s : Source) (start stop : Nat) : Option Text :=
  if start ≤ stop then (s.cut? start).bind fun cut => Text.take? (stop - start) cut.after else none

theorem take?_isSome_iff (t : Text) (n : Nat) :
    (Text.take? n t).isSome = (Text.drop? n t).isSome := by
  induction t generalizing n with
  | nil => cases n <;> simp [Text.take?, Text.drop?]
  | cons c t ih =>
    cases n with
    | zero => simp [Text.take?, Text.drop?]
    | succ n => by_cases h : c.utf8Size ≤ n + 1 <;> simp [Text.take?, Text.drop?, h, ih]

theorem slice?_eq (s : Source) (start stop : Nat) :
    s.slice? start stop = Text.slice? start stop s.text := by
  unfold slice? Text.slice?
  split
  · rw [cut?_eq]
    have h := take?_isSome_iff s.text start
    cases hl : Text.take? start s.text <;> cases hr : Text.drop? start s.text <;> simp_all
  · rfl

end Source

end Retint
