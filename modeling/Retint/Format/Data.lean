import Retint.Text

/-!
# Structured data

What a configuration file holds, before it is known what it is for. A text that breaks off or goes
wrong still makes data: the value where it goes wrong is `broken`, and nothing follows it. So a
reader of the data meets what is wrong at the place where it is, after all that comes before.

## Main definitions

* `Data` — values, lists and records
* `Data.isSound` — whether nothing in a value is broken
-/

namespace Retint

/-- What a text is marked to be taken for. -/
inductive Data.Marking
  | nothing | truth | other
deriving DecidableEq, Repr

/-- A value of a configuration file. -/
inductive Data
  | null
  | bool (b : Bool)
  /-- Text that may be marked as a truth value. -/
  | text (t : Text) (isTruth : Bool)
  /-- Text without quotes in a format where that is taken for what is wanted in its place. -/
  | plain (t : Text) (marking : Option Data.Marking)
  /-- A value that can be passed over but is wanted nowhere, such as a number. -/
  | other
  | list (items : List Data)
  /-- The keys with their values in order; a key may come again. -/
  | record (entries : List (Data × Data))
  /-- The text goes wrong here. -/
  | broken
deriving Repr

namespace Data

mutual

/-- Whether nothing in a value is broken. -/
def isSound : Data → Bool
  | broken => false
  | list items => allSound items
  | record entries => entriesSound entries
  | _ => true

def allSound : List Data → Bool
  | [] => true
  | d :: rest => isSound d && allSound rest

def entriesSound : List (Data × Data) → Bool
  | [] => true
  | (k, v) :: rest => isSound k && isSound v && entriesSound rest

end

end Data

end Retint
