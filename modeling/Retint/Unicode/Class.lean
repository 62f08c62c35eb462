import Retint.Unicode.Property

/-!
# Character classes

The classes of characters that patterns and names are made of. Each is decided by comparison on
ASCII and by a table beyond it, so that a proof about ASCII text never meets a table.

## Main definitions

* `Unicode.isDigit` — decimal digits of any script
* `Unicode.isWord` — letters, marks, decimal digits, connecting punctuation and joiners
-/

namespace Retint.Unicode

def digits : CharSet := Category.nd.set

/-- The decimal digits of all scripts. -/
def isDigit (c : Char) : Bool :=
  ('0' ≤ c && c ≤ '9') || (0x80 ≤ c.toNat && digits.has c)

/-- The characters that words are made of: alphabetic ones, marks, decimal digits, connecting
punctuation and joiners. -/
def wordCharacters : CharSet :=
  (CharSet.unions [alphabetic, Category.sets [.mn, .mc, .me, .nd, .pc],
    listed "Join_Control"]).normal

def isWord (c : Char) : Bool :=
  c.isAlphanum || c == '_' || (0x80 ≤ c.toNat && wordCharacters.has c)

/-- The white space characters. -/
def blanks : CharSet := listed "White_Space"

end Retint.Unicode
