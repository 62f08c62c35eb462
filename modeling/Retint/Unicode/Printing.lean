import Retint.Unicode.Property

/-!
# Printing characters

Which characters show up as themselves in quoted text. Beside the assigned characters that the
properties know, those of the next version of the standard count.

## Main definitions

* `Unicode.isPrintable` — whether a character shows up as itself
-/

namespace Retint.Unicode

/-- The characters of the next version that join the character before them. -/
def laterMarks : CharSet := .ofText
  "1ACF-1ADD 1AE0-1AEB 10EFA-10EFB 11B60 11B62-11B64 11B66 1E6E3 1E6E6 1E6EE-1E6EF 1E6F5"

/-- All other characters of the next version. -/
def laterCharacters : CharSet := .ofText
  "88F C5C CDC 20C1 2B96 A7CE-A7CF A7D2 A7D4 A7F1 FBC3-FBD2 FD90-FD91 FDC8-FDCE 10940-10959
  10EC5-10EC7 10ED0-10ED8 11B61 11B65 11B67 11DB0-11DDB 11DE0-11DE9 16EA0-16EB8 16EBB-16ED3
  16FF2-16FF6 187F8-187FF 18D09-18D1E 18D80-18DF2 1CCFA-1CCFC 1CEBA-1CED0 1CEE0-1CEF0 1E6C0-1E6DE
  1E6E0-1E6E2 1E6E4-1E6E5 1E6E7-1E6ED 1E6F0-1E6F4 1E6FE-1E6FF 1F6D8 1F777-1F77A 1F8D0-1F8D8
  1FA54-1FA57 1FA8A 1FA8E 1FAC8 1FACD 1FAEA 1FAEF 1FBFA 2B73A-2B73F 2CEA2-2CEAD 323B0-33479"

/-- The sound marks of half width, which show up by themselves though they extend a grapheme. -/
def soundMarks : CharSet := .ofText "FF9E-FF9F"

/-- The characters beyond ASCII that do not show up as themselves: they are no characters at all,
stand for space or control, need not be shown, or join the character before them. -/
def hidden : CharSet :=
  ((CharSet.unions [Category.sets [.zs, .zl, .zp, .cc, .cf, .co, .cn], ignorable,
    graphemeExtend, laterMarks]).diff (laterCharacters.union soundMarks)).normal

def isPrintable (c : Char) : Bool :=
  if c.toNat < 0x80 then 0x20 ≤ c.toNat && c.toNat < 0x7F else !hidden.has c

end Retint.Unicode
