import Retint.Unicode.Property
import Retint.Unicode.Script

/-!
# Breaks

How characters take part in breaking a text into graphemes, words and sentences. Every value of
these three properties is defined by other properties and a few exceptions; the value of all other
characters has no class.

## Main definitions

* `Unicode.graphemeBreak?`, `Unicode.wordBreak?`, `Unicode.sentenceBreak?` — the characters with
  the value of a given name
-/

namespace Retint.Unicode

/-- The characters that are consonants before the rest of a cluster, and those that enclose what
comes after them. -/
def prepended : CharSet := (listed "Prepended_Concatenation_Mark").union
  (.ofText "D4E 111C2-111C3 113D1 1193F 11941 11A3A 11A84-11A89 11D46 11F02")

/-! ### Graphemes -/

def clusterExtend : CharSet := graphemeExtend.union (listed "Emoji_Modifier")

def clusterControl : CharSet :=
  ((Category.sets [.zl, .zp, .cc, .cf]).union (Category.cn.set.inter ignorable)).diff
    (.unions [.ofText "A D 200C 200D", prepended, clusterExtend])

/-- The spacing marks that do not belong to the cluster before them. -/
def looseMarks : CharSet := .ofText "102B 102C 1038 1062-1064 1067-106D 1083 1087-108C 108F
  109A-109C 1A61 1A63 1A64 AA7B AA7D 11720 11721"

def clusterSpacing : CharSet :=
  (Category.mc.set.union (.ofText "E33 EB3")).diff (clusterExtend.union looseMarks)

def syllables : CharSet := .ofText "AC00-D7A3"

/-- The syllables without a final consonant: every 28th one. -/
def openSyllables : CharSet :=
  ⟨(List.range 399).map fun i => (0xAC00 + 28 * i, 0xAC00 + 28 * i)⟩

/-- The values that break graphemes, each with its names. -/
def graphemeBreaks : List (List String × (Unit → CharSet)) := [
  (["CR"], fun _ => .ofText "D"), (["LF"], fun _ => .ofText "A"),
  (["Control", "CN"], fun _ => clusterControl), (["Extend", "EX"], fun _ => clusterExtend),
  (["Prepend", "PP"], fun _ => prepended), (["SpacingMark", "SM"], fun _ => clusterSpacing),
  (["Regional_Indicator", "RI"], fun _ => listed "Regional_Indicator"),
  (["ZWJ"], fun _ => .ofText "200D"), (["L"], fun _ => .ofText "1100-115F A960-A97C"),
  (["V"], fun _ => .ofText "1160-11A7 D7B0-D7C6 16D63 16D67-16D6A"),
  (["T"], fun _ => .ofText "11A8-11FF D7CB-D7FB"), (["LV"], fun _ => openSyllables),
  (["LVT"], fun _ => syllables.diff openSyllables)]

/-! ### Words -/

def wordExtend : CharSet :=
  (CharSet.unions [graphemeExtend, Category.mc.set, listed "Emoji_Modifier"]).diff
    (.ofText "200D")

def katakanaWords : CharSet :=
  ((script? "katakana".toList).getD .empty).union
    (.ofText "3031-3035 309B 309C 30A0 30FC FF70")

def hebrewLetters : CharSet :=
  ((script? "hebrew".toList).getD .empty).inter Category.lo.set

/-- The letters of scripts that write words without space between them. -/
def complexContext : CharSet := .ofText
  "E01-E3A E40-E4E E81-E82 E84 E86-E8A E8C-EA3 EA5 EA7-EBD EC0-EC4 EC6 EC8-ECE EDC-EDF 1000-103F
  1050-108F 109A-109F 1780-17D3 17D7 17DC-17DD 1950-196D 1970-1974 1980-19AB 19B0-19C9 19DA
  19DE-19DF 1A20-1A5E 1A60-1A7C 1AA0-1AAD A9E0-A9EF A9FA-A9FE AA60-AAC2 AADB-AADF 11700-1171A
  1171D-1172B 1173A-1173B 1173F-11746"

/-- The characters that words treat as letters though they are none. -/
def letterLike : CharSet := .ofText "2C2-2C5 2D2-2D7 2DE 2DF 2E5-2EB 2ED 2EF-2FF 55A-55C 55E
  58A 5F3 70F A708-A716 A720 A721 A789 A78A AB5B"

def wordLetters : CharSet :=
  (alphabetic.union letterLike).diff
    (.unions [listed "Ideographic", katakanaWords, complexContext,
      (script? "hiragana".toList).getD .empty, wordExtend, hebrewLetters])

/-- The signs that stand before numbers. -/
def numberSigns : CharSet := .ofText "600-605 6DD 890-891 8E2 110BD 110CD"

def wordNumbers : CharSet := .unions [Category.nd.set, .ofText "66B", numberSigns]

def wordFormat : CharSet :=
  Category.cf.set.diff (.unions [.ofText "200B-200D", prepended, graphemeExtend])

/-- The values that break words, each with its names. -/
def wordBreaks : List (List String × (Unit → CharSet)) := [
  (["CR"], fun _ => .ofText "D"), (["LF"], fun _ => .ofText "A"),
  (["Newline", "NL"], fun _ => .ofText "B-C 85 2028-2029"),
  (["Extend"], fun _ => wordExtend), (["ZWJ"], fun _ => .ofText "200D"),
  (["Format", "FO"], fun _ => wordFormat), (["Katakana", "KA"], fun _ => katakanaWords),
  (["Hebrew_Letter", "HL"], fun _ => hebrewLetters), (["ALetter", "LE"], fun _ => wordLetters),
  (["Single_Quote", "SQ"], fun _ => .ofText "27"),
  (["Double_Quote", "DQ"], fun _ => .ofText "22"),
  (["MidNumLet", "MB"], fun _ => .ofText "2E 2018-2019 2024 FE52 FF07 FF0E"),
  (["MidLetter", "ML"], fun _ => .ofText "3A B7 387 55F 5F4 2027 FE13 FE55 FF1A"),
  (["MidNum", "MN"], fun _ =>
    .ofText "2C 3B 37E 589 60C-60D 66C 7F8 2044 FE10 FE14 FE50 FE54 FF0C FF1B"),
  (["Numeric", "NU"], fun _ => wordNumbers),
  (["ExtendNumLet", "EX"], fun _ => Category.pc.set.union (.ofText "202F")),
  (["Regional_Indicator", "RI"], fun _ => listed "Regional_Indicator"),
  (["WSegSpace"], fun _ => .ofText "20 1680 2000-2006 2008-200A 205F 3000")]

/-! ### Sentences -/

def sentenceExtend : CharSet :=
  .unions [graphemeExtend, Category.mc.set, .ofText "200D"]

/-- The small letters of Georgian, which has no capitals at the start of a sentence. -/
def georgianSmall : CharSet := .ofText "10D0-10FA 10FD-10FF"

def georgianCapital : CharSet := .ofText "1C90-1CBA 1CBD-1CBF"

def sentenceLower : CharSet := lowercase.diff (graphemeExtend.union georgianSmall)

def sentenceUpper : CharSet := (uppercase.union Category.lt.set).diff georgianCapital

def sentenceLetters : CharSet :=
  (alphabetic.union (.ofText "5F3")).diff (.unions [sentenceLower, sentenceUpper, sentenceExtend])

/-- The stops that also stand in abbreviations and numbers. -/
def fullStops : CharSet := .ofText "2E 2024 FE52 FF0E"

def sentenceStops : CharSet := (listed "Sentence_Terminal").diff fullStops

def sentenceClose : CharSet :=
  (CharSet.unions [Category.sets [.ps, .pe, .pi, .pf],
    .ofText "22 27 275B-2760 2E00-2E01 2E06-2E08 2E0B 1F676-1F678"]).diff
    (fullStops.union sentenceStops)

def sentenceNumbers : CharSet := wordNumbers.union (.ofText "66C")

def sentenceFormat : CharSet :=
  Category.cf.set.diff (.unions [.ofText "200C-200D", numberSigns, graphemeExtend])

/-- The values that break sentences, each with its names. -/
def sentenceBreaks : List (List String × (Unit → CharSet)) := [
  (["CR"], fun _ => .ofText "D"), (["LF"], fun _ => .ofText "A"),
  (["Extend", "EX"], fun _ => sentenceExtend), (["Sep", "SE"], fun _ => .ofText "85 2028-2029"),
  (["Format", "FO"], fun _ => sentenceFormat),
  (["Sp"], fun _ => .ofText "9 B-C 20 A0 1680 2000-200A 202F 205F 3000"),
  (["Lower", "LO"], fun _ => sentenceLower), (["Upper", "UP"], fun _ => sentenceUpper),
  (["OLetter", "LE"], fun _ => sentenceLetters), (["Numeric", "NU"], fun _ => sentenceNumbers),
  (["ATerm", "AT"], fun _ => fullStops),
  (["SContinue", "SC"], fun _ => .ofText "2C-2D 3A-3B 37E 55D 60C-60D 7F8 1802 1808 2013-2014
    3001 FE10-FE11 FE13-FE14 FE31-FE32 FE50-FE51 FE54-FE55 FE58 FE63 FF0C-FF0D FF1A-FF1B FF64"),
  (["STerm", "ST"], fun _ => sentenceStops), (["Close", "CL"], fun _ => sentenceClose)]

/-! ### Names -/

/-- The class with a loose name in a list of classes. -/
def valueNamed? (values : List (List String × (Unit → CharSet))) (name : Text) : Option CharSet :=
  (values.find? fun (names, _) => isOneOf names name).map fun (_, set) => set ()

def graphemeBreak? (name : Text) : Option CharSet := valueNamed? graphemeBreaks name

def wordBreak? (name : Text) : Option CharSet := valueNamed? wordBreaks name

def sentenceBreak? (name : Text) : Option CharSet := valueNamed? sentenceBreaks name

end Retint.Unicode
