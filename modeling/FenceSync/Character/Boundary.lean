import FenceSync.Character.Derived
import FenceSync.Character.Script

namespace FenceSync

/-!
# Where texts may be cut

The classes of characters by which a text is cut into what a reader takes for one character, into
words and into sentences.

* `CharSet.graphemeClass?`, `CharSet.wordClass?` and `CharSet.sentenceClass?` are the classes by
  name.
-/

namespace CharSet

/-- The characters of some written ranges. -/
def written (ranges : String) : CharSet := .listed (.ofLines [ranges])

/-- A class with a name among some. -/
def classNamed? (classes : List (List String × CharSet)) (name : String) : Option CharSet :=
  (classes.find? fun c => c.1.any (sameName name)).map (·.2)

/-! ### Characters -/

/-- Syllables of Korean without a final sound. -/
def openSyllables : CharSet := written "AC00-D788/1C"

/-- Marks that follow a character, and modifiers of pictures. -/
def graphemeTail : CharSet :=
  minus (.union graphemeExtend (trait "Emoji_Modifier")) (written "200D")

/-- The classes that make up characters for a reader. -/
def graphemeClasses : List (List String × CharSet) := [
  (["Control", "CN"],
    minus (.union (categories ["Zl", "Zp", "Cc", "Cf"]) (.inter unassigned defaultIgnorable))
      (unionOf [written "A D 200C-200D", trait "Prepended_Concatenation_Mark", graphemeTail])),
  (["CR"], only '\r'),
  (["Extend", "EX"], graphemeTail),
  (["L"], written "1100-115F A960-A97C"),
  (["LF"], only '\n'),
  (["LV"], openSyllables),
  (["LVT"], minus (written "AC00-D7A3") openSyllables),
  (["Prepend", "PP"],
    .union (trait "Prepended_Concatenation_Mark")
      (written "D4E 111C2-111C3 113D1 1193F 11941 11A3A 11A84-11A89 11D46 11F02")),
  (["Regional_Indicator", "RI"], trait "Regional_Indicator"),
  (["SpacingMark", "SM"],
    minus (.union (category "Mc") (written "E33 EB3"))
      (.union graphemeTail (.listed (.ofLines [
        "102B-102C 1038 1062-1064 1067-106D 1083 1087-108C 108F 109A-109C 1A61 1A63-1A64",
        "AA7B AA7D 11720-11721"])))),
  (["T"], written "11A8-11FF D7CB-D7FB"),
  (["V"], written "1160-11A7 D7B0-D7C6 16D63 16D67-16D6A"),
  (["ZWJ"], written "200D")]

/-- A class that makes up characters. -/
def graphemeClass? (name : String) : Option CharSet := classNamed? graphemeClasses name

/-! ### Words -/

/-- Marks that belong to the character before them. -/
def attached : CharSet := minus (.union graphemeExtend (category "Mc")) (written "200D")

/-- Signs that stand before a number. -/
def numberSigns : CharSet := written "600-605 6DD 890-891 8E2 110BD 110CD"

/-- Scripts that do not mark where words end. -/
def unspaced : CharSet := .listed (.ofLines [
  "E01-E3A E40-E4E E81-E82 E84 E86-E8A E8C-EA3 EA5 EA7-EBD EC0-EC4 EC6 EC8-ECE EDC-EDF",
  "1000-103F 1050-108F 109A-109F 1780-17D3 17D7 17DC-17DD 1950-196D 1970-1974 1980-19AB 19B0-19C9",
  "19DA 19DE-19DF 1A20-1A5E 1A60-1A7C 1AA0-1AAD A9E0-A9EF A9FA-A9FE AA60-AAC2 AADB-AADF",
  "11700-1171A 1171D-1172B 1173A-1173B 1173F-11746"])

/-- The characters of a script. -/
def ofScript (name : String) : CharSet := .listed ((scriptRanges? name).getD .none)

/-- Letters of Katakana and what is used with them. -/
def katakana : CharSet :=
  minus (.union (ofScript "Katakana") (written "3031-3035 309B-309C 30A0 30FC FF70")) attached

/-- Letters of Hebrew. -/
def hebrewLetter : CharSet := .inter (ofScript "Hebrew") (category "Lo")

/-- Letters of words that are set apart. -/
def spacedLetter : CharSet :=
  minus
    (.union alphabetic (.listed (.ofLines [
      "2C2-2C5 2D2-2D7 2DE-2DF 2E5-2EB 2ED 2EF-2FF 55A-55C 55E 58A 5F3 70F A708-A716 A720-A721",
      "A789-A78A AB5B"])))
    (unionOf [trait "Ideographic", katakana, unspaced, ofScript "Hiragana", attached, hebrewLetter])

/-- The classes that make up words. -/
def wordClasses : List (List String × CharSet) := [
  (["ALetter", "LE"], spacedLetter),
  (["CR"], only '\r'),
  (["Double_Quote", "DQ"], only '"'),
  (["Extend"], .union attached (trait "Emoji_Modifier")),
  (["ExtendNumLet", "EX"], written "5F 202F 203F-2040 2054 FE33-FE34 FE4D-FE4F FF3F"),
  (["Format", "FO"],
    minus (category "Cf")
      (unionOf [written "200B-200D", trait "Prepended_Concatenation_Mark", attached])),
  (["Hebrew_Letter", "HL"], hebrewLetter),
  (["Katakana", "KA"], katakana),
  (["LF"], only '\n'),
  (["MidLetter", "ML"], written "3A B7 387 55F 5F4 2027 FE13 FE55 FF1A"),
  (["MidNum", "MN"],
    written "2C 3B 37E 589 60C-60D 66C 7F8 2044 FE10 FE14 FE50 FE54 FF0C FF1B"),
  (["MidNumLet", "MB"], written "2E 2018-2019 2024 FE52 FF07 FF0E"),
  (["Newline", "NL"], written "B-C 85 2028-2029"),
  (["Numeric", "NU"], unionOf [category "Nd", written "66B", numberSigns]),
  (["Regional_Indicator", "RI"], trait "Regional_Indicator"),
  (["Single_Quote", "SQ"], only '\''),
  (["WSegSpace"], written "20 1680 2000-2006 2008-200A 205F 3000"),
  (["ZWJ"], written "200D")]

/-- A class that makes up words. -/
def wordClass? (name : String) : Option CharSet := classNamed? wordClasses name

/-! ### Sentences -/

/-- Points that may end a sentence. -/
def points : CharSet := written "2E 2024 FE52 FF0E"

/-- Small letters in sentences. -/
def sentenceLower : CharSet :=
  minus lowercase (.union graphemeExtend (written "10D0-10FA 10FD-10FF"))

/-- Capital letters in sentences. -/
def sentenceUpper : CharSet :=
  minus (.union uppercase (category "Lt")) (written "1C90-1CBA 1CBD-1CBF")

/-- Marks within sentences. -/
def sentenceTail : CharSet := .union attached (written "200D")

/-- The classes that make up sentences. -/
def sentenceClasses : List (List String × CharSet) := [
  (["ATerm", "AT"], points),
  (["Close", "CL"],
    .union (categories ["Ps", "Pe", "Pi", "Pf"])
      (written "22 27 275B-2760 2E00-2E01 2E06-2E08 2E0B 1F676-1F678")),
  (["CR"], only '\r'),
  (["Extend", "EX"], sentenceTail),
  (["Format", "FO"],
    minus (category "Cf") (unionOf [written "200C-200D", numberSigns, sentenceTail])),
  (["LF"], only '\n'),
  (["Lower", "LO"], sentenceLower),
  (["Numeric", "NU"], unionOf [category "Nd", written "66B-66C", numberSigns]),
  (["OLetter", "LE"],
    minus (.union alphabetic (written "5F3"))
      (unionOf [sentenceLower, sentenceUpper, sentenceTail])),
  (["SContinue", "SC"], .listed (.ofLines [
    "2C-2D 3A 55D 60C-60D 7F8 1802 1808 2013-2014 3001 FE10-FE11 FE13 FE31-FE32 FE50-FE51 FE55",
    "FE58 FE63 FF0C-FF0D FF1A FF64"])),
  (["Sep", "SE"], written "85 2028-2029"),
  (["Sp"], written "9 B-C 20 A0 1680 2000-200A 202F 205F 3000"),
  (["STerm", "ST"], minus (trait "Sentence_Terminal") points),
  (["Upper", "UP"], sentenceUpper)]

/-- A class that makes up sentences. -/
def sentenceClass? (name : String) : Option CharSet := classNamed? sentenceClasses name

end CharSet

end FenceSync
