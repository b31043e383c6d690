import FenceSync.Character.Category
import FenceSync.Character.Trait

namespace FenceSync

/-!
# Letters and words

* `isAlphabetic` recognises letters, and `isAlphanumeric` letters and numbers.
* `isWordChar` recognises what words consist of: letters, marks, digits, joiners and the characters
  that connect words, such as the underscore.
-/

/-- Where letters lie. -/
def letterRanges : List CharRanges :=
  (["Ll", "Lu", "Lo", "Lm", "Lt", "Nl"].map categoryRanges) ++ [traitRanges "Other_Alphabetic"]

/-- Where other characters of words lie. -/
def connectorRanges : List CharRanges :=
  (["Mn", "Mc", "Me", "Nd", "Pc"].map categoryRanges) ++ [traitRanges "Join_Control"]

/-- Where numbers lie that are neither letters nor decimal digits. -/
def otherNumberRanges : CharRanges := categoryRanges "No"

/-- A letter. -/
def isAlphabetic (c : Char) : Bool :=
  if c.toNat < 0x80 then c.isAlpha else letterRanges.any fun rs => rs.holds c

/-- A letter or a number. -/
def isAlphanumeric (c : Char) : Bool :=
  if c.toNat < 0x80 then c.isAlphanum
  else isAlphabetic c || isDigit c || otherNumberRanges.holds c

/-- A character of a word. -/
def isWordChar (c : Char) : Bool :=
  if c.toNat < 0x80 then c.isAlphanum || c == '_'
  else isAlphabetic c || connectorRanges.any fun rs => rs.holds c

end FenceSync
