import FenceSync.Character.Case
import FenceSync.Character.Category

namespace FenceSync

/-!
# Changing the case of letters

* `capitalOf` is the capital letter for a letter, and `smallOf` the small one.
-/

/-- The capital letters. -/
def capitalRanges : CharRanges := categoryRanges "Lu"

/-- The small letters. -/
def smallRanges : CharRanges := categoryRanges "Ll"

/-- The form of a letter that is among some characters; the letter itself if none is. -/
def formAmong (ranges : CharRanges) (c : Char) : Char :=
  if ranges.holds c then c else ((caseForms c).find? ranges.holds).getD c

/-- The capital letter for a letter.  A sharp s has one, but is not written with it. -/
def capitalOf (c : Char) : Char :=
  if c.toNat < 0x80 then c.toUpper else if c = '\u00DF' then c else formAmong capitalRanges c

/-- The small letter for a letter. -/
def smallOf (c : Char) : Char :=
  if c.toNat < 0x80 then c.toLower else formAmong smallRanges c

end FenceSync
