import FenceSync.Character.Case
import FenceSync.Character.Letter

namespace FenceSync

/-!
# Sets of characters

* `CharSet` is a set of characters, and `CharSet.holds` says what belongs to it.
* `CharSet.anyCase` adds the other forms of letters.
-/

/-- A set of characters. -/
inductive CharSet where
  | nothing
  /-- The characters from one to another. -/
  | range (first last : Char)
  /-- The characters of some ranges. -/
  | listed (rs : CharRanges)
  | space
  | digit
  /-- Characters of words. -/
  | word
  | union (s t : CharSet)
  | inter (s t : CharSet)
  | compl (s : CharSet)
  /-- Characters of which some form is a member. -/
  | anyCase (s : CharSet)
  /-- The same for the letters of ASCII alone. -/
  | anyAsciiCase (s : CharSet)
  deriving DecidableEq, Repr, Inhabited

namespace CharSet

/-- The character belongs to the set. -/
def holds : CharSet → Char → Bool
  | .nothing, _ => false
  | .range first last, c => first ≤ c && c ≤ last
  | .listed rs, c => rs.holds c
  | .space, c => isSpace c
  | .digit, c => isDigit c
  | .word, c => isWordChar c
  | .union s t, c => s.holds c || t.holds c
  | .inter s t, c => s.holds c && t.holds c
  | .compl s, c => !s.holds c
  | .anyCase s, c => (caseForms c).any s.holds
  | .anyAsciiCase s, c => (asciiForms c).any s.holds

/-- One character. -/
def only (c : Char) : CharSet := .range c c

/-- Every character. -/
def all : CharSet := .compl .nothing

/-- The characters of ASCII. -/
def ascii : CharSet := .range '\x00' '\x7f'

/-- Every character but some. -/
def allBut (cs : List Char) : CharSet := .compl ((cs.map only).foldr .union .nothing)

/-- The members of any of some sets. -/
def unionOf (ss : List CharSet) : CharSet := ss.foldr .union .nothing

/-- The members of the first set that are not in the second one. -/
def minus (s t : CharSet) : CharSet := .inter s (.compl t)

/-- The sets with names that hold characters of ASCII. -/
def asciiClasses : List (String × CharSet) :=
  let lower := CharSet.range 'a' 'z'
  let upper := CharSet.range 'A' 'Z'
  let digits := CharSet.range '0' '9'
  let alpha := CharSet.union lower upper
  let alnum := CharSet.union alpha digits
  [("alnum", alnum), ("alpha", alpha), ("ascii", ascii),
    ("blank", .union (.only '\t') (.only ' ')),
    ("cntrl", .union (.range '\x00' '\x1f') (.only '\x7f')), ("digit", digits),
    ("graph", .range '!' '~'), ("lower", lower), ("print", .range ' ' '~'),
    ("punct", minus (.range '!' '~') alnum),
    ("space", .union (.range '\t' '\r') (.only ' ')), ("upper", upper),
    ("word", .union alnum (.only '_')),
    ("xdigit", unionOf [digits, .range 'A' 'F', .range 'a' 'f'])]

/-- A set of `asciiClasses`. -/
def asciiClass (name : String) : CharSet := (asciiClasses.lookup name).getD .nothing

end CharSet

end FenceSync
