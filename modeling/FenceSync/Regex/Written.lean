import FenceSync.Character.Property
import FenceSync.Regex.Basic
import FenceSync.Regex.Fault

namespace FenceSync

/-!
# Written expressions

An expression as its author wrote it, before flags give its parts a meaning.

* `WrittenSet` is a set of characters, and `WrittenRegex` an expression.
* `WrittenRegex.beyond?` finds the first part that lies too deep in others.
-/

/-! ### Flags -/

/-- What a letter behind `(?` changes. -/
inductive RegexFlag where
  /-- Capital and small letters are the same. -/
  | anyCase
  /-- Anchors also stand for the ends of lines. -/
  | byLine
  /-- A dot also stands for the end of a line. -/
  | dotAll
  /-- Repetitions prefer few rounds. -/
  | lazy
  /-- Characters beyond ASCII count. -/
  | wide
  /-- A carriage return also ends a line. -/
  | returns
  /-- White space and comments do not count. -/
  | verbose
  deriving DecidableEq, Repr

/-- A flag that is set or taken away. -/
structure FlagSetting where
  flag : RegexFlag
  value : Bool
  deriving DecidableEq, Repr

/-! ### Sets -/

/-- A character as it is written. -/
structure WrittenChar where
  char : Char
  /-- It is given by the two digits of an octet. -/
  asOctet : Bool
  span : TextSpan
  deriving DecidableEq, Repr, Inhabited

/-- The sets that a letter behind a backslash stands for. -/
inductive ShortClass where
  | digit
  | space
  | word
  deriving DecidableEq, Repr

/-- Operations on sets. -/
inductive SetOperation where
  | inter
  | minus
  | differ
  deriving DecidableEq, Repr

/-- What an operation makes of two sets. -/
def SetOperation.apply (s t : CharSet) : SetOperation → CharSet
  | .inter => .inter s t
  | .minus => .minus s t
  | .differ => .union (.minus s t) (.minus t s)

/-- A set as it is written. -/
inductive WrittenSet where
  | nothing
  | char (c : WrittenChar)
  | range (first last : WrittenChar)
  /-- A set with a name between colons. -/
  | named (span : TextSpan) (negated : Bool) (name : String)
  | short (span : TextSpan) (negated : Bool) (kind : ShortClass)
  | property (span : TextSpan) (negated : Bool) (query : PropertyQuery)
  | both (s t : WrittenSet)
  | combined (op : SetOperation) (s t : WrittenSet)
  | bracketed (span : TextSpan) (negated : Bool) (s : WrittenSet)
  /-- Several parts that form a level of their own. -/
  | level (span : TextSpan) (s : WrittenSet)
  deriving DecidableEq, Repr, Inhabited

/-- The first part that lies in more levels than allowed. -/
def WrittenSet.beyond? : WrittenSet → Nat → Option TextSpan
  | .both s t, n | .combined _ s t, n => (s.beyond? n).or (t.beyond? n)
  | .bracketed span _ s, n | .level span s, n =>
    match n with
    | 0 => some span
    | n + 1 => s.beyond? n
  | _, _ => none

/-! ### Expressions -/

/-- An expression as it is written. -/
inductive WrittenRegex where
  | empty
  /-- Flags up to the end of the group. -/
  | flags (settings : List FlagSetting)
  | char (c : WrittenChar)
  | dot (span : TextSpan)
  | caret
  | dollar
  | textStart
  | textEnd
  | atWord (place : WordPlace)
  | set (s : WrittenSet)
  | repeated (r : WrittenRegex) (least : Nat) (most : Option Nat)
  /-- A group with its own flags. -/
  | group (settings : List FlagSetting) (r : WrittenRegex)
  | seq (r s : WrittenRegex)
  | either (r s : WrittenRegex)
  /-- A part that forms a level of its own. -/
  | level (span : TextSpan) (r : WrittenRegex)
  deriving DecidableEq, Repr, Inhabited

namespace WrittenRegex

/-- Expressions one behind the other. -/
def sequence : List WrittenRegex → WrittenRegex
  | [] => .empty
  | [r] => r
  | r :: rs => .seq r (sequence rs)

/-- Any of some expressions. -/
def oneOf : List WrittenRegex → WrittenRegex
  | [] => .empty
  | [r] => r
  | r :: rs => .either r (oneOf rs)

/-- The first part that lies in more levels than allowed. -/
def beyond? : WrittenRegex → Nat → Option TextSpan
  | .set s, n => s.beyond? n
  | .repeated r _ _, n | .group _ r, n => r.beyond? n
  | .seq r s, n | .either r s, n => (r.beyond? n).or (s.beyond? n)
  | .level span r, n =>
    match n with
    | 0 => some span
    | n + 1 => r.beyond? n
  | _, _ => none

end WrittenRegex

end FenceSync
