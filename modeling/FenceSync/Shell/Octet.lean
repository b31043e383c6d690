import FenceSync.Text.Split
import FenceSync.Text.Utf8

namespace FenceSync.Shell

/-!
# Octets

Commands work on bytes.  Here a byte is the character with its code, so that scripts, arguments and
output are written and compared as texts; only characters of ASCII belong to a class.

* `Octets.ofText`, `Octets.toText`, `Octets.ofBytes` and `Octets.toBytes` convert.
* `Octets.class?` finds a class of characters by its name.
* `Octets.nat?`, `Octets.int?` and `Octets.ofInt` read and write numbers.
-/

/-- A sequence of bytes. -/
abbrev Octets := List Char

namespace Octets

/-! ### Conversion -/

/-- The octets of bytes. -/
def ofBytes (bs : Bytes) : Octets := bs.map fun b => Char.ofNat b.toNat

/-- The bytes of octets. -/
def toBytes (t : Octets) : Bytes := t.map fun c => UInt8.ofNat c.toNat

/-- The octets of the UTF-8 form of a text. -/
def ofText (t : Text) : Octets := ofBytes (Text.utf8 t)

/-- The text that octets are the UTF-8 form of. -/
def toText (t : Octets) : Text := Bytes.lossyText (toBytes t)

/-- The octets of a string. -/
def ofString (s : String) : Octets := ofText s.toList

/-- A string for octets, to be compared with names. -/
def toString (t : Octets) : String := String.ofList t

/-! ### Classes -/

/-- A blank: space or tab. -/
def isBlank (c : Char) : Bool := c == ' ' || c == '\t'

/-- White space. -/
def isSpace (c : Char) : Bool := c == ' ' || (0x09 ≤ c.toNat && c.toNat ≤ 0x0D)

/-- A character that can be shown, or a space. -/
def isPrint (c : Char) : Bool := 0x20 ≤ c.toNat && c.toNat < 0x7F

/-- A character that can be seen. -/
def isGraph (c : Char) : Bool := 0x20 < c.toNat && c.toNat < 0x7F

/-- A mark: what can be seen and is neither letter nor digit. -/
def isPunct (c : Char) : Bool := isGraph c && !c.isAlphanum

/-- A control character. -/
def isControl (c : Char) : Bool := c.toNat < 0x20 || c.toNat == 0x7F

/-- A digit of a hexadecimal number. -/
def isHexDigit (c : Char) : Bool :=
  c.isDigit || ('a' ≤ c && c ≤ 'f') || ('A' ≤ c && c ≤ 'F')

/-- A character that a name can start with. -/
def startsName (c : Char) : Bool := c.isAlpha || c == '_'

/-- A character that a name can go on with. -/
def inName (c : Char) : Bool := c.isAlphanum || c == '_'

/-- The classes by name. -/
def classes : List (String × (Char → Bool)) := [
  ("alnum", Char.isAlphanum), ("alpha", Char.isAlpha), ("blank", isBlank), ("cntrl", isControl),
  ("digit", Char.isDigit), ("graph", isGraph), ("lower", Char.isLower), ("print", isPrint),
  ("punct", isPunct), ("space", isSpace), ("upper", Char.isUpper), ("xdigit", isHexDigit)]

/-- The class with a name. -/
def class? (name : Octets) : Option (Char → Bool) := classes.lookup (toString name)

/-- A name: a letter or underscore, and letters, digits and underscores. -/
def isName (t : Octets) : Bool :=
  match t with
  | [] => false
  | c :: cs => startsName c && cs.all inName

/-! ### Numbers -/

/-- The value of a digit in a base of at most 36. -/
def digit? (base : Nat) (c : Char) : Option Nat :=
  let v :=
    if c.isDigit then some (c.toNat - 48)
    else if 'a' ≤ c ∧ c ≤ 'z' then some (c.toNat - 87)
    else if 'A' ≤ c ∧ c ≤ 'Z' then some (c.toNat - 55)
    else none
  v.filter fun n => n < base

/-- The number with some digits, of which there has to be one. -/
def natIn? (base : Nat) (t : Octets) : Option Nat :=
  if t = [] then none else t.foldlM (fun n c => (digit? base c).map (base * n + ·)) 0

/-- A decimal number without a sign. -/
def nat? (t : Octets) : Option Nat := natIn? 10 t

/-- A sign, and the rest. -/
def cutSign (t : Octets) : Bool × Octets :=
  match t with
  | '-' :: t => (true, t)
  | '+' :: t => (false, t)
  | t => (false, t)

/-- A number with the sign that was cut. -/
def signed (negative : Bool) (n : Nat) : Int := if negative then -(n : Int) else n

/-- A decimal number. -/
def int? (t : Octets) : Option Int :=
  let (negative, digits) := cutSign t
  (nat? digits).map (signed negative)

/-- A decimal numeral. -/
def ofNat (n : Nat) : Octets := Nat.toDigits 10 n

/-- A decimal numeral with a sign where it is needed. -/
def ofInt (n : Int) : Octets := if n < 0 then '-' :: ofNat n.natAbs else ofNat n.natAbs

/-! ### Pieces -/

/-- The text without the given characters in front. -/
def dropBlanks (t : Octets) : Octets := t.dropWhile isBlank

/-- Pieces with a separator between them. -/
def join (sep : Octets) (ts : List Octets) : Octets := Text.joinWith sep ts

/-- The pieces of a text that each end with a separator, which is left out; what follows the last
    separator is a piece too unless it is empty.  The pieces so far and the one being read are in
    reverse order. -/
def recordsFrom (sep : Char) : List Octets → Octets → Octets → List Octets
  | done, [], [] => done.reverse
  | done, current, [] => (current.reverse :: done).reverse
  | done, current, c :: t =>
    if c = sep then recordsFrom sep (current.reverse :: done) [] t
    else recordsFrom sep done (c :: current) t

/-- The pieces of a text that each end with a separator. -/
def records (sep : Char) (t : Octets) : List Octets := recordsFrom sep [] [] t

/-- The lines of a text, without the line feeds that end them. -/
def lines (t : Octets) : List Octets := records '\n' t

/-- Lines with line feeds behind them. -/
def unlines (ls : List Octets) : Octets := ls.flatMap fun l => l ++ ['\n']

/-- The pieces between occurrences of a separator. -/
def fields (sep : Char) (t : Octets) : List Octets :=
  if t.getLast?.all (· == sep) then records sep t ++ [[]] else records sep t

/-- The text without the line feeds it ends with. -/
def trimFeeds (t : Octets) : Octets := (t.reverse.dropWhile (· == '\n')).reverse

/-- A text with characters in front, so that it has a given width. -/
def padLeft (width : Nat) (c : Char) (t : Octets) : Octets :=
  List.replicate (width - t.length) c ++ t

/-- A text with blanks behind, so that it has a given width. -/
def padRight (width : Nat) (t : Octets) : Octets := t ++ List.replicate (width - t.length) ' '

/-- Text order by code. -/
def before (s t : Octets) : Bool := decide (s < t)

/-- Pieces of at most so many characters. -/
def chunks (width : Nat) (t : Octets) : List Octets :=
  go t.length t
where
  go : Nat → Octets → List Octets
    | 0, _ => []
    | n + 1, t => if t.isEmpty then [] else t.take (max width 1) :: go n (t.drop (max width 1))

end Octets

end FenceSync.Shell
