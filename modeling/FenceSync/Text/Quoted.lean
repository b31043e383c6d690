import FenceSync.Text.Basic
import FenceSync.Text.Printable

namespace FenceSync

/-!
# Quoted text

Texts that come from a document are quoted in diagnostics, so that stray control characters show.

* `Text.quoted` writes a text between double quotes, with `\\` in front of quotes and backslashes,
  short forms for the usual controls, and `\\u` with the code point for what is not printable.
* `quotedList` writes a list of texts between square brackets.
-/

/-- A lower-case hexadecimal numeral. -/
def hexNumeral (n : Nat) : Text := Nat.toDigits 16 n

/-- The form of one character inside quotes. -/
def quotedChar (c : Char) : Text :=
  match c with
  | '\x00' => ['\\', '0']
  | '\t' => ['\\', 't']
  | '\r' => ['\\', 'r']
  | '\n' => ['\\', 'n']
  | '"' => ['\\', '"']
  | '\\' => ['\\', '\\']
  | c => if isPrintable c then [c] else ['\\', 'u', '\x7b'] ++ hexNumeral c.toNat ++ ['\x7d']

/-- A text between double quotes. -/
def Text.quoted (t : Text) : Text := '"' :: t.flatMap quotedChar ++ ['"']

/-- Quoted texts between square brackets. -/
def quotedList (ts : List Text) : Text :=
  '[' :: List.intercalate [',', ' '] (ts.map Text.quoted) ++ [']']

end FenceSync
