import FenceSync.Text.Utf8

namespace FenceSync

/-!
# Newlines

A document ends its lines with LF or with CR LF, and keeps its convention when text is embedded.

* `Newline.text` is the newline itself.
* `tallyFrom` counts both kinds of newline, in characters and in bytes alike.
* `Tally.newline` is the convention: CR LF only when it strictly outnumbers bare LF.
-/

/-- The two ways of ending a line. -/
inductive Newline where
  | lf
  | crlf
  deriving DecidableEq, Repr

/-- The newline as it stands in a text. -/
def Newline.text : Newline → Text
  | .lf => ['\n']
  | .crlf => ['\r', '\n']

theorem Newline.text_ne_nil (nl : Newline) : nl.text ≠ [] := by cases nl <;> simp [Newline.text]

/-! ### Counting -/

/-- How many lines end with CR LF, and how many with a bare LF. -/
structure Tally where
  crlf : Nat
  lf : Nat
  deriving DecidableEq, Repr

/-- Count newlines, given whether a CR stands right before. -/
def tallyFrom {α : Type} [DecidableEq α] (cr lf : α) : Bool → List α → Tally
  | _, [] => ⟨0, 0⟩
  | afterCr, x :: xs =>
    let rest := tallyFrom cr lf (x = cr) xs
    if x ≠ lf then rest
    else if afterCr then { rest with crlf := rest.crlf + 1 }
    else { rest with lf := rest.lf + 1 }

/-- The newlines of a text. -/
def Text.tally (t : Text) : Tally := tallyFrom '\r' '\n' false t

/-- The newlines of a byte sequence. -/
def Bytes.tally (bs : Bytes) : Tally := tallyFrom 0x0D 0x0A false bs

/-- The prevailing newline. -/
def Tally.newline (n : Tally) : Newline := if n.lf < n.crlf then .crlf else .lf

/-- The convention of a text. -/
def Text.newline (t : Text) : Newline := (Text.tally t).newline

/-- The convention of a byte sequence. -/
def Bytes.newline (bs : Bytes) : Newline := (Bytes.tally bs).newline

end FenceSync
