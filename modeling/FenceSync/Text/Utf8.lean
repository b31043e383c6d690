import FenceSync.Text.Basic

namespace FenceSync

/-!
# UTF-8

Files and command output are bytes; documents are texts.

* `Text.utf8` encodes a text.
* `Utf8.units` reads bytes as a sequence of characters and faults, a fault standing for the longest
  run of bytes that starts a character but cannot be completed, or for a byte that starts none.
* `Bytes.text?` decodes faultless bytes; `Bytes.lossyText` decodes any bytes and puts U+FFFD for
  every fault.
-/

/-- The content of a file, or the output of a command. -/
abbrev Bytes := List UInt8

/-- The UTF-8 form of a text. -/
def Text.utf8 (t : Text) : Bytes := t.flatMap String.utf8EncodeChar

namespace Utf8

/-- A character of which some bytes are still missing: how many, the bounds of the next one, and
    the value of those read. -/
structure Partial where
  missing : Nat
  low : Nat
  high : Nat
  value : Nat
  deriving DecidableEq, Repr

/-- What the first byte of a character announces. -/
inductive Start where
  /-- The byte is a character of its own. -/
  | whole (c : Char)
  /-- The byte has to be completed. -/
  | opens (p : Partial)
  /-- No character starts with the byte. -/
  | fault
  deriving DecidableEq, Repr

/-- Read the first byte of a character. -/
def start (byte : UInt8) : Start :=
  let b := byte.toNat
  if b < 0x80 then .whole (Char.ofNat b)
  else if b < 0xC2 then .fault
  else if b < 0xE0 then .opens ⟨1, 0x80, 0xBF, b - 0xC0⟩
  else if b = 0xE0 then .opens ⟨2, 0xA0, 0xBF, 0⟩
  else if b = 0xED then .opens ⟨2, 0x80, 0x9F, 0xD⟩
  else if b < 0xF0 then .opens ⟨2, 0x80, 0xBF, b - 0xE0⟩
  else if b = 0xF0 then .opens ⟨3, 0x90, 0xBF, 0⟩
  else if b < 0xF4 then .opens ⟨3, 0x80, 0xBF, b - 0xF0⟩
  else if b = 0xF4 then .opens ⟨3, 0x80, 0x8F, 4⟩
  else .fault

/-- Whether a byte can follow. -/
def Partial.accepts (p : Partial) (byte : UInt8) : Bool :=
  p.low ≤ byte.toNat && byte.toNat ≤ p.high

/-- The value after one more byte. -/
def Partial.extended (p : Partial) (byte : UInt8) : Nat := p.value * 64 + (byte.toNat - 0x80)

/-- Read bytes from inside a character (`some`) or between two (`none`); a fault is a `none` in the
    result. -/
def unitsFrom : Option Partial → Bytes → List (Option Char)
  | none, [] => []
  | some _, [] => [none]
  | none, b :: bs =>
    match start b with
    | .whole c => some c :: unitsFrom none bs
    | .opens p => unitsFrom (some p) bs
    | .fault => none :: unitsFrom none bs
  | some p, b :: bs =>
    if p.accepts b then
      if p.missing = 1 then some (Char.ofNat (p.extended b)) :: unitsFrom none bs
      else unitsFrom (some ⟨p.missing - 1, 0x80, 0xBF, p.extended b⟩) bs
    else
      none ::
        match start b with
        | .whole c => some c :: unitsFrom none bs
        | .opens q => unitsFrom (some q) bs
        | .fault => none :: unitsFrom none bs

/-- The characters and faults of a byte sequence. -/
def units (bs : Bytes) : List (Option Char) := unitsFrom none bs

/-- What a fault is shown as. -/
def replacement : Char := '\uFFFD'

end Utf8

namespace Bytes

/-- The text of faultless bytes. -/
def text? (bs : Bytes) : Option Text := (Utf8.units bs).mapM id

/-- The text of any bytes, with U+FFFD for every fault. -/
def lossyText (bs : Bytes) : Text := (Utf8.units bs).map (·.getD Utf8.replacement)

end Bytes

end FenceSync
