import FenceSync.Text.Utf8

namespace FenceSync

/-!
# Terminal text

A text for a terminal can hold control characters and escape sequences, which set colours and the
like.

* `Terminal.paint` puts a text into a colour.
* `Terminal.plain` is what can be read of a text: neither escape sequences nor control characters
  other than white space.  What is shown is told character by character, what is not shown byte by
  byte, with the states of a video terminal.
-/

namespace Terminal

/-! ### Colours -/

/-- Ways in which a text can stand out. -/
inductive Emphasis where
  | red
  | boldRed
  | yellow
  | magenta
  | dimmed
  deriving DecidableEq, Repr

/-- The parameters of the escape sequence for a way of standing out. -/
def Emphasis.code : Emphasis → String
  | .red => "31"
  | .boldRed => "1;31"
  | .yellow => "33"
  | .magenta => "35"
  | .dimmed => "2"

/-- The escape sequence that starts an emphasis. -/
def Emphasis.start (e : Emphasis) : Text := s!"\x1b[{e.code}m".toList

/-- The escape sequence that ends every emphasis. -/
def reset : Text := "\x1b[0m".toList

/-- A text with an emphasis that goes on behind an inner reset. -/
def resume (e : Emphasis) : Nat → Text → Text
  | 0, t => t
  | _ + 1, [] => []
  | n + 1, c :: t =>
    match Text.after? reset (c :: t) with
    | some rest => reset ++ e.start ++ resume e n rest
    | none => c :: resume e n t

/-- A text with an emphasis. -/
def paint (e : Emphasis) (t : Text) : Text := e.start ++ resume e t.length t ++ reset

/-! ### Reading what is shown -/

/-- Where a terminal stands in a text. -/
inductive Phase where
  /-- Characters are shown. -/
  | ground
  /-- Behind an escape character. -/
  | escape
  /-- Behind an escape character and intermediate characters. -/
  | intermediate
  /-- In a control sequence, which a letter ends. -/
  | control
  /-- In a command, which a bell ends. -/
  | command
  /-- At the start of a device string, before its parameters. -/
  | deviceStart
  /-- In the parameters of a device string. -/
  | deviceParameters
  /-- In the intermediate characters of a device string. -/
  | deviceIntermediate
  /-- In a string, which the byte 9C ends. -/
  | string
  deriving DecidableEq, Repr

/-- A byte is in a range. -/
def within (b lo hi : UInt8) : Bool := lo ≤ b && b ≤ hi

/-- White space among the control characters. -/
def isLayout (c : Char) : Bool := c == '\t' || c == '\n' || c == '\x0c' || c == '\r'

/-- An ASCII character that is shown. -/
def isShown (c : Char) : Bool := isLayout c || (0x20 ≤ c.toNat && c.toNat < 0x7F)

/-- Control characters are carried out within a sequence, so that white space is shown. -/
def Phase.showsLayout : Phase → Bool
  | .ground | .escape | .intermediate | .control => true
  | _ => false

/-- What follows a byte behind an escape character. -/
def Phase.afterEscape (b : UInt8) : Phase :=
  if within b 0x20 0x2F then .intermediate
  else if b = 0x5B then .control
  else if b = 0x5D then .command
  else if b = 0x50 then .deviceStart
  else if b = 0x58 ∨ b = 0x5E ∨ b = 0x5F then .string
  else if within b 0x30 0x7E then .ground
  else .escape

/-- What follows a byte. -/
def Phase.step (p : Phase) (b : UInt8) : Phase :=
  if b = 0x1B then .escape
  else if b = 0x18 ∨ b = 0x1A then .ground
  else match p with
    | .ground => .ground
    | .escape => afterEscape b
    | .intermediate => if within b 0x30 0x7E then .ground else .intermediate
    | .control => if within b 0x40 0x7E then .ground else .control
    | .command => if b = 0x07 then .ground else .command
    | .deviceStart =>
      if within b 0x20 0x2F then .deviceIntermediate
      else if within b 0x30 0x3F then .deviceParameters
      else if within b 0x40 0x7E then .string
      else .deviceStart
    | .deviceParameters =>
      if within b 0x20 0x2F then .deviceIntermediate
      else if within b 0x3C 0x7E then .string
      else .deviceParameters
    | .deviceIntermediate => if within b 0x30 0x7E then .string else .deviceIntermediate
    | .string => if b = 0x9C then .ground else .string

/-- What is shown of a text.  While characters are being shown, only those that are not shown say
    where the terminal stands; `showing` tells whether that is so. -/
def plainFrom (p : Phase) (showing : Bool) : Text → Text
  | [] => []
  | c :: t =>
    if 0x80 ≤ c.toNat then
      if showing || p == .ground then c :: plainFrom .ground true t
      else plainFrom ((Text.utf8 [c]).foldl Phase.step p) false t
    else if isShown c && (showing || p == .ground || (isLayout c && p.showsLayout)) then
      c :: plainFrom p true t
    else plainFrom (p.step (UInt8.ofNat c.toNat)) false t

/-- What is shown of a text. -/
def plain (t : Text) : Text := plainFrom .ground false t

end Terminal

end FenceSync
