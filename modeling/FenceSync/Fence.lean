import FenceSync.Text.Basic

namespace FenceSync

/-!
# Fences

A code block stands between an opening fence, three backticks with an optional info string, and a
closing fence with the same indentation.

* `Fence.ofLine?` recognises an opening fence.
* `Fence.isClosedBy` recognises the closing fence that belongs to it.
* `isBlankLine` recognises the lines that may stand between a marker and its block.
-/

/-- The backticks of a fence. -/
def fenceMark : Text := ['\x60', '\x60', '\x60']

/-- The endings of a line that another line may follow. -/
def lineEndings : List Text := [['\n'], ['\r', '\n']]

/-- An opening fence: what stands before the backticks, and the first word behind them. -/
structure Fence where
  indent : Text
  language : Text
  deriving DecidableEq, Repr

/-- Neither of the characters that newlines are made of. -/
def isInLine (c : Char) : Bool := c ≠ '\r' && c ≠ '\n'

/-- A character of a language name. -/
def isLanguageChar (c : Char) : Bool := !isSpace c && c ≠ '\x60'

/-- Read an opening fence: an indentation, three backticks, an info string without CR, and a
    newline. -/
def Fence.ofLine? (line : Text) : Option Fence :=
  match Text.after? fenceMark (Text.dropIndent line) with
  | some info =>
    if info.dropWhile isInLine ∈ lineEndings then
      some ⟨Text.indent line, info.takeWhile isLanguageChar⟩
    else none
  | none => none

/-- Whether a line, given with the line feed that ends it, closes a fence with this indentation:
    nothing but tabs and spaces may follow the backticks. -/
def closesIndent (indent line : Text) : Bool :=
  match Text.after? (indent ++ fenceMark) line with
  | some rest => Text.dropIndent rest ∈ [[], ['\r']] ++ lineEndings
  | none => false

/-- Whether a line closes the fence. -/
def Fence.isClosedBy (f : Fence) (line : Text) : Bool := closesIndent f.indent line

/-- A line of tabs and spaces. -/
def isBlankLine (line : Text) : Bool := Text.dropIndent line ∈ lineEndings

end FenceSync
