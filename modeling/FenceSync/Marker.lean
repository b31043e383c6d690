import FenceSync.Fence

namespace FenceSync

/-!
# Markers

A comment right above a block may say that the block is to be left alone, or carry its directive.

* `Marker.ofLine` reads such a comment.
* `Marker.across` is the marker in force behind a line: blank lines keep it, any other line puts
  its own in its place.
-/

/-- What the line above a block says about it. -/
inductive Marker where
  /-- Nothing. -/
  | absent
  /-- The block is to be left alone. -/
  | ignoreNext
  /-- The block has this directive, which is not empty. -/
  | directive (text : Text)
  deriving DecidableEq, Repr

namespace Marker

/-- The word that every marker starts with. -/
def keyword : Text := "embedme".toList

/-- The word of a marker that asks to leave a block alone. -/
def ignoreWord : Text := "ignore-next".toList

/-- What follows the keyword on a marker line. -/
def afterKeyword? (line : Text) : Option Text :=
  (Text.after? "<!--".toList (Text.dropIndent line)).bind fun t =>
    Text.after? keyword (Text.dropIndent t)

/-- A line without its newline, if it has one. -/
def beforeNewline? (line : Text) : Option Text :=
  (Text.before? ['\r', '\n'] line).or (Text.before? ['\n'] line)

/-- What stands before the `-->` at the end of a line; only tabs and spaces may follow it. -/
def beforeEnd? (t : Text) : Option Text :=
  (beforeNewline? t).bind fun t =>
    Text.before? "-->".toList (t.reverse.dropWhile isTabOrSpace).reverse

/-- The characters that may separate the keyword from the ignore word. -/
def isIgnoreSeparator (c : Char) : Bool := isTabOrSpace c || c == '-'

/-- Separators, the ignore word, and blanks. -/
def isIgnoreBody (body : Text) : Bool :=
  match Text.after? ignoreWord (body.dropWhile isIgnoreSeparator) with
  | some rest => (body.head?.any isIgnoreSeparator) && rest.all isTabOrSpace
  | none => false

/-- Whether the text behind the keyword starts with a finished ignore comment. -/
def startsIgnoring (t : Text) : Bool :=
  match Text.after? ignoreWord (Text.dropIndent t) with
  | some rest => (Text.after? "-->".toList (Text.dropIndent rest)).isSome
  | none => false

/-- The directive in the text behind the keyword, given the part before the last `-->`. -/
def directiveOf (rest body : Text) : Marker :=
  let text := Text.trim body
  if body.head?.any isTabOrSpace && !startsIgnoring rest && body.all isInLine && text ≠ [] then
    .directive text
  else .absent

/-- Read a line as a marker. -/
def ofLine (line : Text) : Marker :=
  match afterKeyword? line with
  | none => .absent
  | some rest =>
    match beforeEnd? rest with
    | none => .absent
    | some body => if isIgnoreBody body then .ignoreNext else directiveOf rest body

/-- The marker in force behind `line`, if `m` is in force before it. -/
def across (m : Marker) (line : Text) : Marker := if isBlankLine line then m else ofLine line

/-- The directive that a marker carries, empty if there is none. -/
def inlineDirective : Marker → Text
  | .directive text => text
  | _ => []

end Marker

end FenceSync
