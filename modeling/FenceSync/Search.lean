import FenceSync.Marker
import FenceSync.Trial

namespace FenceSync

/-!
# The search for blocks

A search goes through a text from the top.  At the start of each line it looks for a marker and a
fence, or for a fence alone, and follows the fence to its closing one.

* `Search.Hit` is what a search finds: a block with its marker, and the text behind it.
* `Search.next` looks for the next block.
* `Search.givesUp` says whether one of the searches of a text goes back too often.
-/

/-- A code block: the marker above it, its opening fence, and its interior. -/
structure Snippet where
  marker : Marker
  fence : Fence
  code : Text
  deriving DecidableEq, Repr

namespace Search

open Trial

variable {β : Type}

/-! ### What is found -/

/-- A block that was found, and the text behind its closing fence. -/
structure Hit extends Snippet where
  rest : Text
  deriving DecidableEq, Repr

/-- What is kept of a marker on the way to a fence. -/
inductive Capture where
  /-- There is no marker. -/
  | absent
  /-- It asks to leave the block alone. -/
  | ignoring
  /-- Its directive lies between two places: the text from there on is `start`, and `stop`. -/
  | directive (start stop : Text)

/-- The marker that was captured; white space alone is no directive. -/
def Capture.marker : Capture → Marker
  | .absent => .absent
  | .ignoring => .ignoreNext
  | .directive start stop =>
    let text := Text.trim (Text.upTo start stop)
    if text = [] then .absent else .directive text

/-! ### From a marker to a fence -/

/-- Pass over tabs and spaces. -/
def blanks (k : Text → Trial β) : Text → Trial β := many isTabOrSpace k

/-- Pass over blank lines, at most so many. -/
def blankLines (k : Text → Trial β) : Nat → Text → Trial β
  | 0, t => k t
  | n + 1, t => orElse (blanks (newline (blankLines k n)) t) (k t)

/-- Pass over the end of a marker and blank lines behind it, at most so many. -/
def markerEnd (size : Nat) (k : Text → Trial β) : Text → Trial β :=
  blanks (word "-->".toList (blanks (newline (blankLines k size))))

/-- Pass over what a marker that carries a directive has behind its keyword, and over its end. -/
def directive (size : Nat) (k : Capture → Text → Trial β) : Text → Trial β :=
  manyOne isTabOrSpace fun t =>
    if Marker.startsIgnoring t then fail
    else retreat (few isInLine (fun u => markerEnd size (k (.directive t u)) u) t)

/-- Pass over what a marker that asks to leave a block alone has behind its keyword, and over its
    end. -/
def ignoring (size : Nat) (k : Capture → Text → Trial β) : Text → Trial β :=
  manyOne Marker.isIgnoreSeparator (word Marker.ignoreWord (markerEnd size (k .ignoring)))

/-- Pass over a marker and blank lines behind it, at most so many. -/
def marker (size : Nat) (k : Capture → Text → Trial β) : Text → Trial β :=
  blanks <| word "<!--".toList <| blanks <| word Marker.keyword fun t =>
    orElse (ignoring size k t) (directive size k t)

/-! ### From a fence to its end -/

/-- What follows the closing fence with an indentation, if a text starts with one. -/
def behindClosing? (indent t : Text) : Option Text :=
  (Text.after? (indent ++ fenceMark) t).bind fun rest =>
    match Text.dropIndent rest with
    | [] => some []
    | '\n' :: t => some ('\n' :: t)
    | ['\r'] => some []
    | '\r' :: '\n' :: t => some ('\n' :: t)
    | _ => none

/-- Pass over as few characters as possible before a closing fence with an indentation; whether the
    text starts a line is known.  The result is made of the text from the closing fence on, and of
    the text behind it. -/
def interior (indent : Text) (result : Text → Text → β) : Bool → Text → Trial β
  | starts, [], n =>
    match if starts then behindClosing? indent [] else none with
    | some rest => .found (result [] rest)
    | none => retreat fail n
  | starts, c :: t, n =>
    match if starts then behindClosing? indent (c :: t) else none with
    | some rest => .found (result (c :: t) rest)
    | none => match n with
      | 0 => .exhausted
      | n + 1 => interior indent result (c == '\n') t n

/-- Pass over an opening fence, to the start of its interior.  The info string begins with the
    language; the text from there on is known, and the text behind the language. -/
def opening (k : Text → Text → Text → Trial β) : Text → Trial β :=
  blanks <| word fenceMark fun info =>
    many isLanguageChar (fun behind => many isInLine (newline (k info behind)) behind) info

/-- Find a block at its opening fence; what is kept of its marker is known. -/
def fence (c : Capture) (t : Text) : Trial Hit :=
  opening (fun info behind inside =>
    interior (Text.indent t) (fun closing rest =>
      ⟨⟨c.marker, ⟨Text.indent t, Text.upTo info behind⟩, Text.upTo inside closing⟩, rest⟩)
      true inside) t

/-- Find a block at the start of a line, with its marker if it has one. -/
def block (size : Nat) (t : Text) : Trial Hit := orElse (marker size fence t) (fence .absent t)

/-! ### From line to line -/

/-- Find the next block; whether the text starts a line is known. -/
def next (size : Nat) : Bool → Text → Trial Hit
  | starts, [], n =>
    match if starts then block size [] n else retreat fail n with
    | .failed m => retreat fail m
    | e => e
  | starts, c :: t, n =>
    match if starts then block size (c :: t) n else retreat fail n with
    | .failed 0 => .exhausted
    | .failed (m + 1) => next size (c == '\n') t m
    | e => e

/-- How often a search may go back. -/
def limit : Nat := 10000000

/-- Whether a search gives up, if there are at most so many of them. -/
def givesUpFrom (size : Nat) : Nat → Bool → Text → Bool
  | 0, _, _ => false
  | n + 1, starts, t =>
    match next size starts t limit with
    | .found hit => givesUpFrom size n false hit.rest
    | .failed _ => false
    | .exhausted => true

/-- Whether a search for the next block of a text gives up. -/
def givesUp (t : Text) : Bool := givesUpFrom t.length (t.length + 1) true t

end Search

end FenceSync
