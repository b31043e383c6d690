import FenceSync.Shell.Pattern

namespace FenceSync.Shell

/-!
# Fields

When a word is expanded, its characters come from the script, from a quotation or from a value.
Only what comes from a value is split into fields, and nothing quoted is taken as part of a pattern.

* `Piece` is a piece of an expanded word.
* `Piece.joined` makes one text of pieces, and `Piece.fields` splits them.
-/

/-- Where the characters of an expanded word come from. -/
inductive Origin where
  | script
  | quoted
  | value
  deriving DecidableEq, Repr

/-- A piece of an expanded word. -/
inductive Piece where
  | text (o : Origin) (t : Octets)
  /-- The end of a field, which a text without fields has a separator for if `joined`. -/
  | cut (joined : Bool)
  deriving DecidableEq, Repr

namespace Piece

/-- One text, with a blank or a separator where fields would end. -/
def joined (separator : Octets) (ps : List Piece) : Marked :=
  ps.flatMap fun p => match p with
    | .text o t => Marked.of (o == .quoted) t
    | .cut j => Marked.of false (if j then separator else [' '])

/-- Some piece has characters. -/
def holdsText (ps : List Piece) : Bool :=
  ps.any fun p => match p with
    | .text _ t => !t.isEmpty
    | .cut _ => true

/-! ### Splitting -/

/-- Fields as far as they are split. -/
structure Splitting where
  /-- Complete fields, the last one first. -/
  done : List Marked
  /-- The current field in reverse order. -/
  current : Marked
  /-- The current field is one, even if it is empty. -/
  started : Bool
  /-- White space has ended a field, and nothing followed yet. -/
  spaced : Bool

namespace Splitting

/-- No field yet. -/
def start : Splitting := ⟨[], [], false, false⟩

/-- The current field is complete. -/
def close (s : Splitting) (spaced : Bool) : Splitting :=
  ⟨s.current.reverse :: s.done, [], false, spaced⟩

/-- Go on by a character of a value. -/
def byValue (separators : Octets) (s : Splitting) (c : Char) : Splitting :=
  if separators.contains c then
    if Octets.isBlank c || c == '\n' then if s.started then s.close true else s
    else if s.spaced && !s.started then { s with spaced := false }
    else s.close false
  else { s with current := (c, false) :: s.current, started := true, spaced := false }

/-- Go on by a piece. -/
def byPiece (separators : Octets) (s : Splitting) : Piece → Splitting
  | .text .value t => t.foldl (byValue separators) s
  | .text o t =>
    if t.isEmpty && o == .script then s
    else { s with
      current := (Marked.of (o == .quoted) t).reverse ++ s.current, started := true
      spaced := false }
  | .cut _ => if s.started then s.close false else { s with spaced := false }

end Splitting

/-- The fields of pieces. -/
def fields (separators : Octets) (ps : List Piece) : List Marked :=
  let s := ps.foldl (Splitting.byPiece separators) Splitting.start
  (if s.started then s.close false else s).done.reverse

end Piece

end FenceSync.Shell
