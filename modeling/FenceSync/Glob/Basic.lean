import FenceSync.Text.Utf8

namespace FenceSync

/-!
# Globs

A glob is a pattern for relative paths, read byte by byte.

* `ByteClass` is a set of bytes.
* `Glob` is a pattern, and `Glob.rests` what can be left of a path behind a match.
* `Glob.accepts` matches a whole path.
-/

/-- A set of bytes: those in some ranges, or all others. -/
structure ByteClass where
  negated : Bool
  /-- First and last byte of each range. -/
  ranges : List (UInt8 × UInt8)
  deriving DecidableEq, Repr

namespace ByteClass

/-- The byte belongs to the set. -/
def holds (c : ByteClass) (b : UInt8) : Bool :=
  c.negated != c.ranges.any fun r => r.1 ≤ b && b ≤ r.2

/-- All bytes. -/
def all : ByteClass := ⟨true, []⟩

/-- A single byte. -/
def only (b : UInt8) : ByteClass := ⟨false, [(b, b)]⟩

/-- The byte of a slash. -/
def slash : UInt8 := 0x2F

/-- All bytes but the slash. -/
def inSegment : ByteClass := ⟨true, [(slash, slash)]⟩

end ByteClass

/-- A pattern. -/
inductive Glob where
  /-- The empty path. -/
  | empty
  /-- One byte of a class. -/
  | one (c : ByteClass)
  /-- Any number of bytes of a class. -/
  | many (c : ByteClass)
  /-- One pattern behind another. -/
  | seq (g h : Glob)
  | either (g h : Glob)
  deriving DecidableEq, Repr

namespace Glob

/-- What can be left of a path when a class is matched any number of times. -/
def restsOfMany (c : ByteClass) : Bytes → List Bytes
  | [] => [[]]
  | b :: bs => (b :: bs) :: if c.holds b then restsOfMany c bs else []

/-- What can be left of a path when a pattern is matched at its start. -/
def rests : Glob → Bytes → List Bytes
  | .empty, bs => [bs]
  | .one _, [] => []
  | .one c, b :: bs => if c.holds b then [bs] else []
  | .many c, bs => restsOfMany c bs
  | .seq g h, bs => ((rests g bs).flatMap (rests h)).eraseDups
  | .either g h, bs => (rests g bs ++ rests h bs).eraseDups

/-- The pattern matches the whole path. -/
def accepts (g : Glob) (path : Text) : Bool := (g.rests (Text.utf8 path)).any List.isEmpty

/-! ### Composition -/

/-- One pattern behind another, without traces of an empty one. -/
def andThen : Glob → Glob → Glob
  | .empty, h => h
  | g, .empty => g
  | g, h => .seq g h

/-- Patterns one behind the other. -/
def sequence (gs : List Glob) : Glob := gs.foldr andThen .empty

/-- Any of some patterns; the empty path if there are none. -/
def oneOf : List Glob → Glob
  | [] => .empty
  | [g] => g
  | g :: gs => .either g (oneOf gs)

/-- A character. -/
def char (c : Char) : Glob := sequence ((String.utf8EncodeChar c).map fun b => .one (.only b))

/-- A slash. -/
def slash : Glob := .one (.only ByteClass.slash)

/-- Any path. -/
def anything : Glob := .many .all

/-- Any directories in front: nothing, a slash, or anything that ends with a slash. -/
def leadingDirs : Glob := .either (.either .empty slash) (.seq anything slash)

/-- Any directories in between, with the slashes on both sides. -/
def innerDirs : Glob := .either slash (.seq slash (.seq anything slash))

/-- Anything below a directory, with the slash in front. -/
def insideDir : Glob := .seq slash anything

end Glob

end FenceSync
