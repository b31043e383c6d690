import FenceSync.Document
import FenceSync.Newline
import FenceSync.Text.Split

namespace FenceSync

/-!
# Blocks

A block as it is reported: where it lies in the document, in bytes and in lines, and what it says.

* `Block.listFrom` places the sections of a document.
* `Block.extract?` scans a text for its blocks.
-/

/-- A code block of a document. -/
structure Block extends Snippet where
  /-- The byte at which the interior starts. -/
  start : Nat
  /-- The byte behind the interior, at which the closing fence line starts. -/
  stop : Nat
  /-- The line, counted from one, of the first byte of the interior. -/
  startLine : Nat
  /-- The line of the closing fence. -/
  endLine : Nat
  deriving DecidableEq, Repr

namespace Block

/-- A section at its place behind the text `before`, with lines ended by `newline`. -/
def ofSection (newline before : Text) (s : Section) : Block :=
  let opened := before ++ s.lead
  let closed := opened ++ s.code
  { s.toSnippet with
    start := Text.size opened
    stop := Text.size closed
    startLine := 1 + Text.occurrences newline opened
    endLine := 1 + Text.occurrences newline closed }

/-- The blocks of sections that follow the text `before`. -/
def listFrom (newline before : Text) : List Section → List Block
  | [] => []
  | s :: ss => ofSection newline before s :: listFrom newline (before ++ s.lead ++ s.code) ss

/-- The blocks of a document with lines ended by `newline`. -/
def list (newline : Text) (d : Document) : List Block := listFrom newline [] d.sections

/-- The blocks of a text, from the top. -/
def extract? (source : Text) : Except Document.ScanFault (List Block) :=
  match Document.scan? source with
  | .ok d => .ok (list (Text.newline source).text d)
  | .error e => .error e

end Block

end FenceSync
