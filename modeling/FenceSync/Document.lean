import FenceSync.Search

namespace FenceSync

/-!
# Documents

A document is a sequence of code blocks with the text around them.  The opening fences that have a
closing one are paired with the first of them, from the top.

* `Document.ofLines` pairs the fences line by line.
* `Document.text` writes a document back; `text_ofText` says that reading loses nothing.
* `Document.scan?` gives up where the search for a block goes back too often.
-/

/-- A code block with the text before it. -/
structure Section extends Snippet where
  /-- Everything between the interior of the previous block and this one: the closing fence of the
      previous block, prose, markers, and the opening fence. -/
  lead : Text
  deriving DecidableEq, Repr

/-- Code blocks, and the text behind the interior of the last one. -/
structure Document where
  sections : List Section
  rest : Text
  deriving DecidableEq, Repr

namespace Document

/-! ### Writing -/

/-- The text of a document with other interiors. -/
def textWith (codes : Section → Text) (d : Document) : Text :=
  d.sections.flatMap (fun s => s.lead ++ codes s) ++ d.rest

/-- The text of a document. -/
def text (d : Document) : Text := d.textWith fun s => s.code

/-- Put a line in front of a document. -/
def consLine (line : Text) (d : Document) : Document :=
  match d.sections with
  | [] => { d with rest := line ++ d.rest }
  | s :: ss => { d with sections := { s with lead := line ++ s.lead } :: ss }

/-- Put a block in front of a document. -/
def consSection (s : Section) (d : Document) : Document :=
  { d with sections := s :: d.sections }

theorem text_consLine (line : Text) (d : Document) : (d.consLine line).text = line ++ d.text := by
  rcases d with ⟨_ | ⟨s, ss⟩, rest⟩ <;> simp [consLine, text, textWith]

theorem text_consSection (s : Section) (d : Document) :
    (d.consSection s).text = s.lead ++ s.code ++ d.text := by
  simp [consSection, text, textWith]

/-! ### Reading -/

/-- Read lines inside a block (`some`) or between two (`none`), with the marker in force there.
    The result is the interior of the block that is open, and the document behind it. -/
def walk : Option Fence → Marker → List Text → Text × Document
  | _, _, [] => ([], ⟨[], []⟩)
  | some f, m, line :: lines =>
    if f.isClosedBy line then ([], (walk none .absent lines).2.consLine line)
    else
      let r := walk (some f) m lines
      (line ++ r.1, r.2)
  | none, m, line :: lines =>
    match Fence.ofLine? line with
    | some f =>
      if lines.any f.isClosedBy then
        let r := walk (some f) .absent lines
        ([], r.2.consSection ⟨⟨m, f, r.1⟩, line⟩)
      else ([], (walk none .absent lines).2.consLine line)
    | none => ([], (walk none (m.across line) lines).2.consLine line)

/-- The document that lines make up. -/
def ofLines (lines : List Text) : Document := (walk none .absent lines).2

/-- The document that a text makes up. -/
def ofText (t : Text) : Document := ofLines (Text.lines t)

/-- Between two blocks no interior is open. -/
theorem walk_none_fst (m : Marker) (lines : List Text) : (walk none m lines).1 = [] := by
  cases lines with
  | nil => rfl
  | cons line lines => simp only [walk]; split <;> (try split) <;> rfl

theorem walk_flatten (state : Option Fence) (m : Marker) (lines : List Text) :
    (walk state m lines).1 ++ (walk state m lines).2.text = lines.flatten := by
  induction lines generalizing state m with
  | nil => cases state <;> rfl
  | cons line lines ih =>
    have step : ∀ m, (walk none m lines).2.text = lines.flatten := by
      intro m
      have := ih none m
      simpa [walk_none_fst] using this
    cases state with
    | some f =>
      simp only [walk]
      split
      · simp [text_consLine, step]
      · simp [ih]
    | none =>
      simp only [walk]
      split
      · split
        · simp [text_consSection, ih]
        · simp [text_consLine, step]
      · simp [text_consLine, step]

/-- Reading a document loses nothing. -/
theorem text_ofText (t : Text) : (ofText t).text = t := by
  have h := walk_flatten none .absent (Text.lines t)
  rwa [walk_none_fst, List.nil_append, Text.flatten_lines] at h

/-! ### Scanning -/

/-- Why a text could not be scanned. -/
inductive ScanFault where
  /-- The scan would take too long. -/
  | tooMuchEffort
  deriving DecidableEq, Repr

/-- A fault in words. -/
def ScanFault.message : ScanFault → String
  | .tooMuchEffort => "Error executing regex: Max limit for backtracking count exceeded"

/-- Read a document, unless the search for its blocks gives up. -/
def scan? (t : Text) : Except ScanFault Document :=
  if Search.givesUp t then .error .tooMuchEffort else .ok (ofText t)

end Document

end FenceSync
