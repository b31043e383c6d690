import FenceSync.Block
import FenceSync.Resolve

namespace FenceSync

/-!
# Embedding

A document is embedded block by block from the top.  Everything outside the interiors is copied, and
the first block that fails leaves the whole document as it was.

* `embedSections` goes through the blocks.
* `embed` scans a document and puts the new interiors in place.
* `EmbedResult` is the new document with a report on every block.
-/

/-- What became of the block on the given lines. -/
structure BlockReport where
  startLine : Nat
  endLine : Nat
  outcome : Outcome
  deriving DecidableEq, Repr

/-- An embedded document. -/
structure EmbedResult where
  content : Text
  blocks : List BlockReport
  deriving DecidableEq, Repr

/-- The number of blocks with a new interior. -/
def EmbedResult.resolvedCount (r : EmbedResult) : Nat :=
  r.blocks.countP fun b => b.outcome.isResolved

/-- Why a document could not be embedded. -/
inductive EmbedError where
  | block (path : Text) (startLine endLine : Nat) (cause : ResolveError)
  | scan (path : Text) (cause : Document.ScanFault)
  deriving DecidableEq, Repr

/-- The name of a block in messages. -/
def blockLabel (path : Text) (startLine endLine : Nat) : String :=
  s!"{String.ofList path}#L{startLine}-L{endLine}"

/-- An error in words. -/
def EmbedError.message : EmbedError → String
  | .block path startLine endLine cause =>
    s!"{blockLabel path startLine endLine}: {cause.message}"
  | .scan path cause =>
    s!"{String.ofList path}: could not scan for code blocks: {cause.message}"

section
variable {m : Type → Type} [Monad m]

/-- The message on a block with the given outcome, if there is one. -/
def Outcome.logEntry? (o : Options) (label : String) : Outcome → Option LogEntry
  | .ignored => some ⟨.info, .embedding, s!"{label} ignore-next marker found, skipping"⟩
  | .languageUnresolved [] => some ⟨.info, .embedding, s!"{label} no language detected, skipping"⟩
  | .languageUnresolved language =>
    let name := String.ofList (Text.quoted language)
    let known := String.intercalate ", " CommentStyle.supported
    some ⟨.warn, .embedding,
      s!"{label} unsupported language {name}, supported languages are {known}; skipping"⟩
  | .noDirective => some ⟨.info, .embedding, s!"{label} no directive in first line, skipping"⟩
  | .directiveInvalid _ => none
  | .upToDate => some ⟨.info, .embedding, s!"{label} already up to date"⟩
  | .resolved _ lineCount =>
    some ⟨if o.mode = .verify then .warn else .info, .embedding,
      s!"{label} Embedded {lineCount} lines"⟩

/-- The outcome of a block whose error can be tolerated. -/
def ResolveError.tolerated? (o : Options) : ResolveError → Option Outcome
  | .invalidDirective directive => if o.strict then none else some (.directiveInvalid directive)
  | _ => none

/-- Resolve a block of the document `path`, and report on it. -/
def embedBlock (env : Surroundings m) (o : Options) (path newline : Text) (b : Block) :
    ExceptT EmbedError m Outcome := do
  let label := "  " ++ blockLabel path b.startLine b.endLine
  let outcome ← match ← (b.toSnippet.resolve env o newline).run with
    | .ok outcome => pure outcome
    | .error e =>
      match e.tolerated? o with
      | none => throw (.block path b.startLine b.endLine e)
      | some outcome => do
        env.log ⟨.error, .embedding, s!"{label} {e.message}"⟩
        pure outcome
  match outcome.logEntry? o label with
  | none => pure ()
  | some entry => env.log entry
  pure outcome

/-- Embed the sections of a document that follow the text `before`. -/
def embedSections (env : Surroundings m) (o : Options) (path newline : Text) :
    Text → List Section → ExceptT EmbedError m (Text × List BlockReport)
  | _, [] => pure ([], [])
  | before, s :: ss => do
    let b := Block.ofSection newline before s
    let outcome ← embedBlock env o path newline b
    let rest ← embedSections env o path newline (before ++ s.lead ++ s.code) ss
    pure (s.lead ++ outcome.interior s.code ++ rest.1,
      ⟨b.startLine, b.endLine, outcome⟩ :: rest.2)

/-- Embed the blocks of a text; `path` is its name in messages. -/
def embed (env : Surroundings m) (o : Options) (path markdown : Text) :
    ExceptT EmbedError m EmbedResult := do
  env.log ⟨.info, .embedding, s!"Analysing {String.ofList path} ..."⟩
  match Document.scan? markdown with
  | .error e => throw (.scan path e)
  | .ok d =>
    let r ← embedSections env o path (Text.newline markdown).text [] d.sections
    pure ⟨r.1 ++ d.rest, r.2⟩

end

end FenceSync
