import FenceSync.Embed
import FenceSync.Surroundings

namespace FenceSync

/-!
# Delivery

A run embeds one document after the other and delivers the results as the output mode says.  The
first error ends the run.

* `embedSource` embeds a document without writing anything.
* `deliver` disposes of one result, and `deliverFrom` goes through the documents.
* `deliverAll` is a whole run: if there is a target file, it is written when all documents are done.
-/

/-- What became of a document. -/
structure SourceReport where
  /-- The path as shown. -/
  path : Path
  changed : Bool
  resolvedBlocks : Nat
  deriving DecidableEq, Repr

/-- Why a run ended early.  Paths are as shown. -/
inductive DeliveryError where
  | notAFile (path : Path)
  | read (path : Path) (cause : FileError)
  | embed (path : Path) (cause : EmbedError)
  | write (path : Path) (cause : FileError)
  /-- The document would change, which it must not. -/
  | difference (path : Path)
  deriving DecidableEq, Repr

/-- An error in words. -/
def DeliveryError.message : DeliveryError → String
  | .notAFile path => s!"file {path.toString} does not exist or is not a regular file"
  | .read path cause => s!"file {path.toString} could not be read: {cause.message}"
  | .embed path cause => s!"failed to embed {path.toString}: {cause.message}"
  | .write path cause => s!"failed to write {path.toString}: {cause.message}"
  | .difference path => s!"Difference detected in {path.toString}"

/-- How many documents were processed, would change, and were written. -/
structure Totals where
  documents : Nat
  changed : Nat
  written : Nat
  deriving DecidableEq, Repr

/-- No documents. -/
def Totals.zero : Totals := ⟨0, 0, 0⟩

section
variable {m : Type → Type} [Monad m]

/-! ### One document -/

/-- Embed a document; also report on it. -/
def embedSource (env : Surroundings m) (o : Options) (source : Path) :
    ExceptT DeliveryError m (Text × SourceReport) := do
  let path := source.shownFrom o.workingDir
  if !(← env.isFile source) then throw (.notAFile path)
  match ← env.readText source with
  | .error e => throw (.read path e)
  | .ok markdown =>
    match ← (embed env o path.spelling markdown).run with
    | .error e => throw (.embed path e)
    | .ok r => pure (r.content, ⟨path, r.content != markdown, r.resolvedCount⟩)

/-- Log a message on the progress of a run. -/
def logProgress (env : Surroundings m) (text : String) : m Unit :=
  env.log ⟨.info, .processing, text⟩

/-- The name of standard output in messages. -/
def stdoutName : Path := Path.ofString "<stdout>"

/-- Replace the content of a file. -/
def writeResult (host : Host m) (path shown : Path) (content : Text) :
    ExceptT DeliveryError m Unit := do
  logProgress (m := m) host.toSurroundings s!"Writing {shown.toString} with embedded changes."
  match ← host.write path (Text.utf8 content) with
  | .error e => throw (.write shown e)
  | .ok _ => pure ()

/-- Dispose of a result; whether a file was written. -/
def deliver (host : Host m) (o : Options) (source : Path) (content : Text) (r : SourceReport) :
    ExceptT DeliveryError m Bool := do
  let say (text : String) : m Unit := logProgress host.toSurroundings text
  match o.mode with
  | .verify =>
    if r.changed then throw (.difference r.path)
    say s!"{r.path.toString} is up to date"
    return false
  | .dryRun =>
    if r.changed then say s!"Would write {r.path.toString} with embedded changes (dry run)"
    else say s!"No changes to write for {r.path.toString}"
    return false
  | .stdout =>
    match ← host.print (Text.utf8 content) with
    | .error e => throw (.write stdoutName e)
    | .ok _ => return false
  | .file _ => return false
  | .write =>
    if r.changed then
      writeResult host source r.path content
      return true
    else
      say s!"No changes to write for {r.path.toString}"
      return false

/-! ### All documents -/

/-- Add a document to the totals. -/
def Totals.add (t : Totals) (r : SourceReport) (wasWritten : Bool) : Totals where
  documents := t.documents + 1
  changed := t.changed + r.changed.toNat
  written := t.written + wasWritten.toNat

/-- Process documents after others with the given totals; also all results, one behind the
    other. -/
def deliverFrom (host : Host m) (o : Options) :
    Totals → List Path → ExceptT DeliveryError m (Totals × Text)
  | t, [] => pure (t, [])
  | t, source :: sources => do
    if t.documents ≠ 0 then logProgress (m := m) host.toSurroundings "---"
    let (content, report) ← embedSource host.toSurroundings o source
    let wasWritten ← deliver host o source content report
    let (total, rest) ← deliverFrom host o (t.add report wasWritten) sources
    return (total, content ++ rest)

/-- Process documents in order. -/
def deliverAll (host : Host m) (o : Options) (sources : List Path) :
    ExceptT DeliveryError m Totals := do
  let (total, results) ← deliverFrom host o .zero sources
  match o.mode with
  | .file target =>
    let target := o.workingDir.join target
    writeResult host target (target.shownFrom o.workingDir) results
    return { total with written := total.written + 1 }
  | _ => return total

end

end FenceSync
