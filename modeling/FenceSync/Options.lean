import FenceSync.Path

namespace FenceSync

/-!
# Options

* `OutputMode` says what becomes of an embedded document.
* `Options.baseDirs` are the directories in which files are looked up, in order.
* `Options.validate` refuses to lose directives.
-/

/-- What happens to the result for a document. -/
inductive OutputMode where
  /-- Write the document back if it changed. -/
  | write
  /-- Write nothing. -/
  | dryRun
  /-- Fail if the document would change. -/
  | verify
  /-- Print the result. -/
  | stdout
  /-- Write the results of all documents to another file. -/
  | file (target : Path)
  deriving DecidableEq, Repr

/-- How documents are embedded. -/
structure Options where
  /-- Commands run here, and files are looked up here last. -/
  workingDir : Path
  /-- Files are looked up here first. -/
  base : Option Path
  mode : OutputMode
  /-- Leave the directive comment out of embedded blocks. -/
  stripComment : Bool
  /-- Fail on directives that cannot be read, instead of leaving their blocks as they are. -/
  strict : Bool
  deriving DecidableEq, Repr

/-- Why options are refused. -/
inductive OptionsFault where
  /-- Comments are to be left out of documents that are written back. -/
  | stripWithoutStdout
  deriving DecidableEq, Repr

/-- A fault in words. -/
def OptionsFault.message : OptionsFault → String
  | .stripWithoutStdout =>
    "invalid options: --strip-embed-comment requires --stdout; redirect the result to your " ++
      "destination file, otherwise the source would be overwritten and its directives lost"

namespace Options

/-- The usual options in a directory. -/
def inDir (dir : Path) : Options := ⟨dir, none, .write, false, false⟩

/-- The directories in which files are looked up: the base, seen from the working directory, and
    the working directory itself unless that is the base. -/
def baseDirs (o : Options) : List Path :=
  match o.base with
  | none => [o.workingDir]
  | some base =>
    let dir := o.workingDir.join base
    if dir.same o.workingDir then [dir] else [dir, o.workingDir]

/-- Comments may only be left out of printed results. -/
def validate (o : Options) : Except OptionsFault Unit :=
  if o.stripComment ∧ o.mode ≠ .stdout then .error .stripWithoutStdout else .ok ()

end Options

end FenceSync
