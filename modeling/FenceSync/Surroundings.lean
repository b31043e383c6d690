import FenceSync.Log
import FenceSync.Path
import FenceSync.Text.Utf8

namespace FenceSync

/-!
# Surroundings

What embedding needs from outside: files to read, commands to run, and a log.  All of it happens in
a monad `m`: in `Id` files and commands are plain functions, in a state monad they may change, and
in `IO` they are the real ones.

* `Surroundings` is what resolving a block needs.
* `Host` adds what a run over documents needs: writing files, printing, and finding files.
* `FileError` and `ShellError` are the ways in which files and commands fail.
-/

/-! ### Failures -/

/-- Why a file could not be read or written. -/
inductive FileError where
  | notFound
  | notDirectory
  | isDirectory
  | tooManyLinks
  | permissionDenied
  | nameTooLong
  | nulInName
  | exists
  | notEmpty
  | noSpace
  /-- The file is not UTF-8 where it has to be. -/
  | notUtf8
  /-- Another cause, in words. -/
  | other (text : String)
  deriving DecidableEq, Repr

/-- A failure in words. -/
def FileError.message : FileError → String
  | .notFound => "No such file or directory (os error 2)"
  | .notDirectory => "Not a directory (os error 20)"
  | .isDirectory => "Is a directory (os error 21)"
  | .tooManyLinks => "Too many levels of symbolic links (os error 40)"
  | .permissionDenied => "Permission denied (os error 13)"
  | .nameTooLong => "File name too long (os error 36)"
  | .nulInName => "file name contained an unexpected NUL byte"
  | .exists => "File exists (os error 17)"
  | .notEmpty => "Directory not empty (os error 39)"
  | .noSpace => "No space left on device (os error 28)"
  | .notUtf8 => "stream did not contain valid UTF-8"
  | .other text => text

/-- Why a command has no result. -/
inductive ShellError where
  /-- The shell could not be started. -/
  | spawn (cause : FileError)
  /-- The command ran for too long. -/
  | timeout (ms : Nat)
  /-- The output could not be read. -/
  | io (text : String)
  deriving DecidableEq, Repr

/-- A failure of a command in words. -/
def ShellError.message (command : Text) : ShellError → String
  | .spawn cause => s!"failed to start `{String.ofList command}`: {cause.message}"
  | .timeout ms => s!"`{String.ofList command}` timed out after {ms}ms"
  | .io text => s!"I/O error while running `{String.ofList command}`: {text}"

/-- The result of a command. -/
structure CommandOutput where
  /-- What the command wrote, errors included. -/
  output : Bytes
  /-- The exit code, or -1 if a signal ended the command. -/
  exitCode : Int
  success : Bool
  deriving DecidableEq, Repr

/-! ### Interfaces -/

/-- What resolving a block needs. -/
structure Surroundings (m : Type → Type) where
  /-- Whether a regular file stands at a path. -/
  isFile : Path → m Bool
  read : Path → m (Except FileError Bytes)
  /-- Run a command in a directory. -/
  run : Text → Path → m (Except ShellError CommandOutput)
  log : LogEntry → m Unit

/-- Read a file that has to be a text. -/
def Surroundings.readText {m : Type → Type} [Monad m] (env : Surroundings m) (p : Path) :
    m (Except FileError Text) := do
  match ← env.read p with
  | .error e => pure (.error e)
  | .ok bytes =>
    match Bytes.text? bytes with
    | none => pure (.error .notUtf8)
    | some t => pure (.ok t)

/-- What a run over documents needs. -/
structure Host (m : Type → Type) extends Surroundings m where
  /-- Replace the content of a file. -/
  write : Path → Bytes → m (Except FileError Unit)
  /-- Print to standard output. -/
  print : Bytes → m (Except FileError Unit)
  isDir : Path → m Bool
  /-- All regular files below a directory, links not followed and `.git` left out; the path that
      could not be read otherwise. -/
  walk : Path → m (Except (Path × FileError) (List Path))

end FenceSync
