import FenceSync.Surroundings

namespace FenceSync

/-!
# Surroundings in memory

Files and answers to commands held in lists, with a record of what was asked.

* `Memory` is the state; the last entry for a path or a command counts.
* `Memory.surroundings` lets documents be embedded in it.
-/

/-- What stands at a path. -/
inductive StoredFile where
  | content (bytes : Bytes)
  /-- A file that cannot be read, and why. -/
  | unreadable (reason : String)
  deriving DecidableEq, Repr

/-- The answer to a command. -/
abbrev Answer := Except ShellError CommandOutput

/-- Files, answers, and a record of commands and messages. -/
structure Memory where
  files : List (Path × StoredFile)
  answers : List (Text × Answer)
  calls : List (Text × Path)
  log : List LogEntry

namespace Memory

/-- No files, no answers, no record. -/
def empty : Memory := ⟨[], [], [], []⟩

/-- Put a file at a path. -/
def store (w : Memory) (p : Path) (f : StoredFile) : Memory := { w with files := (p, f) :: w.files }

/-- Set the answer to a command. -/
def answer (w : Memory) (command : Text) (a : Answer) : Memory :=
  { w with answers := (command, a) :: w.answers }

/-- Forget the record. -/
def clearRecord (w : Memory) : Memory := { w with calls := [], log := [] }

/-- The file at a path, however the path is spelled. -/
def file? (w : Memory) (p : Path) : Option StoredFile :=
  (w.files.find? fun entry => entry.1.same p).map (·.2)

/-- Read a file. -/
def read (w : Memory) (p : Path) : Except FileError Bytes :=
  match w.file? p with
  | some (.content bytes) => .ok bytes
  | some (.unreadable reason) => .error (.other reason)
  | none => .error (.other s!"{p.toString} does not exist")

/-- What an unknown command prints. -/
def unknownCommand (command : Text) : CommandOutput :=
  ⟨Text.utf8 (command ++ ": not found\n".toList), 127, false⟩

/-- The answer to a command. -/
def answerTo (w : Memory) (command : Text) : Answer :=
  ((w.answers.find? fun entry => entry.1 == command).map (·.2)).getD (.ok (unknownCommand command))

/-- Embedding in memory, recording commands and messages. -/
def surroundings : Surroundings (StateM Memory) where
  isFile p := do return ((← get).file? p).isSome
  read p := do return (← get).read p
  run command dir := do
    modify fun w => { w with calls := w.calls ++ [(command, dir)] }
    return (← get).answerTo command
  log entry := modify fun w => { w with log := w.log ++ [entry] }

end Memory

end FenceSync
