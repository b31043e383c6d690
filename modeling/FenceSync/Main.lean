import FenceSync.CommandLine.Run
import FenceSync.FileTree

namespace FenceSync.Disk

/-!
# The program

Files are those of the system.  Commands run on a copy of the files below their directory, and what
they change is written back.

* `host` and `console` connect runs to files, output and environment.
* `main` runs the program.
-/

/-! ### Files -/

/-- Why an operation failed. -/
def faultOf : IO.Error → FileError
  | .noFileOrDirectory .. => .notFound
  | .permissionDenied .. => .permissionDenied
  | .inappropriateType _ code _ => if code = 20 then .notDirectory else .isDirectory
  | e => .other (toString e)

/-- Run an operation, with its failure as a value. -/
def attempt {α : Type} (act : IO α) : IO (Except FileError α) := do
  try return .ok (← act) catch e => return .error (faultOf e)

/-- The kind of file at a path; nothing if there is none. -/
def kindOf (p : Path) : IO (Option IO.FS.FileType) := do
  let here ← IO.currentDir
  try return some (← (here / p.toString).metadata).type catch _ => return none

/-- The content of a file. -/
def load (p : Path) : IO Bytes := do return (← IO.FS.readBinFile p.toString).toList

/-- Replace the content of a file. -/
def store (p : Path) (content : Bytes) : IO Unit := IO.FS.writeBinFile p.toString ⟨content.toArray⟩

/-- The names in a directory, and whether they stand for directories; links and other things that
    are not regular files have no answer. -/
def entries (p : Path) : IO (List (Text × Option Bool)) := do
  let here ← IO.currentDir
  let found ← (here / p.toString).readDir
  found.toList.mapM fun e => do
    let isDir : Option Bool := match (← e.path.symlinkMetadata).type with
      | .dir => some true
      | .file => some false
      | _ => none
    return (e.fileName.toList, isDir)

/-- The directories and regular files below a directory, at most so many levels down. -/
def descend (hidden : Text → Bool) : Nat → Path → IO (List (Path × Bool))
  | 0, _ => return []
  | depth + 1, dir => do
    let found := (← entries dir).filter fun e => !hidden e.1
    let nested ← found.mapM fun (name, isDir) => do
      let p := dir.join ⟨name⟩
      match isDir with
      | none => return []
      | some false => return [(p, false)]
      | some true => return (p, true) :: (← descend hidden depth p)
    return nested.flatten

/-- How many levels of directories are read. -/
def depthLimit : Nat := 64

/-- The regular files below a directory, or a file itself. -/
def walk (dir : Path) : IO (Except (Path × FileError) (List Path)) := do
  match ← kindOf dir with
  | none => return .error (dir, .notFound)
  | some .dir =>
    match ← attempt (descend (· == FileTree.hiddenName) depthLimit dir) with
    | .error e => return .error (dir, e)
    | .ok found => return .ok ((found.filter fun e => !e.2).map (·.1))
  | some _ => return .ok [dir]

/-! ### Commands -/

/-- A copy of a directory. -/
def copyOf (dir : Path) : IO FileTree := do
  let mut t := FileTree.bare.makeDirs (FileTree.placeOf dir)
  for (p, isDir) in ← descend (fun _ => false) depthLimit dir do
    let n ← if isDir then pure Node.dir else do pure (Node.file (← load p))
    t := t.put (FileTree.placeOf p) n
  return t

/-- Carry over to a directory what has become of its copy. -/
def writeBack (dir : Path) (old new : FileTree) : IO Unit := do
  let place := FileTree.placeOf dir
  for (q, n) in new.nodes.reverse do
    if place.isPrefixOf q && old.node? q != some n then
      match n with
      | .dir => IO.FS.createDirAll (FileTree.pathOf q).toString
      | .file content => store (FileTree.pathOf q) content
      | _ => pure ()
  for (q, n) in old.nodes do
    if place.isPrefixOf q && (new.node? q).isNone then
      match n with
      | .dir => IO.FS.removeDirAll (FileTree.pathOf q).toString
      | _ => IO.FS.removeFile (FileTree.pathOf q).toString

/-- Run a command. -/
def run (l : Shell.Launcher) (command : Text) (dir : Path) :
    IO (Except ShellError CommandOutput) := do
  match ← attempt (copyOf dir) with
  | .error e => return .error (.spawn e)
  | .ok tree =>
    let (result, changed) := Shell.launch l tree command dir
    match ← attempt (writeBack dir tree changed) with
    | .error e => return .error (.io e.message)
    | .ok _ => return result

/-! ### The program -/

/-- Processing documents on disk. -/
def host (l : Shell.Launcher) : Host IO where
  isFile p := do return (← kindOf p) == some .file
  read p := attempt (load p)
  run command dir := run l command dir
  log _ := pure ()
  write p content := attempt (store p content)
  print bytes := attempt do (← IO.getStdout).write ⟨bytes.toArray⟩
  isDir p := do return (← kindOf p) == some .dir
  walk := walk

/-- The variables that the program looks at. -/
def envNames : List String :=
  ["RUST_LOG", "RUST_LOG_STYLE", "NO_COLOR", "CLICOLOR_FORCE"] ++
    CommandLine.longNames.filterMap fun e => e.2.envName?

/-- Runs on disk, with the environment as it is. -/
def console : IO (CommandLine.Console IO) := do
  let start ← IO.monoNanosNow
  let known ← envNames.filterMapM fun x => do return (← IO.getEnv x).map fun v => (x, v.toList)
  return {
    host
    complain := fun t => do (← IO.getStderr).putStr (String.ofList t)
    currentDir := attempt do return Path.ofString (← IO.currentDir).toString
    elapsed := do return (← IO.monoNanosNow) - start
    env := fun x => known.lookup x }

end FenceSync.Disk

open FenceSync in
/-- Embed documents as the arguments say. -/
def main (args : List String) : IO UInt32 := do
  return UInt32.ofNat (← CommandLine.run (← Disk.console) (args.map String.toList))
