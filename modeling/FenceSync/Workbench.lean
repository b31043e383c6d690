import FenceSync.CommandLine.Run
import FenceSync.FileTree

namespace FenceSync

/-!
# A workbench

Everything that a run touches, held in memory: a file tree, the log and what is printed.

* `Workbench.host` lets documents be processed on it, with commands run on its files.  What is
  written to the special files for output and errors is printed.
* `Workbench.console` lets the whole program run on it.
-/

/-- Files, the log, and what was printed. -/
structure Workbench where
  tree : FileTree
  log : List LogEntry
  printed : Bytes
  complaints : Text
  /-- Nothing can be printed. -/
  closed : Bool
  deriving DecidableEq, Repr

namespace Workbench

/-- A workbench with some files, on which nothing has happened yet. -/
def ofTree (tree : FileTree) : Workbench := ⟨tree, [], [], [], false⟩

/-- The workbench before anything was said. -/
def clearRecord (s : Workbench) : Workbench := { ofTree s.tree with closed := s.closed }

/-- Print something; what is closed still takes nothing at all. -/
def print (s : Workbench) (bytes : Bytes) : Except FileError Unit × Workbench :=
  if s.closed ∧ bytes ≠ [] then (.error (.other "closed"), s)
  else (.ok (), { s with printed := s.printed ++ bytes })

/-- Replace the content of a file. -/
def write (s : Workbench) (p : Path) (content : Bytes) : Except FileError Unit × Workbench :=
  match s.tree.nodeAt? p with
  | .ok (.descriptor 1) => (.ok (), { s with printed := s.printed ++ content })
  | .ok (.descriptor 2) =>
    (.ok (), { s with complaints := s.complaints ++ Bytes.lossyText content })
  | _ =>
    match s.tree.write p content with
    | .error e => (.error e, s)
    | .ok tree => (.ok (), { s with tree })

/-- Run a command. -/
def run (l : Shell.Launcher) (s : Workbench) (command : Text) (dir : Path) :
    Except ShellError CommandOutput × Workbench :=
  let (r, tree) := Shell.launch l s.tree command dir
  (r, { s with tree })

/-- The files below a directory. -/
def walk (s : Workbench) (dir : Path) : Except (Path × FileError) (List Path) :=
  match s.tree.filesBelow dir with
  | .error e => .error (dir, e)
  | .ok files => .ok files

/-- Processing documents on a workbench. -/
def host (l : Shell.Launcher) : Host (StateM Workbench) where
  isFile p := do return (← get).tree.isFile p
  read p := do return (← get).tree.read p
  run command dir := modifyGet fun s => s.run l command dir
  log entry := modify fun s => { s with log := s.log ++ [entry] }
  write p content := modifyGet fun s => s.write p content
  print bytes := modifyGet fun s => s.print bytes
  isDir p := do return (← get).tree.isDir p
  walk dir := do return (← get).walk dir

/-- The whole program on a workbench, from a directory and with an environment.  No time passes. -/
def console (dir : Path) (env : String → Option Text) : CommandLine.Console (StateM Workbench) where
  host := host
  complain t := modify fun s => { s with complaints := s.complaints ++ t }
  currentDir := do
    match (← get).tree.follow? true dir with
    | .error e => return .error e
    | .ok target => return .ok (FileTree.pathOf target.place)
  elapsed := pure 0
  env := env

end Workbench

end FenceSync
