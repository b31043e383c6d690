import FenceSync.Shell.Program
import FenceSync.Surroundings

namespace FenceSync.Shell

/-!
# Launching commands

A command is handed to a shell program, with its errors going where its output goes, and its output
is collected until it ends or runs out of time.

* `startFault?` says why a program cannot be started.
* `launch` runs a command in a directory of a file tree.
-/

/-- How commands are run: the shell with the arguments before the command, and the time allowed in
    milliseconds, zero for any. -/
structure Launcher where
  program : List Text
  timeout : Nat
  deriving DecidableEq, Repr

/-- The usual shell. -/
def usualProgram : List Text := ["sh".toList, "-c".toList]

/-- Run commands by the usual shell unless another one is named. -/
def Launcher.of (program : List Text) (timeout : Nat) : Launcher :=
  ⟨if program = [] then usualProgram else program, timeout⟩

/-- A command with its errors going where its output goes. -/
def mergedScript (command : Text) : Text := "exec 2>&1\n".toList ++ command

/-- The environment of commands. -/
def environment : Table Octets Octets := [
  ("HOME".toList, "/root".toList), ("LANG".toList, "C.UTF-8".toList),
  ("PATH".toList, Located.usualPath)]

/-- The number of the process that runs a command. -/
def mainProcess : Nat := 4242

/-- The state in which a command starts, with its output going to two pipes that are emptied from
    outside; and the numbers of these. -/
def initialKernel (tree : FileTree) (dir : Place) : Kernel × List Nat :=
  let pipe (n : Nat) : Nat × Pipe := (n, Pipe.empty true)
  let process : Process := {
    parent := mainProcess - 1, descriptors := [(0, 1), (1, 2), (2, 3)], dir, mask := 0o022
    ignored := [], caught := [], pending := [], ended := none }
  ({ tree, nameless := [], clock := 0, pipes := [pipe 4, pipe 5]
     processes := [(mainProcess, process)]
     opened := [(1, ⟨.null, 0, false⟩), (2, ⟨.writer 4, 0, false⟩), (3, ⟨.writer 5, 0, false⟩)]
     next := mainProcess + 1 }, [4, 5])

/-- Why a program cannot be started in a directory, if so. -/
def startFault? (tree : FileTree) (dir : Path) (argv : List Text) : Option FileError :=
  if (dir.spelling :: argv).any fun t => t.contains '\x00' then
    some (.other "nul byte found in provided data")
  else match tree.nodeAt? dir with
    | .error e => some e
    | .ok .dir =>
      let name := argv.head?.getD []
      let (front, base) := Located.cutLast (Octets.ofText name)
      if name.isEmpty then some .notFound
      else if '/' ∉ name then if Program.isTool base then none else some .notFound
      else if Located.toolDirs.contains front && Program.isTool base then none
      else match tree.follow? true (dir.join ⟨name⟩) with
        | .error e => some e
        | .ok ⟨_, none⟩ => some .notFound
        | .ok ⟨place, some (.file _)⟩ =>
          if ((tree.mark place).mode.getD Kernel.usualFileMode) &&& 0o111 = 0 then
            some .permissionDenied
          else none
        | .ok _ => some .permissionDenied
    | .ok _ => some .notDirectory

/-- The bound on the steps of all processes together. -/
def stepLimit : Nat := 1000000000000

/-- Run a command in a directory; also the files behind it. -/
def launch (l : Launcher) (tree : FileTree) (command : Text) (dir : Path) :
    Except ShellError CommandOutput × FileTree :=
  let argv := l.program ++ [mergedScript command]
  match startFault? tree dir argv with
  | some e => (.error (.spawn e), tree)
  | none =>
    let place : Place := match tree.follow? true dir with
      | .ok target => target.place
      | .error _ => []
    let (k, sinks) := initialKernel tree place
    let main := (Program.exec environment (argv.map Octets.ofText)).toActivity
    let deadline := if l.timeout = 0 then none else some (1000 * l.timeout)
    let s : Schedule := ⟨k, [(mainProcess, main)], [], Schedule.turnLength⟩
    let (verdict, k) := Schedule.run mainProcess sinks deadline stepLimit s
    match verdict with
    | .finished e =>
      let output := sinks.flatMap fun p => ((k.pipes.get? p).map Pipe.content).getD []
      let code : Int := match e with
        | .code n => n
        | .signal _ => -1
      (.ok ⟨Octets.toBytes output, code, code == 0⟩, k.tree)
    | _ => (.error (.timeout l.timeout), k.tree)

end FenceSync.Shell
