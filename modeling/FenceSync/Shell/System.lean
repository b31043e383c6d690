import FenceSync.Shell.Activity

namespace FenceSync.Shell

/-!
# What processes ask for

* `Sys.read`, `Sys.readAll` and `Sys.write` work on descriptors.
* `Sys.openFile`, `Sys.readFile` and `Sys.writeFile` work on paths.
* `Sys.kindOf?`, `Sys.list` and the like look at the file tree.
* `Sys.waitFor` and `Sys.signal` deal with other processes.
-/

namespace Sys

/-! ### Descriptors -/

/-- Read up to a number of octets; none at the end. -/
def read (fd limit : Nat) : Prog (Except FileError Octets) :=
  Prog.await fun pid k => k.read pid fd limit

/-- Read through the first occurrence of a character, or to the end. -/
def readThrough (fd : Nat) (stop : Char) : Prog (Except FileError Octets) :=
  Prog.await fun pid k => k.readThrough pid fd stop

/-- How much is read at a time. -/
def blockSize : Nat := 65536

/-- The bound on the number of blocks that are read of one file. -/
def blockLimit : Nat := 100000

/-- Read all that is left, given the blocks so far in reverse order. -/
def readBlocks (fd : Nat) : Nat → List Octets → Prog (Except FileError Octets)
  | 0, done => pure (.ok done.reverse.flatten)
  | n + 1, done => do
    match ← read fd blockSize with
    | .error e => pure (.error e)
    | .ok [] => pure (.ok done.reverse.flatten)
    | .ok t => readBlocks fd n (t :: done)

/-- Read all that is left. -/
def readAll (fd : Nat) : Prog (Except FileError Octets) := readBlocks fd blockLimit []

/-- Give back octets that were read last, so that others can read them from a file. -/
def giveBack (fd n : Nat) : Prog Unit := Prog.change fun pid k => k.rewind pid fd n

/-- Write octets; whether that succeeded. -/
def write (fd : Nat) (t : Octets) : Prog Bool := do
  match ← Prog.await fun pid k => k.write pid fd t with
  | .ok () => pure true
  | .error _ => pure false

/-- Write to the standard output. -/
def print (t : Octets) : Prog Bool := write 1 t

/-- Write to the standard output; the status of a program that does just that. -/
def printStatus (t : Octets) : Prog Nat := do return if ← print t then 0 else 1

/-- Write a line to the standard error output, after the name of the program. -/
def complain (name : Octets) (text : String) : Prog Unit := do
  discard (write 2 (name ++ ": ".toList ++ text.toList ++ ['\n']))

/-- Complain about a path. -/
def complainOf (name path : Octets) (text : String) : Prog Unit := do
  discard (write 2 (name ++ ": ".toList ++ path ++ ": ".toList ++ text.toList ++ ['\n']))

/-- Close a descriptor. -/
def close (fd : Nat) : Prog Unit := Prog.change fun pid k => k.close pid fd

/-- Let a descriptor lead to an open file. -/
def setDescriptor (fd file : Nat) : Prog Unit :=
  Prog.change fun pid k => k.setDescriptor pid fd file

/-- The open file behind a descriptor. -/
def openedAt? (fd : Nat) : Prog (Option Nat) := Prog.look fun pid k => k.openedAt? pid fd

/-- A new pipe under descriptors kept aside: one to read from and one to write to. -/
def makePipe : Prog (Nat × Nat) := Prog.act fun pid k =>
  let ((r, w), k) := k.makePipe false
  let rfd := k.freeDescriptor pid Kernel.asideStart
  let wfd := k.freeDescriptor pid (rfd + 1)
  ((rfd, wfd), k.addDescriptors pid [(rfd, r), (wfd, w)])

/-! ### Files -/

/-- Open a path under the lowest free descriptor from `start` on. -/
def openFrom (start : Nat) (path : Octets) (how : OpenMode) : Prog (Except FileError Nat) :=
  Prog.act fun pid k =>
    match k.openPath pid path how with
    | (.error e, k) => (.error e, k)
    | (.ok n, k) =>
      let fd := k.freeDescriptor pid start
      (.ok fd, k.setDescriptor pid fd n)

/-- Open a path under a free descriptor. -/
def openFile (path : Octets) (how : OpenMode) : Prog (Except FileError Nat) := openFrom 3 path how

/-- The content of the file at a path. -/
def readFile (path : Octets) : Prog (Except FileError Octets) := do
  match ← openFile path .read with
  | .error e => pure (.error e)
  | .ok fd => do
    let r ← readAll fd
    close fd
    pure r

/-- Write a file at a path. -/
def writeFile (path : Octets) (how : OpenMode) (t : Octets) : Prog (Except FileError Unit) := do
  match ← openFile path how with
  | .error e => pure (.error e)
  | .ok fd => do
    let ok ← write fd t
    close fd
    pure (if ok then .ok () else .error .noSpace)

/-- What a path leads to; with `last`, a link at its end is followed. -/
def find? (last : Bool) (path : Octets) : Prog (Except FileError FileTree.Target) :=
  Prog.look fun pid k => k.find? pid last path

/-- The node at a path. -/
def node? (last : Bool) (path : Octets) : Prog (Option (Place × Node)) := do
  match ← find? last path with
  | .ok ⟨place, some n⟩ => pure (some (place, n))
  | _ => pure none

/-- A directory stands at a path. -/
def isDir (path : Octets) : Prog Bool := do
  match ← node? true path with
  | some (_, .dir) => pure true
  | _ => pure false

/-- Something stands at a path. -/
def existsAt (path : Octets) : Prog Bool := do return (← node? true path).isSome

/-- The file tree. -/
def tree : Prog FileTree := Prog.look fun _ k => k.tree

/-- Change the file tree. -/
def changeTree (f : FileTree → FileTree) : Prog Unit :=
  Prog.change fun _ k => { k with tree := f k.tree }

/-- Put a new node at a place. -/
def create (place : Place) (n : Node) (mode : Nat) : Prog Unit :=
  Prog.change fun pid k => k.create pid place n mode

/-- The names in a directory, in order. -/
def names (place : Place) : Prog (List Octets) :=
  Prog.look fun _ k => (k.tree.names place).map Octets.ofText

/-- The permissions of the node at a place. -/
def modeOf (place : Place) (n : Node) : Prog Nat :=
  Prog.look fun _ k => ((k.tree.mark place).mode).getD <| match n with
    | .file _ => Kernel.usualFileMode
    | .dir => Kernel.usualDirMode
    | .link _ => 0o777
    | _ => 0o666

/-- Set the permissions of the node at a place. -/
def setMode (place : Place) (mode : Nat) : Prog Unit :=
  changeTree fun t => t.setMark place { t.mark place with mode := some mode }

/-- Set the time of the last change of the node at a place; now if none is given. -/
def setTime (place : Place) (time : Option Int) : Prog Unit :=
  changeTree fun t => match time with
    | some time => t.setMark place { t.mark place with time }
    | none => t.touch place

/-- The time of the last change of the node at a place. -/
def timeOf (place : Place) : Prog Int := do return ((← tree).mark place).time

/-- Remove the node at a place, and all below it. -/
def remove (place : Place) : Prog Unit := Prog.change fun _ k => k.remove place

/-- Give the node at a place another one, where nothing is kept. -/
def rename (old new : Place) : Prog Unit := Prog.change fun _ k => k.rename old new

/-- The permissions that new files do not get. -/
def mask : Prog Nat := Prog.look fun pid k => (k.process pid).mask

/-- A path from the end of one and a name. -/
def under (dir name : Octets) : Octets :=
  if dir.getLast? = some '/' then dir ++ name else dir ++ '/' :: name

/-- The working directory. -/
def dir : Prog Place := Prog.look fun pid k => (k.process pid).dir

/-- The text of the path of a place. -/
def placeText (place : Place) : Octets := Octets.ofText (FileTree.pathOf place).spelling

/-! ### Processes -/

/-- The number of the process. -/
def self : Prog Nat := Prog.look fun pid _ => pid

/-- Wait until a process has ended, and forget it. -/
def waitFor (pid : Nat) : Prog Ending := Prog.await fun _ k => k.reap? pid

/-- Send a signal; whether there is such a process. -/
def signal (pid : Nat) (s : Signal) : Prog Bool :=
  Prog.act fun _ k =>
    match k.processes.get? pid with
    | none => (false, k)
    | some _ => (true, if s = 0 then k else k.post pid s)

/-- Microseconds since the start. -/
def clock : Prog Nat := Prog.look fun _ k => k.clock

end Sys

end FenceSync.Shell
