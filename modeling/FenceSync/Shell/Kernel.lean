import FenceSync.FileTree
import FenceSync.Shell.Signal
import FenceSync.Shell.Table

namespace FenceSync.Shell

/-!
# Processes, files and pipes

What processes share: the file tree, open files, pipes, and a record of each process.  Every
operation is a function on this state, in the name of a process; those that may have to wait have no
result then.

* `Kernel.openPath`, `Kernel.read` and `Kernel.write` work on open files.
* `Kernel.makePipe`, `Kernel.setDescriptor` and `Kernel.close` manage descriptors.
* `Kernel.fork`, `Kernel.finish` and `Kernel.reap` start and end processes.
* `Kernel.post` sends a signal, and `Kernel.fatal?` looks for one that ends a process.
-/

/-! ### Parts -/

/-- A pipe: pieces to be read, those written last in reverse order. -/
structure Pipe where
  front : List Octets
  back : List Octets
  size : Nat
  /-- Someone outside takes everything that is written. -/
  endless : Bool
  deriving Repr, Inhabited

/-- What an open file stands for. -/
inductive Channel where
  | file (place : Place)
  /-- A file that has no name any more, by its number. -/
  | nameless (n : Nat)
  | dir (place : Place)
  | null
  | zeros
  | full
  | noise
  | reader (pipe : Nat)
  | writer (pipe : Nat)
  deriving DecidableEq, Repr, Inhabited

/-- An open file. -/
structure Opened where
  channel : Channel
  offset : Nat
  appending : Bool
  deriving Repr, Inhabited

/-- A process. -/
structure Process where
  parent : Nat
  /-- The number of the open file behind each descriptor. -/
  descriptors : Table Nat Nat
  dir : Place
  /-- The permissions that new files do not get. -/
  mask : Nat
  ignored : List Signal
  caught : List Signal
  pending : List Signal
  ended : Option Ending
  deriving Repr, Inhabited

/-- What processes share. -/
structure Kernel where
  tree : FileTree
  /-- The contents of open files that have no name any more. -/
  nameless : Table Nat Bytes
  /-- Microseconds since the start. -/
  clock : Nat
  opened : Table Nat Opened
  pipes : Table Nat Pipe
  processes : Table Nat Process
  /-- The number of the next process, pipe or open file. -/
  next : Nat
  deriving Repr, Inhabited

/-- How a file is opened. -/
inductive OpenMode where
  | read
  /-- From the start, without what was there. -/
  | write
  /-- Only if there is no regular file. -/
  | create
  | append
  | both
  deriving DecidableEq, Repr

namespace FileFault

/-- No such descriptor. -/
def badDescriptor : FileError := .other "Bad file descriptor (os error 9)"

/-- Nobody reads the pipe. -/
def brokenPipe : FileError := .other "Broken pipe (os error 32)"

end FileFault

/-! ### Pipes -/

namespace Pipe

/-- How much a pipe holds before writers have to wait. -/
def capacity : Nat := 65536

/-- An empty pipe. -/
def empty (endless : Bool) : Pipe := ⟨[], [], 0, endless⟩

/-- Append a piece. -/
def push (p : Pipe) (t : Octets) : Pipe :=
  if t.isEmpty then p else { p with back := t :: p.back, size := p.size + t.length }

/-- The pieces in order. -/
def pieces (p : Pipe) : List Octets := p.front ++ p.back.reverse

/-- Take pieces up to a number of octets. -/
def takeFrom : Nat → List Octets → Octets × List Octets
  | _, [] => ([], [])
  | limit, t :: ts =>
    let n := t.length
    if n < limit then
      let (u, rest) := takeFrom (limit - n) ts
      (t ++ u, rest)
    else if n = limit then (t, ts)
    else (t.take limit, t.drop limit :: ts)

/-- Take up to a number of octets. -/
def take (p : Pipe) (limit : Nat) : Octets × Pipe :=
  let ps := if p.front.isEmpty then p.back.reverse else p.front
  let back := if p.front.isEmpty then [] else p.back
  let (t, rest) := takeFrom limit ps
  (t, { p with front := rest, back, size := p.size - t.length })

/-- Take up to the first occurrence of a character, which is included, if there is one. -/
def takeThrough (p : Pipe) (stop : Char) : Option (Octets × Pipe) :=
  let t := p.pieces.flatten
  let line := t.takeWhile (· != stop)
  if line.length < t.length then
    let n := line.length + 1
    some (t.take n, { p with front := [t.drop n], back := [], size := p.size - n })
  else none

/-- Everything in the pipe. -/
def content (p : Pipe) : Octets := p.pieces.flatten

end Pipe

namespace Kernel

/-! ### Processes and descriptors -/

/-- The record of a process. -/
def process (k : Kernel) (pid : Nat) : Process := (k.processes.get? pid).getD default

/-- Change the record of a process. -/
def updateProcess (k : Kernel) (pid : Nat) (f : Process → Process) : Kernel :=
  { k with processes := k.processes.modify pid f }

/-- The number of the open file behind a descriptor. -/
def openedAt? (k : Kernel) (pid fd : Nat) : Option Nat := (k.process pid).descriptors.get? fd

/-- The open file behind a descriptor. -/
def file? (k : Kernel) (pid fd : Nat) : Option Opened :=
  (k.openedAt? pid fd).bind k.opened.get?

/-- Forget open files that no descriptor leads to. -/
def sweep (k : Kernel) : Kernel :=
  let used := k.processes.flatMap fun p => p.2.descriptors.map (·.2)
  { k with opened := k.opened.filter fun e => used.contains e.1 }

/-- Let a descriptor lead to an open file. -/
def setDescriptor (k : Kernel) (pid fd file : Nat) : Kernel :=
  (k.updateProcess pid fun p => { p with descriptors := p.descriptors.set fd file }).sweep

/-- Let further descriptors lead to open files. -/
def addDescriptors (k : Kernel) (pid : Nat) (ds : Table Nat Nat) : Kernel :=
  k.updateProcess pid fun p =>
    { p with descriptors := ds.foldl (fun all d => all.set d.1 d.2) p.descriptors }

/-- Close a descriptor. -/
def close (k : Kernel) (pid fd : Nat) : Kernel :=
  (k.updateProcess pid fun p => { p with descriptors := p.descriptors.erase fd }).sweep

/-- Descriptors from here on are kept aside: other processes do not get them. -/
def asideStart : Nat := 1000

/-- A descriptor that is not in use, from a given one on. -/
def freeDescriptor (k : Kernel) (pid start : Nat) : Nat :=
  let used := (k.process pid).descriptors.keys
  ((List.range (used.length + 1)).map (· + start)).find? (fun fd => !used.contains fd) |>.getD start

/-- Some process has an open file of a kind. -/
def someoneHas (k : Kernel) (c : Channel) : Bool :=
  k.opened.any fun e => e.2.channel == c &&
    k.processes.any fun p => p.2.descriptors.any fun d => d.2 == e.1

/-! ### Opening -/

/-- The path that a process means. -/
def pathFor (k : Kernel) (pid : Nat) (t : Octets) : Path :=
  if t.isEmpty then ⟨[]⟩ else (FileTree.pathOf (k.process pid).dir).join ⟨Octets.toText t⟩

/-- What a path leads to; with `last`, a link at its end is followed. -/
def find? (k : Kernel) (pid : Nat) (last : Bool) (t : Octets) : Except FileError FileTree.Target :=
  k.tree.follow? last (k.pathFor pid t)

/-- A new open file. -/
def addOpened (k : Kernel) (o : Opened) : Nat × Kernel :=
  (k.next, { k with opened := (k.next, o) :: k.opened, next := k.next + 1 })

/-- The descriptor that a path names by its number. -/
def numbered? (t : Octets) : Option Nat :=
  ((Text.after? "/dev/fd/".toList t).or (Text.after? "/proc/self/fd/".toList t)).bind Octets.nat?

/-- Set the content of a file. -/
def setContent (k : Kernel) (place : Place) (content : Bytes) : Kernel :=
  { k with tree := k.tree.put place (.file content) }

/-- The content of an open file, if it is one. -/
def content? (k : Kernel) (c : Channel) : Option Bytes :=
  match c with
  | .file place => match k.tree.node? place with
    | some (.file content) => some content
    | _ => none
  | .nameless n => k.nameless.get? n
  | _ => none

/-- Set the content of an open file, if it is one. -/
def replaceContent (k : Kernel) (c : Channel) (content : Bytes) : Kernel :=
  match c with
  | .file place => k.setContent place content
  | .nameless n => { k with nameless := k.nameless.set n content }
  | _ => k

/-- The usual permissions of a new file. -/
def usualFileMode : Nat := 0o644

/-- The usual permissions of a new directory. -/
def usualDirMode : Nat := 0o755

/-- Permissions without those of a mask: bits that are in the mask are cleared. -/
def masked (mode mask : Nat) : Nat := mode - (mode &&& mask)

/-- Put a new node at a place, with the permissions that a process gives. -/
def create (k : Kernel) (pid : Nat) (place : Place) (n : Node) (mode : Nat) : Kernel :=
  let tree := (k.tree.put place n).touch place.dropLast
  let mode := masked mode (k.process pid).mask
  let usual := match n with
    | .dir => usualDirMode
    | _ => usualFileMode
  if mode = usual then { k with tree }
  else { k with tree := tree.setMark place { tree.mark place with mode := some mode } }

/-- Open again what a descriptor leads to. -/
def reopen (k : Kernel) (pid fd : Nat) (how : OpenMode) : Except FileError Nat × Kernel :=
  match k.openedAt? pid fd, k.file? pid fd with
  | some n, some o =>
    match o.channel with
    | .file _ | .nameless _ =>
      let k := if how = .write ∨ how = .create then k.replaceContent o.channel [] else k
      let (m, k) := k.addOpened ⟨o.channel, 0, how == .append⟩
      (.ok m, k)
    | _ => (.ok n, k)
  | _, _ => (.error .notFound, k)

/-- Open a path; the number of the open file. -/
def openPath (k : Kernel) (pid : Nat) (t : Octets) (how : OpenMode) :
    Except FileError Nat × Kernel :=
  match numbered? t with
  | some fd => k.reopen pid fd how
  | none =>
    let fresh (k : Kernel) (c : Channel) : Except FileError Nat × Kernel :=
      let (n, k) := k.addOpened ⟨c, 0, how == .append⟩
      (.ok n, k)
    match k.find? pid true t with
    | .error e => (.error e, k)
    | .ok ⟨place, node⟩ =>
      match node with
      | none =>
        if how = .read then (.error .notFound, k)
        else if t.getLast? = some '/' then (.error .isDirectory, k)
        else fresh (k.create pid place (.file []) 0o666) (.file place)
      | some .dir => if how = .read then fresh k (.dir place) else (.error .isDirectory, k)
      | some (.file _) =>
        if t.getLast? = some '/' then (.error .notDirectory, k)
        else match how with
          | .create => (.error .exists, k)
          | .write => fresh (k.setContent place []) (.file place)
          | _ => fresh k (.file place)
      | some .null => fresh k .null
      | some .zeros => fresh k .zeros
      | some .full => fresh k .full
      | some .noise => fresh k .noise
      | some (.descriptor fd) => k.reopen pid fd how
      | some (.link _) => (.error .tooManyLinks, k)

/-- Make a pipe; the open files to read from and to write to. -/
def makePipe (k : Kernel) (endless : Bool) : (Nat × Nat) × Kernel :=
  let n := k.next
  let k := { k with next := n + 1, pipes := (n, Pipe.empty endless) :: k.pipes }
  let (r, k) := k.addOpened ⟨.reader n, 0, false⟩
  let (w, k) := k.addOpened ⟨.writer n, 0, false⟩
  ((r, w), k)

/-! ### Reading and writing -/

/-- Move the position of an open file. -/
def advance (k : Kernel) (file n : Nat) : Kernel :=
  { k with opened := k.opened.modify file fun o => { o with offset := o.offset + n } }

/-- Arbitrary octets. -/
def noiseFrom : Nat → Nat → Octets
  | 0, _ => []
  | n + 1, seed =>
    let s := (seed * 6364136223846793005 + 1442695040888963407) % UInt64.size
    Char.ofNat (s / 4294967296 % 256) :: noiseFrom n s

/-- Read up to a number of octets; none at the end. -/
def read (k : Kernel) (pid fd limit : Nat) : Option (Except FileError Octets × Kernel) :=
  match k.openedAt? pid fd, k.file? pid fd with
  | some n, some o =>
    match o.channel with
    | .file _ | .nameless _ =>
      let content := (k.content? o.channel).getD []
      let t := Octets.ofBytes ((content.drop o.offset).take limit)
      some (.ok t, k.advance n t.length)
    | .dir _ => some (.error .isDirectory, k)
    | .null => some (.ok [], k)
    | .zeros | .full => some (.ok (List.replicate limit '\x00'), k)
    | .noise => some (.ok (noiseFrom limit (o.offset + k.clock + n)), k.advance n limit)
    | .writer _ => some (.error FileFault.badDescriptor, k)
    | .reader p =>
      match k.pipes.get? p with
      | none => some (.ok [], k)
      | some pipe =>
        if pipe.size = 0 then
          if k.someoneHas (.writer p) then none else some (.ok [], k)
        else
          let (t, pipe) := pipe.take limit
          some (.ok t, { k with pipes := k.pipes.set p pipe })
  | _, _ => some (.error FileFault.badDescriptor, k)

/-- Read through the first occurrence of a character, or to the end. -/
def readThrough (k : Kernel) (pid fd : Nat) (stop : Char) :
    Option (Except FileError Octets × Kernel) :=
  match k.openedAt? pid fd, k.file? pid fd with
  | some n, some o =>
    match o.channel with
    | .file _ | .nameless _ =>
      let rest := ((k.content? o.channel).getD []).drop o.offset
      let line := rest.takeWhile (· != UInt8.ofNat stop.toNat)
      let t := Octets.ofBytes (rest.take (line.length + 1))
      some (.ok t, k.advance n t.length)
    | .reader p =>
      match k.pipes.get? p with
      | none => some (.ok [], k)
      | some pipe =>
        match pipe.takeThrough stop with
        | some (t, pipe) => some (.ok t, { k with pipes := k.pipes.set p pipe })
        | none =>
          if k.someoneHas (.writer p) && pipe.size < Pipe.capacity then none
          else some (.ok pipe.content, { k with pipes := k.pipes.set p (Pipe.empty pipe.endless) })
    | _ => k.read pid fd 1
  | _, _ => some (.error FileFault.badDescriptor, k)

/-- Move the position of a file back, as far as it has one. -/
def rewind (k : Kernel) (pid fd n : Nat) : Kernel :=
  match k.openedAt? pid fd with
  | some file => { k with opened := k.opened.modify file fun o => match o.channel with
      | .file _ | .nameless _ => { o with offset := o.offset - n }
      | _ => o }
  | none => k

/-- Bytes with others put in at a position. -/
def splice (content : Bytes) (offset : Nat) (bs : Bytes) : Bytes :=
  let n := content.length
  if offset = n then content ++ bs
  else content.take offset ++ List.replicate (offset - n) 0 ++ bs ++
    content.drop (offset + bs.length)

/-- Send a signal to a process. -/
def post (k : Kernel) (pid : Nat) (s : Signal) : Kernel :=
  k.updateProcess pid fun p =>
    if p.ended.isSome || p.ignored.contains s || p.pending.contains s then p
    else { p with pending := p.pending ++ [s] }

/-- Write octets. -/
def write (k : Kernel) (pid fd : Nat) (t : Octets) : Option (Except FileError Unit × Kernel) :=
  match k.openedAt? pid fd, k.file? pid fd with
  | some n, some o =>
    match o.channel with
    | .file _ | .nameless _ =>
      if t.isEmpty then some (.ok (), k)
      else match k.content? o.channel with
        | some content =>
          let bs := Octets.toBytes t
          let offset := if o.appending then content.length else o.offset
          let k := k.replaceContent o.channel (splice content offset bs)
          let moved := { o with offset := offset + bs.length }
          some (.ok (), { k with opened := k.opened.modify n fun _ => moved })
        | none => some (.ok (), k)
    | .dir _ | .reader _ => some (.error FileFault.badDescriptor, k)
    | .full => some (if t.isEmpty then .ok () else .error .noSpace, k)
    | .null | .zeros | .noise => some (.ok (), k)
    | .writer p =>
      match k.pipes.get? p with
      | none => some (.ok (), k)
      | some pipe =>
        if t.isEmpty then some (.ok (), k)
        else if !pipe.endless && !k.someoneHas (.reader p) then
          some (.error FileFault.brokenPipe, k.post pid Signal.pipe)
        else if !pipe.endless && Pipe.capacity ≤ pipe.size then none
        else some (.ok (), { k with pipes := k.pipes.set p (pipe.push t) })
  | _, _ => some (.error FileFault.badDescriptor, k)

/-! ### Names -/

/-- Let open files keep the contents that stand at or below a place. -/
def keepOpened (k : Kernel) (place : Place) : Kernel :=
  let lost := (k.opened.filterMap fun e => match e.2.channel with
    | .file q => if place.isPrefixOf q then some q else none
    | _ => none).eraseDups
  lost.foldl (fun k q =>
    let n := k.next
    let content := (k.content? (.file q)).getD []
    { k with
      next := n + 1, nameless := (n, content) :: k.nameless
      opened := k.opened.map fun e =>
        if e.2.channel == .file q then (e.1, { e.2 with channel := .nameless n }) else e }) k

/-- Remove the node at a place, and all below it. -/
def remove (k : Kernel) (place : Place) : Kernel :=
  let k := k.keepOpened place
  { k with tree := (k.tree.prune place).touch place.dropLast }

/-- Give the node at a place another one, where nothing is kept. -/
def rename (k : Kernel) (old new : Place) : Kernel :=
  if old = new then k
  else
    let k := k.keepOpened new
    let moved (q : Place) : Place := if old.isPrefixOf q then new ++ q.drop old.length else q
    { k with
      tree := ((k.tree.rename old new).touch old.dropLast).touch new.dropLast
      opened := k.opened.map fun e => match e.2.channel with
        | .file q => (e.1, { e.2 with channel := .file (moved q) })
        | _ => e
      processes := k.processes.map fun p => (p.1, { p.2 with dir := moved p.2.dir }) }

/-! ### Starting and ending -/

/-- A copy of a process, with what others get of its descriptors, some of them set anew, and without
    traps. -/
def fork (k : Kernel) (pid : Nat) (given : Table Nat Nat) : Nat × Kernel :=
  let p := k.process pid
  let kept := p.descriptors.filter fun d => d.1 < asideStart
  let child := { p with
    parent := pid, pending := [], caught := []
    descriptors := given.foldl (fun ds d => ds.set d.1 d.2) kept }
  (k.next, { k with next := k.next + 1, processes := k.processes ++ [(k.next, child)] })

/-- A process ends. -/
def finish (k : Kernel) (pid : Nat) (e : Ending) : Kernel :=
  (k.updateProcess pid fun p => { p with descriptors := [], ended := some e }).sweep

/-- How a process ended; it is forgotten then. -/
def reap? (k : Kernel) (pid : Nat) : Option (Ending × Kernel) :=
  match (k.processes.get? pid).map (·.ended) with
  | some (some e) => some (e, { k with processes := k.processes.erase pid })
  | some none => none
  | none => some (.code 127, k)

/-- A process runs. -/
def runs (k : Kernel) (pid : Nat) : Bool :=
  match k.processes.get? pid with
  | some p => p.ended.isNone
  | none => false

/-- A signal that ends a process. -/
def fatal? (k : Kernel) (pid : Nat) : Option Signal :=
  let p := k.process pid
  p.pending.find? fun s =>
    s == Signal.kill || !(p.caught.contains s || p.ignored.contains s ||
      Signal.harmless.contains s)

/-- The signals that a process has caught and not yet looked at. -/
def takeCaught (k : Kernel) (pid : Nat) : List Signal × Kernel :=
  let p := k.process pid
  let (caught, others) := p.pending.partition p.caught.contains
  if caught.isEmpty then ([], k)
  else (caught, k.updateProcess pid fun p => { p with pending := others })

/-- A process has caught a signal that it has not yet looked at. -/
def hasCaught (k : Kernel) (pid : Nat) : Bool :=
  let p := k.process pid
  p.pending.any p.caught.contains

end Kernel

end FenceSync.Shell
