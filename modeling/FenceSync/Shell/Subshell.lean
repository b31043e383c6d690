import FenceSync.Shell.Reader
import FenceSync.Shell.State

namespace FenceSync.Shell

/-!
# Shells within shells

* `Hooks` is what parts of the shell need of the whole.
* `Sh.runText` runs a text line by line.
* `Sh.spawn` runs something in a process of its own, and `Sh.capture` collects its output.
* `Sh.checkTraps` and `Sh.exitTrap` run what was set to be run on signals and at the end.
-/

/-- What parts of the shell need of the whole. -/
structure Hooks where
  /-- Run commands; if `last`, nothing is run behind them, so that a program can take the place of
      the shell. -/
  run : (last : Bool) → List Command → Sh Unit
  /-- What a program does in an environment. -/
  exec : Table Octets Octets → List Octets → Prog Nat
  /-- There is a program with this name that needs no file. -/
  isTool : Octets → Bool

instance : Inhabited Hooks := ⟨⟨fun _ _ => pure (), fun _ _ => pure 0, fun _ => false⟩⟩

namespace Sh

/-! ### Running texts -/

/-- Run the rest of a script, in at most so many lines.  If it is `whole`, nothing is run behind
    it.  After a line that was given up the shell goes on, but a copy of it does not. -/
def runLines (h : Hooks) (whole : Bool) : Nat → Source → Sh Unit
  | 0, _ => pure ()
  | n + 1, src => do
    let s ← get
    let knowsAliases := s.dialect == .posix || s.options.contains "expand_aliases"
    let src := { src with
      aliases := if knowsAliases then s.aliases else []
      extended := s.options.contains "extglob" }
    match src.next with
    | .error e =>
      if s.dialect = .bash then
        complain e.message
        setStatus 2
      else fail 2 e.message
    | .ok (none, _) => pure ()
    | .ok (some cs, rest) =>
      -- only the richer shell lets a program take its place at the end of a script
      let ended := s.dialect = .bash && (rest.rest.all fun c => Octets.isSpace c)
      if (← get).flags.contains 'n' then pure ()
      else
        try h.run (whole && ended) cs
        catch j =>
          match j with
          | .giveUp why =>
            if (← Sys.self) ≠ s.pid || (why ≠ .number && (← flag 'e')) then throw j
          | j => throw j
      runLines h whole n rest

/-- Run a text. -/
def runText (h : Hooks) (whole : Bool) (t : Octets) : Sh Unit := do
  runLines h whole (t.length + 2) (Source.ofOctets (← get).dialect t)

/-! ### Traps -/

/-- Run a text as if it stood at the line that runs. -/
def runHere (h : Hooks) (t : Octets) : Sh Unit := do
  let s ← get
  let line := if s.dialect = .bash then s.line else 1
  runLines h false (t.length + 2) { Source.ofOctets s.dialect t with line }

/-- Run what was set to be run on an event; the status stays. -/
def runOn (h : Hooks) (event : Signal) : Sh Unit := do
  let s ← get
  match s.traps.get? event with
  | some t =>
    runHere h t
    modify fun u => { u with status := s.status, line := s.line }
  | none => pure ()

/-- Run what was set to be run on signals that have come. -/
def checkTraps (h : Hooks) : Sh Unit := do
  let signals ← Prog.act fun pid k => k.takeCaught pid
  for sig in signals do
    match (← get).traps.get? sig with
    | some t =>
      let old := (← get).status
      runText h false t
      setStatus old
    | none => pure ()

/-- Run what was set to be run at the end. -/
def exitTrap (h : Hooks) : Sh Unit := do
  let s ← get
  match s.traps.get? 0 with
  | none => pure ()
  | some t =>
    modify fun s => { s with traps := s.traps.erase 0 }
    try
      runText h false t
      setStatus s.status
    catch _ => pure ()

/-! ### Processes -/

/-- A process that starts from a state. -/
def toProg (h : Hooks) (s : State) (body : Sh Unit) : Prog Nat := do
  let (_, s) ← (ExceptT.run body).run s
  let (_, s) ← (ExceptT.run (exitTrap h)).run s
  return s.status

/-- The state in which a copy of a shell starts. -/
def childState (s : State) : State :=
  { s with jobs := [], lastJob := s.lastJob, traps := s.traps.filter fun t =>
      t.2.isEmpty || (Event.isEvent t.1 && !Event.isHidden s.flags t.1) }

/-- Run something in a copy of the shell, with some descriptors set anew; the number of the
    process. -/
def spawn (h : Hooks) (given : Table Nat Nat) (body : Sh Unit) : Sh Nat := do
  Prog.fork given (toProg h (childState (← get)) body)

/-- The open file behind a descriptor that is known to be open. -/
def openedAt (fd : Nat) : Sh Nat := do return (← Sys.openedAt? fd).getD 0

/-- The path of a file that is read in place of commands, if there is just that. -/
def readAlone? (body : List Command) : Option Word :=
  match body with
  | [.simple _ [] [] [.mk _ none .read w]] => some w
  | _ => none

/-- Output of commands without the line feeds it ends with. -/
def captured (t : Octets) : Octets := Octets.trimFeeds (t.filter (· != '\x00'))

/-- Remember the status of commands whose output was captured; the richer shell takes it as its own
    at once. -/
def noteCapture (status : Nat) : Sh Unit := modify fun s =>
  { s with captureStatus := status, status := if s.dialect = .bash then status else s.status }

/-- The output of commands. -/
def capture (h : Hooks) (body : List Command) : Sh Octets := do
  let (r, w) ← Sys.makePipe
  let forgets := (← isBash) && !(← option "inherit_errexit") && !(← option "posix")
  let pid ← spawn h [(1, ← openedAt w)] do
    if forgets then modify fun s => { s with flags := s.flags.filter (· != 'e') }
    h.run true body
  Sys.close w
  let t ← Sys.readAll r
  Sys.close r
  noteCapture (← Sys.waitFor pid).status
  return captured (t.toOption.getD [])

/-- The descriptor for a file that stands for commands: the highest one that is free. -/
def streamDescriptor : Sh Nat := do
  let used ← Prog.look fun pid k => (k.process pid).descriptors.keys
  return ((List.range 60).map (63 - ·)).find? (fun fd => !used.contains fd) |>.getD 63

/-- The path of a file to read the output of commands from, or to write their input to. -/
def stream (h : Hooks) (toRead : Bool) (body : List Command) : Sh Octets := do
  let (r, w) ← Sys.makePipe
  let (mine, theirs) := if toRead then (r, w) else (w, r)
  discard (spawn h [(if toRead then 1 else 0, ← openedAt theirs)] (h.run true body))
  let fd ← streamDescriptor
  Sys.setDescriptor fd (← openedAt mine)
  Sys.close r
  Sys.close w
  modify fun s => { s with streams := fd :: s.streams }
  return "/dev/fd/".toList ++ Octets.ofNat fd

/-- Close the files that stand for commands, down to some that were there before. -/
def closeStreams (before : List Nat) : Sh Unit := do
  for fd in (← get).streams do
    if !before.contains fd then Sys.close fd
  modify fun s => { s with streams := before }

end Sh

end FenceSync.Shell
