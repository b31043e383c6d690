import FenceSync.Shell.Kernel

namespace FenceSync.Shell

/-!
# Activities

What a process does: steps on the common state, waiting until something is the case, and starting
other processes.  A process is at every moment the activity that is left of it, so that processes
can take turns.

* `Activity` is what is left of a process.
* `Prog` is the monad in which processes are written; `Prog.act`, `Prog.await`, `Prog.fork` and
  `Prog.exit` are its steps.
* `Schedule.run` lets processes take turns until the first one has ended and nobody writes to its
  output any more.
-/

/-- What is left of a process.  Functions are given the number of the process. -/
inductive Activity where
  | ended (e : Ending)
  /-- A step. -/
  | act (f : Nat → Kernel → Activity × Kernel)
  /-- Wait until there is a result; look again when the clock says `alarm`. -/
  | await (alarm : Option Nat) (f : Nat → Kernel → Option (Activity × Kernel))
  /-- Start a process with some descriptors set anew; both are given the number of the new one. -/
  | fork (given : Table Nat Nat) (child next : Nat → Activity)

instance : Inhabited Activity := ⟨.ended (.code 0)⟩

/-- A part of a process, which ends with a value and goes on with what follows. -/
def Prog (α : Type) : Type := (α → Activity) → Activity

namespace Prog

instance : Monad Prog where
  pure a := fun next => next a
  bind p f := fun next => p fun a => f a next

instance {α : Type} : Inhabited (Prog α) := ⟨fun _ => default⟩

/-- A step on the common state. -/
def act {α : Type} (f : Nat → Kernel → α × Kernel) : Prog α := fun next =>
  .act fun pid k =>
    let (a, k) := f pid k
    (next a, k)

/-- Look at the common state. -/
def look {α : Type} (f : Nat → Kernel → α) : Prog α := act fun pid k => (f pid k, k)

/-- Change the common state. -/
def change (f : Nat → Kernel → Kernel) : Prog Unit := act fun pid k => ((), f pid k)

/-- Wait until there is a result. -/
def await {α : Type} (f : Nat → Kernel → Option (α × Kernel)) : Prog α := fun next =>
  .await none fun pid k => (f pid k).map fun (a, k) => (next a, k)

/-- Wait until there is a result, or until the clock says `alarm`. -/
def awaitUntil {α : Type} (alarm : Nat) (late : α) (f : Nat → Kernel → Option (α × Kernel)) :
    Prog α := fun next =>
  .await (some alarm) fun pid k =>
    if alarm ≤ k.clock then some (next late, k)
    else (f pid k).map fun (a, k) => (next a, k)

/-- End the process. -/
def exit {α : Type} (e : Ending) : Prog α := fun _ => .ended e

/-- What a program does as a process of its own: its status is what it ends with. -/
def toActivity (p : Prog Nat) : Activity := p fun n => .ended (.code (n % 256))

/-- Start a process with some descriptors set anew; its number. -/
def fork (given : Table Nat Nat) (child : Prog Nat) : Prog Nat := fun next =>
  .fork given (fun _ => child.toActivity) next

/-- Do nothing; others may get a turn. -/
def pause : Prog Unit := change fun _ k => k

/-- Wait for some microseconds. -/
def sleep (time : Nat) : Prog Unit := fun next =>
  .act fun _ k =>
    let alarm := k.clock + time
    (.await (some alarm) fun _ k => if alarm ≤ k.clock then some (next (), k) else none, k)

end Prog

/-! ### Taking turns -/

/-- Processes with what is left of them. -/
structure Schedule where
  kernel : Kernel
  /-- Those that can go on, the one whose turn it is first. -/
  ready : List (Nat × Activity)
  /-- Those that wait. -/
  waiting : List (Nat × Activity)
  /-- How many steps the turn still has. -/
  turn : Nat

/-- How a run ended. -/
inductive Verdict where
  /-- The first process ended, and its output is complete. -/
  | finished (e : Ending)
  /-- Time ran out. -/
  | overdue
  /-- Nothing can go on. -/
  | stuck
  deriving DecidableEq, Repr

namespace Schedule

/-- How many steps a turn has. -/
def turnLength : Nat := 2000

/-- How long a step on something that others may have to wait for takes, in microseconds. -/
def transferTime : Nat := 10

/-- Look whether waiting processes can go on; those that can, and those that cannot. -/
def poll : Kernel → List (Nat × Activity) →
    List (Nat × Activity) × List (Nat × Activity) × Kernel
  | k, [] => ([], [], k)
  | k, (pid, a) :: rest =>
    match a with
    | .await _ f =>
      if (k.fatal? pid).isSome then
        let (woken, still, k) := poll k rest
        ((pid, a) :: woken, still, k)
      else match f pid k with
        | some (b, k) =>
          let (woken, still, k) := poll k rest
          ((pid, b) :: woken, still, k)
        | none =>
          let (woken, still, k) := poll k rest
          (woken, (pid, a) :: still, k)
    | a =>
      let (woken, still, k) := poll k rest
      ((pid, a) :: woken, still, k)

/-- The next time at which a waiting process wants to look again. -/
def nextAlarm? (s : Schedule) : Option Nat :=
  (s.waiting.filterMap fun e => match e.2 with
    | .await alarm _ => alarm
    | _ => none).min?

/-- End a process. -/
def finish (s : Schedule) (pid : Nat) (e : Ending) : Schedule :=
  { s with kernel := s.kernel.finish pid e, ready := s.ready.drop 1 }

/-- One step of the process whose turn it is. -/
def step (s : Schedule) (pid : Nat) (a : Activity) (rest : List (Nat × Activity)) : Schedule :=
  match s.kernel.fatal? pid with
  | some sig => s.finish pid (.signal sig)
  | none =>
    let s := { s with turn := s.turn - 1 }
    match a with
    | .ended e => s.finish pid e
    | .act f =>
      let (b, k) := f pid { s.kernel with clock := s.kernel.clock + 1 }
      { s with kernel := k, ready := (pid, b) :: rest }
    | .await _ f =>
      match f pid s.kernel with
      | some (b, k) =>
        { s with kernel := { k with clock := k.clock + transferTime }, ready := (pid, b) :: rest }
      | none => { s with ready := rest, waiting := s.waiting ++ [(pid, a)] }
    | .fork given child next =>
      let (n, k) := s.kernel.fork pid given
      { s with kernel := k, ready := (pid, next n) :: rest ++ [(n, child n)] }

/-- The first process has ended and nobody can write to the given pipes. -/
def isComplete (s : Schedule) (pid : Nat) (sinks : List Nat) : Bool :=
  !s.kernel.runs pid && sinks.all fun p => !s.kernel.someoneHas (.writer p)

/-- Let processes take turns, for at most so many steps. -/
def run (pid : Nat) (sinks : List Nat) (deadline : Option Nat) : Nat → Schedule → Verdict × Kernel
  | 0, s => (.stuck, s.kernel)
  | fuel + 1, s =>
    if s.kernel.runs pid && deadline.any (· < s.kernel.clock) then (.overdue, s.kernel)
    else match s.ready with
      | (p, a) :: rest =>
        if s.turn = 0 then
          let (woken, still, k) := poll s.kernel s.waiting
          run pid sinks deadline fuel
            { s with
              kernel := k, ready := rest ++ woken ++ [(p, a)]
              waiting := still, turn := turnLength }
        else run pid sinks deadline fuel (s.step p a rest)
      | [] =>
        if s.isComplete pid sinks then
          (.finished ((s.kernel.process pid).ended.getD (.code 0)), s.kernel)
        else
          let (woken, still, k) := poll s.kernel s.waiting
          let s := { s with kernel := k, ready := woken, waiting := still, turn := turnLength }
          if !woken.isEmpty then run pid sinks deadline fuel s
          else match s.nextAlarm? with
            | some t =>
              if t ≤ k.clock then (.stuck, k)
              else run pid sinks deadline fuel { s with kernel := { k with clock := t } }
            | none => (.stuck, k)

end Schedule

end FenceSync.Shell
