import FenceSync.Shell.Condition
import FenceSync.Shell.Invoke

namespace FenceSync.Shell

/-!
# Running commands

* `Sh.pipeline` runs commands side by side, with pipes between them.
* `Sh.rounds` runs the body of a loop again and again.
* `Sh.command` runs one command, and `Sh.commands` a list of them, given how nested commands are
  run.
* `Sh.run` ties the knot.
-/

namespace Sh

/-! ### Processes side by side -/

/-- Start the commands of a pipeline, given the descriptor that the first one reads from; the
    numbers of the processes. -/
def startStages (h : Hooks) : Option Nat → List Command → Sh (List Nat)
  | _, [] => return []
  | input, [c] => do
    let given ← input.toList.mapM fun r => do return (0, ← openedAt r)
    let pid ← spawn h given (h.run true [c])
    for r in input.toList do
      Sys.close r
    return [pid]
  | input, c :: cs => do
    let (r, w) ← Sys.makePipe
    let given ← input.toList.mapM fun r => do return (0, ← openedAt r)
    let pid ← spawn h (given ++ [(1, ← openedAt w)]) (h.run true [c])
    Sys.close w
    for r in input.toList do
      Sys.close r
    return pid :: (← startStages h (some r) cs)

/-- Run commands side by side, with pipes between them. -/
def pipeline (h : Hooks) (cs : List Command) : Sh Unit := do
  let pids ← startStages h none cs
  let mut statuses : List Nat := []
  let mut ending : Ending := .code 0
  for pid in pids do
    let e ← Sys.waitFor pid
    ending := e
    statuses := statuses ++ [e.status]
  Builtin.report ending
  let worst := (statuses.reverse.find? (· ≠ 0)).getD 0
  let status := if ← option "pipefail" then worst else statuses.getLast?.getD 0
  modify fun s => { s with status, pipeStatus := statuses }

/-- Start a command and go on. -/
def background (h : Hooks) (c : Command) : Sh Unit := do
  let null ← Sys.openFrom Kernel.asideStart "/dev/null".toList .read
  let given ← match null with
    | .ok fd => do pure [(0, ← openedAt fd)]
    | .error _ => pure []
  let pid ← spawn h given (h.run true [c])
  match null with
  | .ok fd => Sys.close fd
  | .error _ => pure ()
  modify fun s => { s with
    lastJob := some pid, jobs := s.jobs ++ [⟨pid, none, []⟩], status := 0 }

/-- Run commands in a copy of the shell. -/
def subshell (h : Hooks) (last : Bool) (body : List Command) : Sh Unit := do
  if last && !(← isBash) && (← canLeave) then
    modify childState
    h.run true body
    throw .quit
  else
    let pid ← spawn h [] (h.run true body)
    let e ← Sys.waitFor pid
    Builtin.report e
    modify fun s => { s with status := e.status, pipeStatus := [e.status] }

/-! ### Loops -/

/-- How a loop goes on after a round. -/
inductive Round where
  | again
  | stop
  /-- An outer loop is left, or goes on. -/
  | outer (j : Jump)

/-- Run the body of a loop once. -/
def oneRound (body : Sh Unit) : Sh Round := do
  try
    body
    return .again
  catch j =>
    match j with
    | .leave n => return if n ≤ 1 then .stop else .outer (.leave (n - 1))
    | .next n => return if n ≤ 1 then .again else .outer (.next (n - 1))
    | j => throw j

/-- Run something inside a loop. -/
def inLoop (body : Sh Unit) : Sh Unit := do
  let left : Sh Unit := modify fun s => { s with loops := s.loops - 1 }
  modify fun s => { s with loops := s.loops + 1 }
  try
    body
    left
  catch j =>
    left
    throw j

/-- Decide the test of a loop, which can be left like its body. -/
def oneTest (more : Sh Bool) : Sh (Except Round Bool) := do
  try
    return .ok (← more)
  catch j =>
    match j with
    | .leave n => return .error (if n ≤ 1 then .stop else .outer (.leave (n - 1)))
    | .next n => return .error (if n ≤ 1 then .again else .outer (.next (n - 1)))
    | j => throw j

/-- Run the body of a loop as long as `more` holds, at most so often; the status is that of the last
    round. -/
def rounds (more : Sh Bool) (body : Sh Unit) : Nat → Nat → Sh Unit
  | 0, status => setStatus status
  | n + 1, status => do
    match ← oneTest more with
    | .ok false => setStatus status
    | .error .again => rounds more body n (← get).status
    | .error .stop => pure ()
    | .error (.outer j) => throw j
    | .ok true =>
      match ← oneRound body with
      | .again => rounds more body n (← get).status
      | .stop => pure ()
      | .outer j => throw j

/-- The bound on the rounds of a loop. -/
def roundLimit : Nat := 1000000000

/-- Run the body of a loop for each of some values that can be put. -/
def forEach (put : Octets → Sh Bool) (body : Sh Unit) : List Octets → Sh Unit
  | [] => pure ()
  | t :: ts => do
    if ← put t then
      match ← oneRound body with
      | .again => forEach put body ts
      | .stop => pure ()
      | .outer j => throw j

/-! ### Choices -/

/-- One of some patterns matches a text. -/
def anyMatches (h : Hooks) (t : Octets) : List Word → Sh Bool
  | [] => return false
  | w :: ws => do
    let ps ← pattern (← option "extglob") (← markedOf h w)
    if Pattern.accepts (← option "nocasematch") ps (← characters t) then return true
    else anyMatches h t ws

/-- Run the branches of a choice from the first one that matches, or with `fallen` from the next
    one; whether one ran. -/
def branches (h : Hooks) (last : Bool) (t : Octets) : Bool → List Branch → Sh Bool
  | _, [] => return false
  | fallen, .mk ps body ending :: rest => do
    if fallen || (← anyMatches h t ps) then
      let final := match ending with
        | .leave => last
        | _ => false
      if body.isEmpty then setStatus 0 else h.run final body
      match ending with
      | .leave => pure ()
      | .fall => discard (branches h last t true rest)
      | .retry => discard (branches h last t false rest)
      return true
    else branches h last t false rest

/-- Run commands as a test. -/
def succeeds (h : Hooks) (test : List Command) : Sh Bool := do
  guardedly (h.run false test)
  return (← get).status = 0

/-- Run the first branch whose test succeeds. -/
def clauses (h : Hooks) (last : Bool) (otherwise : Option (List Command)) :
    List Clause → Sh Unit
  | [] =>
    match otherwise with
    | some body => h.run last body
    | none => setStatus 0
  | .mk test body :: rest => do
    if ← succeeds h test then h.run last body else clauses h last otherwise rest

/-! ### Commands -/

/-- A number in a loop that counts; an empty text stands for a given one.  The loop is left at a
    fault. -/
def countOf (h : Hooks) (w : Word) (empty : Int) : Sh Int := do
  if w.isEmpty then return empty
  else
    let t := Marked.text (Piece.joined [' '] (← Expand.pieces h .quoted w))
    if t.all Octets.isSpace then return empty
    else
      try compute t
      catch j =>
        match j with
        | .giveUp _ =>
          setStatus 1
          throw (.leave 1)
        | j => throw j

/-- Run a command, given how nested commands are run. -/
def command (h : Hooks) (last : Bool) (c : Command) : Sh Unit := do
  Prog.pause
  match c with
  | .simple line assigns arguments rs =>
    simple h last line assigns arguments rs
    checkTraps h
    checkFailure h
  | .group body => h.run (last && !(← isBash)) body
  | .subshell body =>
    subshell h last body
    checkFailure h
  | .branch cs otherwise => clauses h (last && !(← isBash)) otherwise cs
  | .loop untilDone test body =>
    let more : Sh Bool := do return (← succeeds h test) != untilDone
    inLoop (rounds more (h.run false body) roundLimit 0)
  | .forEach name ws body => do
    let ts ← match ws with
      | some ws => do pure (← ws.mapM (fields h)).flatten
      | none => do pure (← get).args
    setStatus 0
    inLoop (forEach (fun t => attempt false (putText name t)) (h.run false body) ts)
  | .forCount start test step body => do
    let begins : Sh Bool := do
      discard (countOf h start 0)
      return true
    let more : Sh Bool := do return (← countOf h test 1) ≠ 0
    let round : Sh Unit := do
      match ← oneRound (h.run false body) with
      | .again => discard (countOf h step 0)
      | .stop => throw (.leave 1)
      | .outer j => throw (match j with
        | .leave n => .leave (n + 1)
        | .next n => .next (n + 1)
        | j => j)
    match ← oneTest begins with
    | .ok _ => inLoop (rounds more round roundLimit 0)
    | .error _ => pure ()
  | .choose subject bs => do
    let t ← textOf h subject
    if !(← branches h (last && !(← isBash)) t false bs) then setStatus 0
  | .define name body => do
    modify fun s => { s with functions := s.functions.set name body }
    setStatus 0
  | .compute ps => do
    let t := Marked.text (Piece.joined [' '] (← Expand.pieces h .quoted ps))
    discard (attempt true do setStatus (if (← compute t) = 0 then 1 else 0))
    checkFailure h
  | .check c => do
    setStatus 0
    let b ← holds h c
    if (← get).status ≠ 2 then setStatus (if b then 0 else 1)
    checkFailure h
  | .redirected c rs =>
    let apart := match c with
      | .subshell _ => true
      | _ => false
    withRedirects h (apart && (← isBash)) rs (h.run false [c])
  | .negated c => do
    guardedly (h.run false [c])
    modify fun s => { s with status := if s.status = 0 then 1 else 0 }
  | .pipeline cs => do
    pipeline h cs
    checkTraps h
    checkFailure h
  | .andThen c d => do
    guardedly (h.run false [c])
    if (← get).status = 0 then h.run last [d]
  | .orElse c d => do
    guardedly (h.run false [c])
    if (← get).status ≠ 0 then h.run last [d]
  | .background c => background h c

/-- Run commands one after the other, given how nested commands are run. -/
def commands (h : Hooks) (last : Bool) : List Command → Sh Unit
  | [] => pure ()
  | [c] => command h last c
  | c :: cs => do
    command h false c
    commands h last cs

/-- Run commands, in at most so many nested steps, given what programs do. -/
def run (exec : Table Octets Octets → List Octets → Prog Nat) (isTool : Octets → Bool) :
    Nat → Bool → List Command → Sh Unit
  | 0, _, _ => fail 2 "nested too deeply"
  | n + 1, last, cs => commands ⟨run exec isTool n, exec, isTool⟩ last cs

/-- How deeply commands may be nested. -/
def depthLimit : Nat := 1000000

/-- Running commands, given what programs do. -/
def hooks (exec : Table Octets Octets → List Octets → Prog Nat) (isTool : Octets → Bool) : Hooks :=
  ⟨run exec isTool depthLimit, exec, isTool⟩

end Sh

end FenceSync.Shell
