import FenceSync.Shell.Builtin.Describe
import FenceSync.Shell.Builtin.Input
import FenceSync.Shell.Builtin.Session
import FenceSync.Shell.Redirection

namespace FenceSync.Shell

/-!
# Calling commands by name

A name stands for a function, a command of the shell, or a program.

* `Sh.callFunction` runs a function with arguments, and `Sh.callProgram` a program.
* `Sh.builtin?` is what a command of the shell does.
* `Sh.simple` runs a simple command: its words are expanded, descriptors redirected and variables
  set for it.
-/

namespace Sh

/-! ### Tracing and failing -/

/-- Show a command before it runs, if that is asked for. -/
def trace (words : List Octets) : Sh Unit := do
  if ← flag 'x' then
    let front := (← value? "PS4".toList).getD "+ ".toList
    let bash ← isBash
    let shown := if bash then words.map Builtin.wordFor else words
    discard (Sys.write 2 (front ++ Octets.join [' '] shown ++ ['\n']))

/-- What is run when something fails, and the end of the shell if it is to end then. -/
def checkFailure (h : Hooks) : Sh Unit := do
  let s ← get
  if s.status ≠ 0 && !s.guarded then
    if s.traps.has Event.failure then
      modify fun s => { s with guarded := true }
      runOn h Event.failure
      modify fun u => { u with guarded := s.guarded }
    if s.flags.contains 'e' then throw .quit

/-- Run something whose failure does not end the shell. -/
def guardedly (body : Sh Unit) : Sh Unit := do
  let old := (← get).guarded
  let restored : Sh Unit := modify fun s => { s with guarded := old }
  modify fun s => { s with guarded := true }
  try
    body
    restored
  catch j =>
    restored
    throw j

/-! ### Functions -/

/-- Run a function with arguments. -/
def callFunction (h : Hooks) (name : Octets) (body : Command) (args : List Octets) : Sh Unit := do
  let s ← get
  let bash := s.dialect == .bash
  let hidden := s.traps.filter fun t => Event.isHidden s.flags t.1
  set { s with
    args, calls := name :: s.calls, frames := [] :: s.frames, loops := 0
    optionIndex := 1, optionAt := if bash then s.optionAt else 0
    traps := s.traps.filter fun t => !Event.isHidden s.flags t.1 }
  let restored : Sh Unit := do
    runOn h Event.back
    restoreFrame
    modify fun u => { u with
      args := s.args, calls := s.calls, loops := s.loops, optionIndex := s.optionIndex
      optionAt := if bash then u.optionAt else s.optionAt
      -- what the function set to be run stays
      traps := hidden.foldl (fun ts t => if ts.has t.1 then ts else ts.set t.1 t.2) u.traps }
  try
    h.run false [body]
    restored
  catch j =>
    restored
    match j with
    | .quit | .giveUp _ => throw j
    | _ => pure ()

/-! ### Programs -/

/-- No signal and not the end of the shell is waited for, so that a program can take its place. -/
def canLeave : Sh Bool := do return (← get).traps.all fun t => t.2.isEmpty

/-- Run a program in place of the shell. -/
def becomeProgram {α : Type} (h : Hooks) (argv : List Octets) : Sh α := do
  let env ← environment
  lift do
    Prog.change fun pid k => (k.updateProcess pid fun p => { p with
      caught := [], descriptors := p.descriptors.filter fun d => d.1 < Kernel.asideStart }).sweep
    let n ← h.exec env argv
    Prog.exit (.code (n % 256))

/-- Wait for a process that nothing else is done beside; its status. -/
def waitForeground (pid : Nat) : Sh Unit := do
  let e ← Sys.waitFor pid
  Builtin.report e
  setStatus e.status

/-- Run a program. -/
def callProgram (h : Hooks) (last : Bool) (argv : List Octets) : Sh (Option Nat) := do
  let name := argv.headD []
  match ← Builtin.findProgram h name with
  | .missing =>
    complain s!"{Octets.toString name}: not found"
    setStatus 127
    return none
  | .denied _ =>
    complain s!"{Octets.toString name}: Permission denied"
    setStatus 126
    return none
  | _ =>
    if last && (← canLeave) then becomeProgram h argv
    else
      let env ← environment
      return some (← Prog.fork [] (h.exec env argv))

/-! ### Commands that run others -/

/-- Read a number that a command takes as its status. -/
def statusArgument (name : Octets) (args : List Octets) : Sh (Option Nat) := do
  match args with
  | [] => return some (← get).status
  | a :: _ =>
    let bash ← isBash
    match Octets.int? a with
    | some n =>
      if n < 0 && !bash then fail 2 s!"{Octets.toString name}: Illegal number: {Octets.toString a}"
      else return some (if bash then (n % 256).toNat else n.toNat)
    | none =>
      if bash then
        complain s!"{Octets.toString name}: {Octets.toString a}: numeric argument required"
        return none
      else fail 2 s!"{Octets.toString name}: Illegal number: {Octets.toString a}"

/-- End the shell. -/
def exit : Builtin := fun _ name args => do
  let n ← statusArgument name args
  if (← isBash) && 1 < args.length && n.isSome then
    complain "exit: too many arguments"
    setStatus 1
  else setStatus ((n.getD 2) % 256)
  throw .quit

/-- End a function or a script that is read by another. -/
def returnBack : Builtin := fun _ name args => do
  let s ← get
  let n ← statusArgument name args
  let n := n.getD 2
  if s.dialect = .posix then
    setStatus n
    if s.calls.isEmpty && s.sourcing = 0 then throw .quit else throw .back
  else if s.calls.isEmpty && s.sourcing = 0 then
    complain "return: can only return from a function or sourced script"
    setStatus 2
  else
    setStatus n
    throw .back

/-- Leave loops, or go on with their next rounds. -/
def leaveLoops (again : Bool) : Builtin := fun _ name args => do
  let s ← get
  let n := (args.head?.map Octets.nat?).getD (some 1)
  match n with
  | none => Builtin.misuse name true "Illegal number"
  | some 0 => Builtin.misuse name true "loop count out of range"
  | some n =>
    setStatus 0
    if s.loops ≠ 0 then
      let n := min n s.loops
      throw (if again then .next n else .leave n)

/-- Run the text that arguments make up. -/
def eval : Builtin := fun h _ args => do
  let args := if args.head? = some ['-', '-'] then args.drop 1 else args
  let t := Octets.join [' '] args
  if (t.all fun c => Octets.isSpace c) then setStatus 0 else runHere h t

/-- The path of a script that is to be read. -/
def scriptPath? (name : Octets) : Sh (Option Octets) := do
  if name.contains '/' then return some name
  else
    let dirs := Text.splitOn [':'] (← Builtin.searchPath)
    let paths := dirs.map fun d => Sys.under (if d.isEmpty then ['.'] else d) name
    match ← paths.findM? (FileTest.holds 'f' ·) with
    | some path => return some path
    | none => return if ← isBash then some name else none

/-- Run the commands of a file. -/
def source : Builtin := fun h name args => do
  let bash ← isBash
  let args := if args.head? = some ['-', '-'] then args.drop 1 else args
  match args with
  | [] =>
    if bash then
      complain s!"{Octets.toString name}: filename argument required"
      setStatus 2
  | file :: rest =>
    let missing : Sh Unit :=
      if bash then do
        complain s!"{Octets.toString file}: No such file or directory"
        setStatus 1
      else fail 2 s!"{Octets.toString name}: cannot open {Octets.toString file}"
    match ← scriptPath? file with
    | none => missing
    | some path =>
      match ← Sys.readFile path with
      | .error _ => missing
      | .ok t =>
        let old := (← get).args
        let given := bash && !rest.isEmpty
        if given then modify fun s => { s with args := rest }
        modify fun s => { s with sourcing := s.sourcing + 1 }
        let restored : Sh Unit := modify fun s => { s with
          sourcing := s.sourcing - 1, args := if given then old else s.args }
        setStatus 0
        try
          runText h false t
          restored
        catch j =>
          restored
          match j with
          | .back => pure ()
          | j => throw j

/-- Do nothing, successfully or not. -/
def succeed (status : Nat) : Builtin := fun _ _ _ => setStatus status

/-- Print arguments. -/
def echo : Builtin := fun _ _ args => do
  let s ← get
  Builtin.say (Echo.run (.shell s.dialect) (s.options.contains "xpg_echo") args)

/-- Fill arguments into a format and print it. -/
def printf : Builtin := fun _ name args => do
  let s ← get
  let bash := s.dialect == .bash
  let (target, args) : Option Octets × List Octets := match args with
    | ['-', 'v'] :: v :: rest => if bash then (some v, rest) else (none, args)
    | args => (none, args)
  let ended := args.head? == some ['-', '-']
  let args := if ended then args.drop 1 else args
  match args with
  | [] => do
    complain s!"{Octets.toString name}: usage: printf format [arg ...]"
    setStatus 2
  | format :: rest =>
    if format.head? = some '-' ∧ 1 < format.length ∧ target.isNone ∧ !ended then
      complain s!"{Octets.toString name}: {Octets.toString format}: invalid option"
      setStatus 2
    else
      let r := Printf.run (.shell s.dialect) format rest
      for t in r.faults do
        complain s!"{Octets.toString name}: {t}"
      let ok := r.faults.isEmpty
      match target with
      | some v =>
        match Builtin.cutElement? v with
        | some (base, key) => assignElement base key false r.out
        | none => assignText v false r.out
        setStatus (if ok then 0 else 1)
      | none =>
        let written ← Sys.print r.out
        setStatus (if !r.ok && !bash then 2 else if ok && written then 0 else 1)

/-- Say how long the shell and its processes took. -/
def times : Builtin := fun _ _ _ => do
  let zero := if ← isBash then "0m0.000s" else "0m0.000000s"
  Builtin.say (Octets.unlines (List.replicate 2 s!"{zero} {zero}".toList))

/-- The commands of every shell by name. -/
def commonBuiltins : List (String × Builtin) := [
  (":", succeed 0), ("true", succeed 0), ("false", succeed 1), ("[", Builtin.test),
  ("test", Builtin.test), ("echo", echo), ("printf", printf), ("alias", Builtin.setAlias),
  ("unalias", Builtin.unalias), ("cd", Builtin.cd), ("pwd", Builtin.pwd), ("exit", exit),
  ("return", returnBack), ("break", leaveLoops false), ("continue", leaveLoops true),
  ("eval", eval), (".", source), ("getopts", Builtin.getopts), ("read", Builtin.read),
  ("set", Builtin.set), ("shift", Builtin.shift), ("unset", Builtin.unset),
  ("trap", Builtin.trap), ("kill", Builtin.kill), ("wait", Builtin.wait), ("jobs", Builtin.jobs),
  ("fg", succeed 1), ("bg", succeed 1), ("umask", Builtin.umask), ("ulimit", Builtin.ulimit),
  ("times", times), ("type", Builtin.describe), ("hash", succeed 0)]

/-- The commands of one shell by name. -/
def ownBuiltins (d : Dialect) : List (String × Builtin) :=
  match d with
  | .posix => [("chdir", Builtin.cd)]
  | .bash => [
    ("source", source), ("let", Builtin.letAll), ("shopt", Builtin.shopt),
    ("mapfile", Builtin.readLines), ("readarray", Builtin.readLines), ("pushd", Builtin.pushd),
    ("popd", Builtin.popd), ("dirs", Builtin.dirs), ("enable", succeed 0), ("disown", succeed 0),
    ("history", succeed 0), ("help", succeed 0), ("bind", succeed 0), ("complete", succeed 0),
    ("compgen", succeed 1), ("compopt", succeed 1), ("caller", succeed 1), ("fc", succeed 1),
    ("logout", succeed 1), ("suspend", succeed 1)]

/-- What a command of the shell does. -/
def builtin? (d : Dialect) (name : Octets) : Option Builtin :=
  let text := Octets.toString name
  (commonBuiltins.lookup text).or ((ownBuiltins d).lookup text)

/-- What a command does that reads some arguments as assignments. -/
def declarer? (d : Dialect) (name : Octets) :
    Option (Hooks → Octets → List Operand → Sh Unit) :=
  match Octets.toString name with
  | "export" => some Builtin.exportAll
  | "readonly" => some Builtin.fix
  | "local" => some Builtin.localize
  | "declare" | "typeset" => if d = .bash then some Builtin.declare else none
  | _ => none

/-! ### Simple commands -/

/-- An argument, expanded as far as it can be before the command is known. -/
def operands (h : Hooks) : Argument → Sh (List Operand)
  | .word w => do return (← fields h w).map .text
  | .assign (.scalar name none append w) => do
    let sign : Octets := if append then ['+', '='] else ['=']
    return [.text (name ++ sign ++ (← textOf h w))]
  | .assign a => return [.assign a]

/-- How a command is called: what its name stands for is looked for among all, without functions, or
    among the commands of the shell alone. -/
inductive Scope where
  | all
  | plain
  | own
  deriving DecidableEq, Repr

/-- A program that runs beside the shell has to be waited for when descriptors are restored. -/
abbrev Called := Option Nat

/-- Call a command by its name, in at most so many steps through commands that call others. -/
def call (h : Hooks) (last : Bool) (keepRedirects : Sh Unit) :
    Nat → Scope → Octets → List Operand → Sh Called
  | 0, _, _, _ => fail 2 "too deep"
  | n + 1, scope, name, os => do
    let s ← get
    let args := Builtin.texts os
    match if scope = .all then s.functions.get? name else none with
    | some body =>
      callFunction h name body args
      return none
    | none =>
      match declarer? s.dialect name with
      | some f =>
        discard (attempt false (f h name os))
        return none
      | none =>
        match builtin? s.dialect name with
        | some f =>
          discard (attempt false (f h name args))
          return none
        | none =>
          match Octets.toString name, args with
          | "exec", _ =>
            let args := match args with
              | ['-', 'a'] :: _ :: rest => rest
              | ['-', 'c'] :: rest | ['-', 'l'] :: rest | ['-', '-'] :: rest => rest
              | args => args
            keepRedirects
            match args with
            | [] =>
              setStatus 0
              return none
            | prog :: _ =>
              let status := match ← Builtin.findProgram h prog with
                | .missing => 127
                | .denied _ => 126
                | _ => 0
              if status = 0 then becomeProgram h args
              else fail status s!"exec: {Octets.toString prog}: not found"
          | "command", _ =>
            let (flags, args) := Builtin.options ['p', 'v', 'V'] args
            if flags.contains 'v' || flags.contains 'V' then
              Builtin.locate h (flags.contains 'V') args
              return none
            else match args with
              | [] =>
                setStatus 0
                return none
              | name :: rest => call h last keepRedirects n .plain name (rest.map .text)
          | "builtin", name :: rest =>
            if s.dialect = .bash then call h last keepRedirects n .own name (rest.map .text)
            else callProgram h last ("builtin".toList :: args)
          | _, _ =>
            if scope = .own then
              complain s!"builtin: {Octets.toString name}: not a shell builtin"
              setStatus 1
              return none
            else callProgram h last (name :: args)

/-- The words that show an assignment. -/
def shownAssign (a : Assign) : Sh Octets := do
  let name := assignName a
  return name ++ '=' :: ((← value? name).getD [])

/-- Carry out assignments that stay. -/
def assignAll (h : Hooks) (assigns : List Assign) : Sh Unit := do
  for a in assigns do
    assign h a
    if ← isBash then
      if ← flag 'x' then
        let v := (← value? (assignName a)).getD []
        let front := (← value? "PS4".toList).getD "+ ".toList
        discard (Sys.write 2 (front ++ assignName a ++ '=' :: Builtin.wordFor v ++ ['\n']))
  if !(← isBash) && !assigns.isEmpty then trace (← assigns.mapM shownAssign)

/-- Descriptors could not be redirected. -/
def failRedirect (special : Bool) (e : RedirectFault) : Sh Unit := do
  let bash ← isBash
  match e with
  | .told => pure ()
  | .text t =>
    complain t
    setStatus (if bash then 1 else 2)
  if special && !bash then throw .quit

/-- Do something with descriptors redirected. -/
def withRedirects (h : Hooks) (apart : Bool) (rs : List Redirect) (body : Sh Unit) : Sh Unit := do
  if rs.isEmpty then body
  else match ← redirect h apart rs with
    | .error t => failRedirect false t
    | .ok kept =>
      try
        body
        restore kept
      catch j =>
        restore kept
        throw j

/-- A command of the shell has this name. -/
def isOwn (d : Dialect) (name : Octets) : Bool :=
  (builtin? d name).isSome || (declarer? d name).isSome ||
    ["exec", "command", "builtin"].contains (Octets.toString name)

/-- Run a simple command. -/
def simple (h : Hooks) (last : Bool) (line : Nat) (assigns : List Assign)
    (arguments : List Argument) (rs : List Redirect) : Sh Unit := do
  let streams := (← get).streams
  modify fun s => { s with line, captureStatus := 0 }
  if !(← get).guarded then guardedly (runOn h Event.command)
  let os := (← arguments.mapM (operands h)).flatten
  match os with
  | [] =>
    let bash ← isBash
    match ← redirect h false rs with
    | .error t =>
      if bash then assignAll h assigns
      failRedirect false t
    | .ok kept =>
      restore kept
      assignAll h assigns
      setStatus (← get).captureStatus
  | first :: rest =>
    let name := (Builtin.texts [first]).headD []
    let s ← get
    let isFunction := s.functions.has name
    let special := Builtin.isSpecial s.dialect name && !(isFunction && s.dialect = .bash)
    if ← flag 'x' then
      if s.dialect = .posix then
        let shown ← assigns.mapM fun a => match a with
          | .scalar name _ _ w => do return name ++ '=' :: (← textOf h w)
          | .list name _ _ => return name
        trace (shown ++ Builtin.texts os)
      else
        for a in assigns do
          match a with
          | .scalar name _ _ w =>
            let front := (← value? "PS4".toList).getD "+ ".toList
            let t ← textOf h w
            discard (Sys.write 2 (front ++ name ++ '=' :: Builtin.wordFor t ++ ['\n']))
          | .list _ _ _ => pure ()
        trace (Builtin.texts os)
    modify fun s => { s with lastArg := (Builtin.texts os).getLast?.getD [] }
    let persists := special && s.dialect = .posix
    match ← redirect h (s.dialect = .bash && !isFunction && !isOwn s.dialect name) rs with
    | .error t => failRedirect special t
    | .ok kept =>
      -- `exec` can have redirections stay
      let stays := name = "exec".toList ||
        (name = "command".toList && (Builtin.texts rest).head? = some "exec".toList)
      let keepRedirects : Sh Unit := if stays then forget kept else pure ()
      let restored : Sh Unit := if stays then pure () else restore kept
      let scope := if persists then Scope.plain else .all
      let leaves := last && (s.dialect = .posix || rs.isEmpty)
      let body := call h leaves keepRedirects 100 scope name rest
      try
        let called ← if persists then do
            for a in assigns do assign h a
            body
          else withAssigned h assigns body
        let wait : Sh Unit := match called with
          | some pid => waitForeground pid
          | none => pure ()
        if ← isBash then
          restored
          wait
        else
          wait
          restored
      catch j =>
        restored
        throw j
  closeStreams streams
  modify fun s => { s with pipeStatus := [s.status] }

end Sh

end FenceSync.Shell
