import FenceSync.Shell.Builtin.Variable
import FenceSync.Shell.Permission
import FenceSync.Shell.Test

namespace FenceSync.Shell

/-!
# Commands on the shell itself

* `Builtin.set` and `Builtin.shopt` switch options.
* `Builtin.cd`, `Builtin.pwd` and the stack of directories move through the file tree.
* `Builtin.trap`, `Builtin.kill` and `Builtin.wait` deal with signals and processes.
-/

namespace Builtin

/-! ### Options -/

/-- The options with a letter, by their long names. -/
def flagNames (d : Dialect) : List (String × Char) :=
  match d with
  | .posix => [("errexit", 'e'), ("noglob", 'f'), ("ignoreeof", 'I'), ("interactive", 'i'),
    ("monitor", 'm'), ("noexec", 'n'), ("stdin", 's'), ("xtrace", 'x'), ("verbose", 'v'),
    ("vi", 'V'), ("emacs", 'E'), ("noclobber", 'C'), ("allexport", 'a'), ("notify", 'b'),
    ("nounset", 'u'), ("privileged", 'p')]
  | .bash => [("allexport", 'a'), ("errexit", 'e'), ("errtrace", 'E'), ("functrace", 'T'),
    ("hashall", 'h'), ("keyword", 'k'), ("monitor", 'm'), ("noclobber", 'C'), ("noexec", 'n'),
    ("noglob", 'f'), ("notify", 'b'), ("nounset", 'u'), ("onecmd", 't'), ("physical", 'P'),
    ("privileged", 'p'), ("verbose", 'v'), ("xtrace", 'x')]

/-- The options that can be switched by their long names alone. -/
def wideOptions (d : Dialect) : List String :=
  match d with
  | .posix => ["nolog", "debug"]
  | .bash => ["braceexpand", "emacs", "histexpand", "history", "ignoreeof", "interactive-comments",
    "nolog", "pipefail", "posix", "vi"]

/-- The options that are on without being switched on. -/
def usualOptions : List String := ["braceexpand", "hashall", "interactive-comments"]

/-- The options by name, and whether they are on. -/
def optionStates (s : State) : List (String × Bool) :=
  let names := (flagNames s.dialect).map (·.1) ++ wideOptions s.dialect
  let names := if s.dialect = .bash then names.mergeSort fun a b => !(b < a) else names
  names.map fun n => (n, s.options.contains n ||
    (s.dialect == .bash && usualOptions.contains n) ||
    ((flagNames s.dialect).lookup n).any s.flags.contains)

/-- Switch an option with a letter. -/
def setFlag (c : Char) (isOn : Bool) : Sh Unit := modify fun s =>
  let others := s.flags.filter (· != c)
  { s with flags := if isOn then others ++ [c] else others }

/-- Switch an option with a long name. -/
def setOption (name : String) (isOn : Bool) : Sh Unit := modify fun s =>
  let others := s.options.filter (· != name)
  { s with options := if isOn then others ++ [name] else others }

/-- Switch an option by its long name; whether there is one. -/
def setByName (name : Octets) (isOn : Bool) : Sh Bool := do
  let text := Octets.toString name
  let d := (← get).dialect
  match (flagNames d).lookup text with
  | some c =>
    setFlag c isOn
    return true
  | none =>
    let known := (wideOptions d).contains text
    if known then setOption text isOn
    return known

/-- Letters of options that can be switched. -/
def knownFlags (d : Dialect) : List Char :=
  if d = .bash then "abefhkmnptuvxBCEHPT".toList else "aefnuxvVEbCIims".toList

/-- Take the options in front of arguments; none if one of them is wrong. -/
def takeOptions : Nat → List Octets → Sh (Option (Option (List Octets)))
  | 0, _ => return some none
  | _ + 1, [] => return some none
  | n + 1, a :: rest => do
    let d := (← get).dialect
    if a = ['-', '-'] then return some (some rest)
    else if a = ['-'] then
      setFlag 'x' false
      setFlag 'v' false
      return some (if rest.isEmpty then none else some rest)
    else match a with
      | mark :: cs =>
        if (mark = '-' ∨ mark = '+') && !cs.isEmpty then
          let isOn := mark == '-'
          let letters := cs.filter (· != 'o')
          if letters.any fun c => !(knownFlags d).contains c then return none
          for c in letters do
            setFlag c isOn
          if cs.contains 'o' then
            match rest with
            | name :: rest =>
              if ← setByName name isOn then takeOptions n rest else return none
            | [] => takeOptions n rest
          else takeOptions n rest
        else return some (some (a :: rest))
      | [] => return some (some (a :: rest))

/-- Switch options and set the arguments of the shell, or show all variables. -/
def set : Builtin := fun _ name args => do
  if args.isEmpty then
    let found ← variablesWhere fun v => !(v.value matches .unset)
    let bash ← Sh.isBash
    say (found.flatMap fun e => if bash then plainLine e.1 e.2 else assignmentLine "" e.1 e.2)
  else if args = [['-', 'o']] then
    let s ← get
    let (title, width, gap) : String × Nat × String :=
      if s.dialect = .bash then ("", 15, "\t") else ("Current option settings\n", 16, "")
    say (title.toList ++ (optionStates s).flatMap fun (n, isOn) =>
      Octets.padRight width n.toList ++ gap.toList ++ (if isOn then "on\n" else "off\n").toList)
  else if args = [['+', 'o']] then
    say ((optionStates (← get)).flatMap fun (n, isOn) =>
      (if isOn then "set -o " else "set +o ").toList ++ n.toList ++ ['\n'])
  else
    match ← takeOptions (args.length + 1) args with
    | none => misuse name true "illegal option"
    | some words =>
      match words with
      | some ts => modify fun s => { s with args := ts }
      | none => pure ()
      Sh.setStatus 0

/-- Switch the options of one shell that have long names. -/
def shopt : Builtin := fun _ _ args => do
  let (flags, names) := options "supqo".toList args
  let known := ["extglob", "nullglob", "dotglob", "nocaseglob", "nocasematch", "globstar",
    "failglob",
    "expand_aliases", "lastpipe", "patsub_replacement", "sourcepath", "xpg_echo", "inherit_errexit",
    "nocasematch", "checkwinsize", "interactive_comments", "progcomp", "hostcomplete", "huponexit",
    "login_shell", "mailwarn", "no_empty_cmd_completion", "promptvars", "shift_verbose", "autocd",
    "cdspell", "cdable_vars", "checkhash", "checkjobs", "cmdhist", "compat31", "direxpand",
    "dirspell", "execfail", "extdebug", "extquote", "force_fignore", "globasciiranges",
    "globskipdots", "gnu_errfmt", "histappend", "histreedit", "histverify", "lithist",
    "localvar_inherit", "localvar_unset", "noexpand_translation", "assoc_expand_once",
    "complete_fullquote", "progcomp_alias", "restricted_shell", "varredir_close"]
  let mut status := 0
  for n in names do
    let text := Octets.toString n
    if flags.contains 'o' then
      if !(← setByName n (flags.contains 's')) then status := 1
    else if !known.contains text then
      Sh.complain s!"shopt: {text}: invalid shell option name"
      status := 1
    else if flags.contains 's' then setOption text true
    else if flags.contains 'u' then setOption text false
    else
      let isOn := (← get).options.contains text
      if !isOn then status := 1
      if !flags.contains 'q' then
        let line := if flags.contains 'p' then
            "shopt ".toList ++ (if isOn then "-s " else "-u ").toList ++ n ++ ['\n']
          else Octets.padRight 20 n ++ '\t' :: (if isOn then "on\n" else "off\n").toList
        discard (Sys.print line)
  Sh.setStatus status

/-! ### Aliases -/

/-- The place of an alias among those of the simpler shell: a hash with 39 places. -/
def aliasSlot (name : Octets) : Nat :=
  ((name.map Char.toNat).foldl (· + ·) ((name.headD '\x00').toNat * 16)) % 39

/-- Set or show aliases. -/
def setAlias : Builtin := fun _ _ args => do
  let bash ← Sh.isBash
  let front := if bash then "alias ".toList else []
  let line (n t : Octets) : Octets := front ++ n ++ '=' :: singleQuoted bash t ++ ['\n']
  let args := if args.head? = some ['-', 'p'] then args.drop 1 else args
  if args.isEmpty then
    let known := (← get).aliases
    let known := if front.isEmpty then known.mergeSort fun a b => aliasSlot a.1 ≤ aliasSlot b.1
      else known.mergeSort fun a b => !Octets.before b.1 a.1
    say (known.flatMap fun e => line e.1 e.2)
  else
    let mut ok := true
    for a in args do
      match a.span (· != '=') with
      | (n, '=' :: t) => modify fun s => { s with aliases := s.aliases.set n t }
      | _ =>
        match (← get).aliases.get? a with
        | some t => discard (Sys.print (line a t))
        | none =>
          ok := false
          Sh.complain s!"alias: {Octets.toString a}: not found"
    Sh.setStatus (if ok then 0 else 1)

/-- Forget aliases. -/
def unalias : Builtin := fun _ _ args => do
  let mut ok := true
  for a in args do
    if a = ['-', 'a'] then modify fun s => { s with aliases := [] }
    else
      if !(← get).aliases.has a then ok := false
      modify fun s => { s with aliases := s.aliases.erase a }
  Sh.setStatus (if ok then 0 else 1)

/-! ### Directories -/

/-- The path of the working directory as the shell remembers it. -/
def workingPath : Sh Octets := do
  let place ← Sys.dir
  let physical := Sys.placeText place
  match ← Sh.value? "PWD".toList with
  | some t =>
    if t.head? ≠ some '/' then return physical
    else match ← Sys.node? true t with
      | some (p, .dir) => return if p = place then t else physical
      | _ => return physical
  | none => return physical

/-- A path without dots, slashes side by side, and names followed by two dots. -/
def plainPath (t : Octets) : Octets :=
  let names := (Text.splitOn ['/'] t).foldl (fun names p =>
    if p = [] ∨ p = ['.'] then names
    else if p = ['.', '.'] then names.drop 1
    else p :: names) []
  '/' :: Octets.join ['/'] names.reverse

/-- Go to a directory; whether there is one. -/
def enter (physical : Bool) (target : Octets) : Sh Bool := do
  let here ← workingPath
  let full := if target.head? = some '/' then target else here ++ '/' :: target
  let path := if physical then target else plainPath full
  -- every directory that two dots lead back from has to be there
  match ← Sys.node? true target, ← Sys.node? true path with
  | some (place, .dir), some (logical, .dir) =>
    let place := if physical then place else logical
    Prog.change fun pid k => k.updateProcess pid fun p => { p with dir := place }
    Sh.putText "OLDPWD".toList here
    Sh.putText "PWD".toList (if physical then Sys.placeText place else path)
    modify fun s => { s with
      vars := s.vars.modify "PWD".toList fun v => { v with exported := true } }
    modify fun s => { s with
      vars := s.vars.modify "OLDPWD".toList fun v => { v with exported := true } }
    return true
  | _, _ => return false

/-- Go to a directory, and print its path if it was not given as such. -/
def cd : Builtin := fun _ name args => do
  let (flags, args) := options ['L', 'P', 'e', '@'] args
  let physical := flags.getLast? == some 'P' || (← Sh.flag 'P')
  let bash ← Sh.isBash
  let fail (text : String) : Sh Unit := do
    Sh.complain s!"{Octets.toString name}: {text}"
    Sh.setStatus (if bash then 1 else 2)
  if bash && args.length > 1 then fail "too many arguments"
  else
    let target? ← match args.head? with
      | none => Sh.value? "HOME".toList
      | some ['-'] => Sh.value? "OLDPWD".toList
      | some t => pure (some t)
    match target? with
    | none => fail (if args.isEmpty then "HOME not set" else "OLDPWD not set")
    | some target =>
      if target.isEmpty then Sh.setStatus 0
      else
        let plain := target.head? != some '/' && target.head? != some '.'
        let roots ← if plain then do pure ((← Sh.value? "CDPATH".toList).getD []) else pure []
        let found ← (Octets.fields ':' roots).findM? fun root => do
          if roots.isEmpty || root.isEmpty then return false
          else enter physical (Sys.under root target)
        match found with
        | some _ => say ((← workingPath) ++ ['\n'])
        | none =>
          if ← enter physical target then
            if args.head? = some ['-'] then say ((← workingPath) ++ ['\n']) else Sh.setStatus 0
          else fail s!"can't cd to {Octets.toString target}"

/-- Print the path of the working directory. -/
def pwd : Builtin := fun _ _ args => do
  let (flags, _) := options ['L', 'P'] args
  if flags.getLast? = some 'P' then say (Sys.placeText (← Sys.dir) ++ ['\n'])
  else say ((← workingPath) ++ ['\n'])

/-- A path with the home directory shortened. -/
def shortened (t : Octets) : Sh Octets := do
  match ← Sh.value? "HOME".toList with
  | some home =>
    if home.isEmpty then return t
    else match Text.after? home t with
      | some rest => return if rest.isEmpty || rest.head? == some '/' then '~' :: rest else t
      | none => return t
  | none => return t

/-- Print the stack of directories. -/
def dirs : Builtin := fun _ _ args => do
  let (flags, _) := options ['c', 'l', 'p', 'v'] args
  if flags.contains 'c' then
    modify fun s => { s with dirs := [] }
    Sh.setStatus 0
  else
    let all := (← workingPath) :: (← get).dirs
    let shown ← if flags.contains 'l' then pure all else all.mapM shortened
    if flags.contains 'v' then
      say (shown.zipIdx.flatMap fun (t, k) =>
        Octets.padLeft 2 ' ' (Octets.ofNat k) ++ ' ' :: ' ' :: t ++ ['\n'])
    else if flags.contains 'p' then say (Octets.unlines shown)
    else say (Octets.join [' '] shown ++ ['\n'])

/-- Go to a directory and remember the one before. -/
def pushd : Builtin := fun h name args => do
  let here ← workingPath
  let quiet := args.head? == some ['-', 'n']
  match (if quiet then args.drop 1 else args).head? with
  | some target =>
    if quiet then
      modify fun s => { s with dirs := target :: s.dirs }
      dirs h name []
    else if ← enter false target then
      modify fun s => { s with dirs := here :: s.dirs }
      dirs h name []
    else
      Sh.complain s!"pushd: {Octets.toString target}: No such file or directory"
      Sh.setStatus 1
  | none =>
    match (← get).dirs with
    | d :: ds =>
      if ← enter false d then
        modify fun s => { s with dirs := here :: ds }
        dirs h name []
      else Sh.setStatus 1
    | [] =>
      Sh.complain "pushd: no other directory"
      Sh.setStatus 1

/-- Go back to the directory before. -/
def popd : Builtin := fun h name _ => do
  match (← get).dirs with
  | d :: ds =>
    modify fun s => { s with dirs := ds }
    if ← enter false d then dirs h name [] else Sh.setStatus 1
  | [] =>
    Sh.complain "popd: directory stack empty"
    Sh.setStatus 1

/-! ### Permissions -/

/-- Show or set the permissions that new files do not get. -/
def umask : Builtin := fun _ name args => do
  let (flags, args) := options ['S', 'p'] args
  let mask ← Prog.look fun pid k => (k.process pid).mask
  match args with
  | [] =>
    if flags.contains 'S' then
      let class? (shift : Nat) : Octets :=
        let m := ((0o777 - mask) >>> shift) &&& 7
        (if m &&& 4 != 0 then ['r'] else []) ++ (if m &&& 2 != 0 then ['w'] else []) ++
          (if m &&& 1 != 0 then ['x'] else [])
      say ("u=".toList ++ class? 6 ++ ",g=".toList ++ class? 3 ++ ",o=".toList ++ class? 0 ++
        ['\n'])
    else say (Octets.padLeft 4 '0' (Nat.toDigits 8 mask) ++ ['\n'])
  | t :: _ =>
    let given := match Octets.natIn? 8 t with
      | some n => some n
      | none => (Permission.read? false 0 (0o777 - mask) t).map fun m => 0o777 - m
    match given with
    | some n =>
      Prog.change fun pid k => k.updateProcess pid fun p => { p with mask := n &&& 0o777 }
      Sh.setStatus 0
    | none => misuse name false "Illegal mode"

/-! ### Signals -/

/-- Signals that are no signals: events of one shell. -/
def events : List (String × Signal) :=
  [("ERR", Event.failure), ("DEBUG", Event.command), ("RETURN", Event.back)]

/-- A signal or event by its name. -/
def signalOf? (t : Octets) : Sh (Option Signal) := do
  let bash ← Sh.isBash
  match if bash then events.lookup (Octets.toString (t.map Char.toUpper)) else none with
  | some n => return some n
  | none => return Signal.ofName? t

/-- Let a signal do nothing, run a text, or what it usually does. -/
def setTrap (sig : Signal) (action : Option Octets) : Sh Unit := do
  modify fun s => { s with traps := match action with
    | some t => s.traps.set sig t
    | none => s.traps.erase sig }
  if 0 < sig && sig < 65 then
    Prog.change fun pid k => k.updateProcess pid fun p =>
      let caught := p.caught.filter (· != sig)
      let ignored := p.ignored.filter (· != sig)
      match action with
      | none => { p with caught, ignored }
      | some [] => { p with caught, ignored := sig :: ignored }
      | some _ => { p with caught := sig :: caught, ignored }

/-- Say what is to be run on signals. -/
def trap : Builtin := fun _ name args => do
  let s ← get
  let args := if args.head? = some ['-', '-'] then args.drop 1 else args
  let shown (sigs : List Signal) : Octets :=
    (s.traps.mergeSort fun a b => a.1 ≤ b.1).flatMap fun (sig, t) =>
      if !sigs.isEmpty && !sigs.contains sig then []
      else
        let named := match events.find? fun e => e.2 == sig with
          | some e => e.1.toList
          | none => if s.dialect = .bash && sig != 0 then "SIG".toList ++ Signal.name sig
            else Signal.name sig
        let action := singleQuoted (s.dialect == .bash) t
        "trap -- ".toList ++ action ++ ' ' :: named ++ ['\n']
  match args with
  | [] => say (shown [])
  | ['-', 'p'] :: names =>
    let sigs ← names.mapM signalOf?
    say (shown (sigs.filterMap id))
  | ['-', 'l'] :: _ => Sh.setStatus 0
  | action :: names =>
    let alone := names.isEmpty || (Octets.nat? action).isSome
    let (action, names) : Option Octets × List Octets :=
      if alone then (none, args)
      else if action = ['-'] then (none, names)
      else (some action, names)
    Sh.setStatus 0
    for n in names do
      match ← signalOf? n with
      | some sig => setTrap sig action
      | none =>
        Sh.complain s!"{Octets.toString name}: {Octets.toString n}: bad trap"
        Sh.setStatus 1

/-- What a shell says of a process that a signal has ended. -/
def signalTexts : List (Signal × String) := [
  (1, "Hangup"), (3, "Quit"), (4, "Illegal instruction"), (5, "Trace/breakpoint trap"),
  (6, "Aborted"), (7, "Bus error"), (8, "Floating point exception"), (9, "Killed"),
  (10, "User defined signal 1"), (11, "Segmentation fault"), (12, "User defined signal 2"),
  (14, "Alarm clock"), (15, "Terminated"), (16, "Stack fault"), (24, "CPU time limit exceeded"),
  (25, "File size limit exceeded"), (26, "Virtual timer expired"), (27, "Profiling timer expired"),
  (29, "I/O possible"), (30, "Power failure"), (31, "Bad system call")]

/-- Say that a signal has ended a process, as the simpler shell does. -/
def report (e : Ending) : Sh Unit := do
  match e with
  | .code _ => pure ()
  | .signal sig =>
    if !(← Sh.isBash) then
      match signalTexts.lookup sig with
      | some t => discard (Sys.write 2 (t.toList ++ ['\n']))
      | none => pure ()

/-- The process that an argument names. -/
def processOf? (t : Octets) : Sh (Option Nat) := do
  let s ← get
  match t with
  | '%' :: rest =>
    if rest = ['%'] ∨ rest = ['+'] ∨ rest = [] then return s.jobs.getLast?.map (·.pid)
    else match Octets.nat? rest with
      | some n => return (s.jobs[n - 1]?).map (·.pid)
      | none => return none
  | t => return Octets.nat? t

/-- Send signals to processes, or show the names of signals. -/
def kill : Builtin := fun _ name args => do
  let bash ← Sh.isBash
  let fail (status : Nat) (text : String) : Sh Unit := do
    Sh.complain s!"{Octets.toString name}: {text}"
    Sh.setStatus status
  let send (sig : Signal) (targets : List Octets) : Sh Unit := do
    if targets.isEmpty then fail 2 "usage"
    else
      let mut ok := true
      let mut sent := 0
      for t in targets do
        match ← processOf? t with
        | some pid =>
          if ← Sys.signal pid sig then sent := sent + 1
          else
            ok := false
            Sh.complain s!"{Octets.toString name}: {Octets.toString t}: No such process"
        | none =>
          ok := false
          Sh.complain s!"{Octets.toString name}: {Octets.toString t}: bad process"
      Sh.setStatus (if ok || (bash && 0 < sent) then 0 else 1)
  let withSignal (t : Octets) (targets : List Octets) : Sh Unit := do
    match Signal.ofName? t with
    | some sig => send sig (if targets.head? = some ['-', '-'] then targets.drop 1 else targets)
    | none => fail (if bash then 1 else 2) "bad signal"
  match args with
  | [] => fail (if bash then 2 else 2) "usage"
  | ['-', 'l'] :: rest | ['-', 'L'] :: rest =>
    if rest.isEmpty then
      say (Octets.unlines (['0'] :: ((List.range 31).map fun n => Signal.name (n + 1))))
    else
      let mut ok := true
      for t in rest do
        match Octets.nat? t with
        | some n =>
          let n := if 128 < n then n - 128 else n
          if n < 32 then discard (Sys.print (Signal.name n ++ ['\n'])) else ok := false
        | none =>
          match if bash then Signal.ofName? t else none with
          | some n => discard (Sys.print (Octets.ofNat n ++ ['\n']))
          | none =>
            ok := false
            Sh.complain s!"{Octets.toString name}: {Octets.toString t}: invalid signal"
      Sh.setStatus (if ok then 0 else if bash then 1 else 2)
  | ['-', 's'] :: t :: targets => withSignal t targets
  | ['-', 'n'] :: t :: targets => withSignal t targets
  | ['-', '-'] :: targets => send Signal.term targets
  | ('-' :: t) :: targets => withSignal t targets
  | targets => send Signal.term targets

/-! ### Waiting -/

/-- Wait until a process has ended, or a caught signal has come. -/
def waitProcess (pid : Nat) : Sh (Option Ending) := do
  Prog.await fun me k =>
    match k.reap? pid with
    | some (e, k) => some (some e, k)
    | none => if k.hasCaught me then some (none, k) else none

/-- Wait for a process that the shell has started; its status. -/
def waitJob (h : Hooks) (pid : Nat) : Sh Nat := do
  match (← get).jobs.find? fun j => j.pid == pid with
  | none => return 127
  | some j =>
    match j.status with
    | some n => return n
    | none =>
      match ← waitProcess pid with
      | some e =>
        modify fun s => { s with jobs := s.jobs.map fun j =>
          if j.pid = pid then { j with status := some e.status } else j }
        report e
        return e.status
      | none =>
        let sig ← Prog.look fun me k =>
          ((k.process me).pending.find? (k.process me).caught.contains).getD 0
        Sh.checkTraps h
        return 128 + sig

/-- Wait for processes. -/
def wait : Builtin := fun h _ args => do
  let (flags, args) := options ['n', 'f', 'p'] args
  if flags.contains 'n' then
    -- whichever of them ends first
    let running := (← get).jobs.filter fun j => j.status.isNone
    if running.isEmpty then Sh.setStatus 127
    else
      let (pid, e) ← Prog.await fun _ k =>
        running.findSome? fun j => (k.reap? j.pid).map fun (e, k) => ((j.pid, e), k)
      modify fun s => { s with jobs := s.jobs.filter fun j => j.pid != pid }
      Sh.setStatus e.status
  else if args.isEmpty then
    let mut status := 0
    for j in (← get).jobs do
      if status = 0 then
        let before := (← get).jobs.length
        let n ← waitJob h j.pid
        -- a signal ends the wait
        if 128 < n && ((← get).jobs.any fun k => k.pid == j.pid && k.status.isNone) then status := n
        if before = 0 then status := 0
    if status = 0 then modify fun s => { s with jobs := [] }
    Sh.setStatus status
  else
    let mut status := 0
    for a in args do
      match ← processOf? a with
      | some pid => status ← waitJob h pid
      | none =>
        Sh.complain s!"wait: {Octets.toString a}: not a process"
        status := if (← Sh.isBash) then 1 else 2
    Sh.setStatus status

/-- Show the processes that the shell has started. -/
def jobs : Builtin := fun _ _ args => do
  let (flags, _) := options ['l', 'p', 'r', 's', 'n', 'x'] args
  if flags.contains 'p' then
    say ((← get).jobs.flatMap fun j => Octets.ofNat j.pid ++ ['\n'])
  else Sh.setStatus 0

/-- Show or set limits: there are none. -/
def ulimit : Builtin := fun _ _ args => do
  if args.any fun a => (Octets.nat? a).isSome || a == "unlimited".toList then Sh.setStatus 0
  else say "unlimited\n".toList

/-- Decide a test. -/
def test : Builtin := fun _ name args => do
  let s ← get
  let bash := s.dialect == .bash
  let fail (text : String) : Sh Unit := do
    Sh.complain s!"{Octets.toString name}: {text}"
    Sh.setStatus 2
  match if name = ['['] then TestExpr.unbracketed? args else some args with
  | none => fail "missing ]"
  | some args =>
    match TestExpr.ofArgs (.shell s.dialect) args with
    | .error t => fail t
    | .ok e =>
      let ask (op : Char) (t : Octets) : Option Bool :=
        if !bash then none
        else match op with
          | 'v' =>
            match cutElement? t with
            | some (base, key) =>
              some (((s.vars.get? base).map Variable.value).any fun v => match v with
              | .map es => es.has key || ((key == ['@']) && !es.isEmpty)
              | .list es => ((Octets.nat? key).any fun n => (es.lookup n).isSome) ||
                  ((key == ['@']) && !es.isEmpty)
              | .text _ => key == ['0']
              | .unset => false)
            | none => some ((s.vars.get? t).any fun v => v.text?.isSome)
          | 'o' => some (((optionStates s).lookup (Octets.toString t)).getD false)
          | 'R' => some ((s.vars.get? t).any (·.refers))
          | _ => none
      match ← TestExpr.eval (.shell s.dialect) ask e with
      | .ok b => Sh.setStatus (if b then 0 else 1)
      | .error t => fail t

end Builtin

end FenceSync.Shell
