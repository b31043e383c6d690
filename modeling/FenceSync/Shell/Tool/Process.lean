import FenceSync.Shell.TimePhrase
import FenceSync.Shell.Quantity
import FenceSync.Shell.Tool.Plain

namespace FenceSync.Shell

/-!
# Programs that run others, wait, or say where they run

* `Tool.env`, `Tool.nice` and `Tool.nohup` run a program in other circumstances.
* `Tool.timeout` ends a program that takes too long, and `Tool.sleep` waits.
* `Tool.date` prints moments.
* `Tool.identity`, `Tool.uname` and the like say where they run.
-/

namespace Tool

/-! ### Running programs -/

/-- Run a program in place; one of these statuses says that there is none. -/
def runProgram (s : Setting) (env : Table Octets Octets) (argv : List Octets) : Prog Nat :=
  s.exec env argv

/-- The words of one text, of which quotes hold some together. -/
def splitWords : Nat → Octets → List Octets
  | 0, _ => []
  | n + 1, t =>
    let t := t.dropWhile Octets.isSpace
    if t.isEmpty then []
    else
      let (w, rest) := word n none [] t
      w :: splitWords n rest
where
  /-- One word; what was read of it is in reverse order, and a quote may be open. -/
  word : Nat → Option Char → Octets → Octets → Octets × Octets
    | 0, _, done, t => (done.reverse, t)
    | _, _, done, [] => (done.reverse, [])
    | n + 1, quote, done, c :: t =>
      match quote with
      | some q => if c = q then word n none done t else word n quote (c :: done) t
      | none =>
        if Octets.isSpace c then (done.reverse, c :: t)
        else if c = '\'' ∨ c = '"' then word n (some c) done t
        else if c = '\\' then match t with
          | d :: t => word n none (d :: done) t
          | [] => (done.reverse, [])
        else word n none (c :: done) t

/-- Arguments with one that is split into several. -/
def envArgs (args : List Octets) : List Octets :=
  match args with
  | ['-', 'S'] :: t :: rest => splitWords (t.length + 1) t ++ rest
  | ('-' :: 'S' :: t) :: rest => splitWords (t.length + 1) t ++ rest
  | ['-'] :: rest => ['-', 'i'] :: rest
  | args => args

/-- Run a program in another environment, or print the environment. -/
def env : Tool := fun s args =>
  withOptions ((OptionSpec.of "0iu:C:v" [("null", "0"), ("ignore-environment", "i"), ("unset", "u"),
    ("chdir", "C"), ("debug", "v"), ("default-signal?", "default"), ("ignore-signal?", "ignore"),
    ("block-signal?", "block"), ("list-signal-handling", "list")]).ordered) 125 (fun s p => do
    let base := if p.has "i" then [] else s.env
    let base := (p.values "u").foldl (fun e n => Table.erase e n) base
    let settings := p.operands.takeWhile fun a => a.contains '='
    let env := settings.foldl (fun (e : Table Octets Octets) a =>
      let name := a.takeWhile (· != '=')
      e.set name (a.drop (name.length + 1))) base
    let ready ← match p.value? "C" with
      | none => pure true
      | some d => do
        match ← Sys.node? true d with
        | some (place, .dir) =>
          Prog.change fun pid k => k.updateProcess pid fun q => { q with dir := place }
          pure true
        | _ => pure false
    if (p.values "u").any fun n => n.isEmpty || n.contains '=' then s.fail 125 "cannot unset"
    else match p.operands.drop settings.length with
      | [] =>
        if p.has "C" then s.fail 125 "a command is needed"
        else
          let stop := if p.has "0" then '\x00' else '\n'
          Sys.printStatus (env.flatMap fun (n, v) => n ++ '=' :: v ++ [stop])
      | argv =>
        if !ready || p.has "0" then s.fail 125 "cannot change directory"
        else runProgram s env argv) s
    (envArgs args)

/-- Print the values of variables. -/
def printenv : Tool :=
  withOptions ((OptionSpec.of "0" [("null", "0")]).ordered) 2 fun s p => do
  let stop := if p.has "0" then '\x00' else '\n'
  if p.operands.isEmpty then
    Sys.printStatus (s.env.flatMap fun (n, v) => n ++ '=' :: v ++ [stop])
  else
    let found := p.operands.map s.env.get?
    discard (Sys.print (found.flatMap fun v => match v with
      | some t => t ++ [stop]
      | none => []))
    return statusOf (found.all Option.isSome)

/-- Run a program with less haste. -/
def nice : Tool := fun s args =>
  let args := match args with
    | ('-' :: d :: ds) :: rest =>
      if d.isDigit || (d == '-' && ds.head?.any Char.isDigit) then
        ('-' :: 'n' :: d :: ds) :: rest else args
    | args => args
  withOptions ((OptionSpec.of "n:" [("adjustment", "n")]).ordered) 125 (fun s p => do
    match (p.value? "n").map Octets.int? with
    | some none => s.fail 125 "invalid adjustment"
    | n => match p.operands with
      | [] => if n.isSome then s.fail 125 "a command is needed" else Sys.printStatus ['0', '\n']
      | argv => runProgram s s.env argv) s args

/-- Run a program that goes on when the terminal is gone. -/
def nohup : Tool := withOptions ((OptionSpec.of "" []).ordered) 125 fun s p => do
  match p.operands with
  | [] => s.fail 125 "missing operand"
  | argv =>
    Prog.change fun pid k => k.updateProcess pid fun q => { q with ignored := 1 :: q.ignored }
    runProgram s s.env argv

/-- Run a program whose output is not kept back. -/
def stdbuf : Tool :=
  let options := OptionSpec.of "i:o:e:" [("input", "i"), ("output", "o"), ("error", "e")]
  withOptions options.ordered 125
    fun s p => do
  if p.given.isEmpty || p.operands.isEmpty then s.fail 125 "missing operand"
  else runProgram s s.env p.operands

/-! ### Time -/

/-- A span of time with a letter for its unit, in microseconds. -/
def span? (t : Octets) : Option Nat :=
  match Quantity.read? t with
  | some (.finite false num den, rest) =>
    let unit : Option Nat := match rest with
      | [] | ['s'] => some 1
      | ['m'] => some 60
      | ['h'] => some 3600
      | ['d'] => some 86400
      | _ => none
    unit.map fun u => num * u * 1000000 / den
  | some (.infinite false, []) => some 1000000000000000000
  | _ => none

/-- Wait. -/
def sleep : Tool := withOptions (OptionSpec.of "" []) 1 fun s p => do
  match p.operands.mapM span? with
  | none => s.fail 1 "invalid time interval"
  | some [] => s.fail 1 "missing operand"
  | some spans =>
    Prog.sleep (spans.foldl (· + ·) 0)
    return 0

/-- Wait for a process until an alarm. -/
def waitUntil (alarm : Nat) (pid : Nat) : Prog (Option Ending) :=
  Prog.awaitUntil alarm none fun _ k => (k.reap? pid).map fun (e, k) => (some e, k)

/-- End a program that takes too long. -/
def timeout : Tool :=
  withOptions ((OptionSpec.of "fk:ps:v" [("foreground", "f"), ("kill-after", "k"),
    ("preserve-status", "p"), ("signal", "s"), ("verbose", "v")]).ordered) 125 fun s p => do
  let sig := match p.value? "s" with
    | none => some Signal.term
    | some t => Signal.ofName? t
  match p.operands, sig, (p.value? "k").map span? with
  | limit :: name :: args, some sig, after =>
    match span? limit with
    | none => s.fail 125 "invalid time interval"
    | some limit =>
      if after = some none then s.fail 125 "invalid time interval"
      else
        let pid ← Prog.fork [] (s.exec s.env (name :: args))
        let now ← Sys.clock
        match ← if limit = 0 then do pure (some (← Sys.waitFor pid))
          else waitUntil (now + limit) pid with
        | some e => return e.status
        | none =>
          discard (Sys.signal pid sig)
          let now ← Sys.clock
          let (e, killed) ← match after with
            | some (some n) => do
              match ← waitUntil (now + n) pid with
              | some e => pure (e, false)
              | none =>
                discard (Sys.signal pid Signal.kill)
                pure (← Sys.waitFor pid, true)
            | _ => do pure (← Sys.waitFor pid, sig == Signal.kill)
          if killed then return 137
          else return if p.has "p" then e.status else 124
  | _, _, _ => s.fail 125 "missing operand"

/-- The formats of `date` with fixed names, which may be shortened. -/
def dateFormat? (p : Parsed) : Option (Option Octets) :=
  let formats (sep dot : String) : List (String × String) :=
    [("date", "%Y-%m-%d"), ("hours", "%Y-%m-%d" ++ sep ++ "%H%:z"),
      ("minutes", "%Y-%m-%d" ++ sep ++ "%H:%M%:z"), ("seconds", "%Y-%m-%d" ++ sep ++ "%H:%M:%S%:z"),
      ("ns", "%Y-%m-%d" ++ sep ++ "%H:%M:%S" ++ dot ++ "%N%:z")]
  let named (fs : List (String × String)) (word : Octets) : Option (Option Octets) :=
    (fs.find? fun e => !word.isEmpty && word.isPrefixOf e.1.toList).map fun e => some e.2.toList
  match p.last? ["I", "R", "rfc-3339"] with
  | none => some none
  | some "R" => some (some "%a, %d %b %Y %H:%M:%S %z".toList)
  | some "I" =>
    let word := (p.value? "I").getD []
    named (formats "T" ",") (if word.isEmpty then "date".toList else word)
  | some _ =>
    let known := (formats " " ".").filter fun e => e.1 ≠ "hours" && e.1 ≠ "minutes"
    named known ((p.value? "rfc-3339").getD [])

/-- Print moments. -/
def date : Tool :=
  withOptions (OptionSpec.of "d:f:I::r:Rs:u" [("date", "d"), ("file", "f"), ("iso-8601", "I"),
    ("reference", "r"), ("rfc-2822", "R"), ("rfc-email", "R"), ("rfc-3339=", "rfc-3339"),
    ("set", "s"), ("universal", "u"), ("utc", "u"), ("debug", "debug"),
    ("resolution", "resolution")]) 1 fun s p => do
  let zone := if p.has "u" then Zone.universal else Zone.ofText (s.env.get? "TZ".toList)
  let now := (← Sys.tree).now
  let formats := p.operands.filterMap fun a => match a with
    | '+' :: f => some f
    | _ => none
  match dateFormat? p with
  | none => s.fail 1 "invalid argument"
  | some named =>
    let usual := "%a %b %e %H:%M:%S %Z %Y".toList
    let format := (formats.head?.or named).getD usual
    let say (m : Int) : Prog Bool := Sys.print (Moment.format zone m format ++ ['\n'])
    if formats.length < p.operands.length || 1 < formats.length || p.has "s" ||
        (!formats.isEmpty && named.isSome) then s.fail 1 "invalid argument"
    else match p.value? "d", p.value? "r", p.value? "f" with
      | some d, none, none => match TimePhrase.read? zone now d with
        | some m => return statusOf (← say m)
        | none => s.fail 1 "invalid date"
      | none, some r, none =>
        match ← Sys.node? true r with
        | some (place, _) => return statusOf (← say (← Sys.timeOf place))
        | none => s.fail 1 "no such file"
      | none, none, some f =>
        match ← Input.content f with
        | .error e =>
          s.complainOf f e
          return 1
        | .ok t =>
          let mut ok := true
          for line in Octets.lines t do
            match TimePhrase.read? zone now line with
            | some m => discard (say m)
            | none =>
              s.complain "invalid date"
              ok := false
          return statusOf ok
      | none, none, none => return statusOf (← say now)
      | _, _, _ => s.fail 1 "options to specify dates are mutually exclusive"

/-! ### Circumstances -/

/-- Print the working directory. -/
def pwd : Tool := withOptions (OptionSpec.of "LP" [("logical", "L"), ("physical", "P")]) 1
    fun s p => do
  let place ← Sys.dir
  let physical := Sys.placeText place
  let shown ← match p.last? ["L", "P"], s.env.get? "PWD".toList with
    | some "L", some t => do
      let same ← match ← Sys.node? true t with
        | some (q, _) => pure (q == place)
        | none => pure false
      let pieces := Octets.fields '/' t
      pure (if same && t.head? == some '/' && !pieces.contains ['.'] &&
        !pieces.contains ['.', '.'] then t else physical)
    | _, _ => pure physical
  Sys.printStatus (shown ++ ['\n'])

/-- There is no terminal. -/
def tty : Tool := withOptions (OptionSpec.of "s" [("silent", "s"), ("quiet", "s")]) 2 fun s p => do
  if !p.operands.isEmpty then s.fail 2 "extra operand"
  else
    if !p.has "s" then discard (Sys.print "not a tty\n".toList)
    return 1

/-- Print one line, if there are no arguments. -/
def sayLine (line : String) : Tool := withOptions (OptionSpec.of "" []) 1 fun s p => do
  if p.operands.isEmpty then Sys.printStatus (line.toList ++ ['\n']) else s.fail 1 "extra operand"

/-- Print who is at work. -/
def identity : Tool :=
  withOptions (OptionSpec.of "agGnruzZ" [("group", "g"), ("groups", "G"), ("name", "n"),
    ("real", "r"), ("user", "u"), ("zero", "z"), ("context", "Z")]) 1 fun s p => do
  let known := p.operands.all fun a => a == "root".toList || a == ['0']
  let kinds := ["g", "G", "u"].filter p.has
  if !known then s.fail 1 "no such user"
  else if 1 < kinds.length || p.has "Z" || (kinds.isEmpty && (p.has "n" || p.has "r")) then
    s.fail 1 "cannot print"
  else if kinds.isEmpty then Sys.printStatus "uid=0(root) gid=0(root) groups=0(root)\n".toList
  else Sys.printStatus ((if p.has "n" then "root".toList else ['0']) ++
    [if p.has "z" then '\x00' else '\n'])

/-- Print the groups of users. -/
def groups : Tool := withOptions (OptionSpec.of "" []) 1 fun s p => do
  if p.operands.all fun a => a == "root".toList then
    Sys.printStatus (if p.operands.isEmpty then "root\n".toList
      else p.operands.flatMap fun a => a ++ " : root\n".toList)
  else s.fail 1 "no such user"

/-- Print what kind of machine this is. -/
def uname : Tool :=
  withOptions (OptionSpec.of "amnrsvpio" [("all", "a"), ("machine", "m"), ("nodename", "n"),
    ("kernel-release", "r"), ("kernel-name", "s"), ("sysname", "s"), ("kernel-version", "v"),
    ("processor", "p"), ("hardware-platform", "i"), ("operating-system", "o")]) 1 fun s p => do
  if !p.operands.isEmpty then s.fail 1 "extra operand"
  else
    let parts : List (String × String) := [("s", "Linux"), ("n", "localhost"), ("r", "6.1.0"),
      ("v", "#1 SMP"), ("m", "x86_64"), ("p", "unknown"), ("i", "unknown"), ("o", "GNU/Linux")]
    let wanted := parts.filter fun e =>
      if p.has "a" then e.2 != "unknown" else p.has e.1 || (p.given.isEmpty && e.1 == "s")
    Sys.printStatus (Octets.join [' '] (wanted.map fun e => e.2.toList) ++ ['\n'])

/-- Print how many processors there are. -/
def nproc : Tool :=
  withOptions (OptionSpec.of "" [("all", "all"), ("ignore=", "ignore")]) 1 fun s p => do
  match ((p.value? "ignore").getD ['0'] |> Octets.nat?), p.operands with
  | some n, [] => Sys.printStatus (Octets.ofNat (max 1 (4 - n)) ++ ['\n'])
  | _, _ => s.fail 1 "invalid argument"

/-- Check that names of files can be used. -/
def pathchk : Tool :=
  withOptions (OptionSpec.of "pP" [("portability", "portability")]) 1 fun s p => do
  let strict := p.has "p" || p.has "portability"
  let wary := p.has "P" || p.has "portability"
  let portable (c : Char) : Bool := c.isAlphanum || "/._-".toList.contains c
  if p.operands.isEmpty then s.fail 1 "missing operand"
  else
    let mut ok := true
    for path in p.operands do
      let names := (Octets.fields '/' path).filter fun n => !n.isEmpty
      let bad := (wary && (path.isEmpty || names.any fun n => n.head? == some '-')) ||
        (strict && (!path.all portable || 255 < path.length || names.any fun n => 14 < n.length)) ||
        (!strict && (path.isEmpty || 4096 ≤ path.length || names.any fun n => 255 < n.length))
      let blocked ← if strict then pure false else do
        match ← Sys.find? true path with
        | .error .notDirectory => pure true
        | _ => pure false
      if bad || blocked then
        s.complain "invalid name"
        ok := false
    return statusOf ok

end Tool

end FenceSync.Shell
