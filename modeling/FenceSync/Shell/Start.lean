import FenceSync.Shell.Evaluate
import FenceSync.Shell.Lookup

namespace FenceSync.Shell

/-!
# Starting shells

* `Invocation` is what the arguments of a shell ask for.
* `Start.shell` is a shell as a program.
-/

/-- What the arguments of a shell ask for. -/
structure Invocation where
  /-- The first other argument is a script by itself. -/
  command : Bool
  /-- The script comes from the standard input. -/
  fromInput : Bool
  flags : List Char
  options : List String
  rest : List Octets
  deriving Inhabited

namespace Invocation

/-- Read arguments, in at most so many steps. -/
def read (d : Dialect) : Nat → Invocation → List Octets → Option Invocation
  | 0, v, args => some { v with rest := args }
  | _ + 1, v, [] => some v
  | n + 1, v, a :: rest =>
    if a = ['-', '-'] ∨ a = ['-'] then some { v with rest }
    else match a with
      | '-' :: '-' :: name =>
        if d = .posix then none
        else match Octets.toString name with
          | "rcfile" | "init-file" => read d n v (rest.drop 1)
          | _ => read d n v rest
      | mark :: cs =>
        if (mark ≠ '-' ∧ mark ≠ '+') ∨ cs.isEmpty then some { v with rest := a :: rest }
        else
          let letters := cs.filter fun c => !"coOsl".toList.contains c
          if letters.any fun c => !(Builtin.knownFlags d).contains c then none
          else
            let flags := if mark = '-' then
                v.flags.filter (fun c => !letters.contains c) ++ letters
              else v.flags.filter fun c => !letters.contains c
            let v := { v with
              flags, command := v.command || cs.contains 'c'
              fromInput := v.fromInput || cs.contains 's' }
            let named := cs.contains 'o' || cs.contains 'O'
            if !named then read d n v rest
            else match rest with
              | [] => some v
              | name :: rest =>
                let text := Octets.toString name
                match if cs.contains 'o' then (Builtin.flagNames d).lookup text else none with
                | some c => read d n { v with flags := v.flags ++ [c] } rest
                | none => read d n { v with options := v.options ++ [text] } rest
      | [] => some { v with rest := a :: rest }

end Invocation

namespace Start

/-- Variables that a shell sets when it starts. -/
def startVariables (d : Dialect) (pwd : Octets) (parent : Nat) : Table Octets Variable :=
  let plain (name : String) (t : Octets) : Octets × Variable := (name.toList, Variable.of (.text t))
  [plain "IFS" [' ', '\t', '\n'], plain "OPTIND" ['1'], plain "PPID" (Octets.ofNat parent),
    ("PWD".toList, { Variable.of (.text pwd) with exported := true })] ++
  match d with
  | .posix => [plain "PS1" "# ".toList, plain "PS2" "> ".toList, plain "PS4" "+ ".toList]
  | .bash => [
    plain "PS4" "+ ".toList, plain "BASH" "/usr/bin/bash".toList,
    plain "BASH_VERSION" "5.2.15(1)-release".toList, plain "HOSTTYPE" "x86_64".toList,
    plain "OSTYPE" "linux-gnu".toList, plain "MACHTYPE" "x86_64-pc-linux-gnu".toList,
    { (plain "UID" ['0']) with }, plain "EUID" ['0'], plain "OPTERR" ['1']]

/-- The state of a shell that starts in an environment. -/
def initial (d : Dialect) (v : Invocation) (env : Table Octets Octets) (pwd : Octets)
    (pid parent : Nat) : State where
  dialect := d
  name := []
  args := []
  vars :=
    let imported := env.filterMap fun e =>
      if Octets.isName e.1 then some (e.1, { Variable.of (.text e.2) with exported := true })
      else none
    let path := if imported.any fun e => e.1 == "PATH".toList then []
      else [("PATH".toList, Variable.of (.text Located.usualPath))]
    let own := startVariables d pwd parent
    (imported.filter fun e => !own.any fun o => o.1 == e.1) ++ own ++ path
  frames := []
  functions := []
  calls := []
  sourcing := 0
  aliases := []
  flags := v.flags
  options := v.options
  status := 0
  captureStatus := 0
  pipeStatus := [0]
  lastJob := none
  jobs := []
  pid := pid
  guarded := false
  loops := 0
  traps := []
  optionIndex := 1
  optionAt := 0
  line := 1
  random := pid
  lastArg := []
  dirs := []
  streams := []
  aside := 0

/-- A shell as a program. -/
def shell (d : Dialect) (h : Hooks) (env : Table Octets Octets) (argv : List Octets) :
    Prog Nat := do
  let name := argv.headD []
  match Invocation.read d (argv.length + 1) default (argv.drop 1) with
  | none =>
    Sys.complain name "illegal option"
    return 2
  | some v =>
    let pid ← Sys.self
    let parent ← Prog.look fun pid k => (k.process pid).parent
    let pwd := Sys.placeText (← Sys.dir)
    -- a path that leads to the working directory is kept
    let pwd ← match env.get? "PWD".toList with
      | some t =>
        if t.head? ≠ some '/' then pure pwd
        else match ← Sys.node? true t with
          | some (place, _) => do pure (if place = (← Sys.dir) then t else pwd)
          | none => pure pwd
      | none => pure pwd
    let s := initial d v env pwd pid parent
    if v.command then
      match v.rest with
      | [] =>
        Sys.complain name "-c requires an argument"
        return 2
      | text :: rest =>
        let s := { s with name := rest.headD name, args := rest.drop 1 }
        Sh.toProg h s (Sh.runText h true text)
    else
      match if v.fromInput then none else v.rest.head? with
      | some file =>
        match ← Sys.readFile file with
        | .error e =>
          Sys.complainOf name file (match e with
            | .isDirectory => "Is a directory"
            | _ => "No such file or directory")
          return match e, d with
            | .isDirectory, .bash => 126
            | .isDirectory, .posix => 2
            | _, .bash => 127
            | _, .posix => 2
        | .ok text =>
          let s := { s with name := file, args := v.rest.drop 1 }
          Sh.toProg h s (Sh.runText h false text)
      | none =>
        match ← Sys.readAll 0 with
        | .error _ => return 0
        | .ok text =>
          let s := { s with name, args := v.rest }
          Sh.toProg h s (Sh.runText h false text)

end Start

end FenceSync.Shell
