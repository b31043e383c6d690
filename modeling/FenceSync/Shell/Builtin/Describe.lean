import FenceSync.Shell.Builtin.Variable
import FenceSync.Shell.Lookup

namespace FenceSync.Shell

/-!
# What names stand for

* `Meaning` is what a name stands for as that of a command, and `Builtin.meaning` finds it.
* `Builtin.describe` and `Builtin.locate` say it in words or by a path.
-/

/-- What the name of a command stands for. -/
inductive Meaning where
  | shorthand (t : Octets)
  | keyword
  | function
  | special
  | builtin
  | file (path : Octets)
  | nothing
  deriving DecidableEq, Repr

namespace Builtin

/-- The words of the language. -/
def keywords (d : Dialect) : List String :=
  ["!", "case", "do", "done", "elif", "else", "esac", "fi", "for", "if", "in", "then", "until",
    "while", "\x7b", "\x7d"] ++
  if d = .bash then ["[[", "]]", "coproc", "function", "select", "time"] else []

/-- Commands of the shell for which other rules hold. -/
def specialNames : List String :=
  [".", ":", "break", "continue", "eval", "exec", "exit", "export", "readonly", "return", "set",
    "shift", "times", "trap", "unset"]

/-- Further commands of every shell. -/
def commonNames : List String :=
  ["[", "alias", "bg", "cd", "command", "echo", "false", "fg", "getopts", "hash", "jobs", "kill",
    "local", "printf", "pwd", "read", "test", "true", "type", "ulimit", "umask", "unalias", "wait"]

/-- Further commands of one shell. -/
def ownNames (d : Dialect) : List String :=
  match d with
  | .posix => ["chdir"]
  | .bash =>
    ["bind", "builtin", "caller", "compgen", "complete", "compopt", "declare", "dirs", "disown",
      "enable", "fc", "help", "history", "let", "logout", "mapfile", "popd", "pushd", "readarray",
      "shopt", "source", "suspend", "typeset"]

/-- The name is that of a command of the shell for which other rules hold. -/
def isSpecial (d : Dialect) (name : Octets) : Bool :=
  (specialNames ++ if d = .bash then ["source"] else []).any fun n => n.toList == name

/-- The name is that of a command of the shell. -/
def isBuiltin (d : Dialect) (name : Octets) : Bool :=
  (specialNames ++ commonNames ++ ownNames d).any fun n => n.toList == name

/-- The directories that are searched for programs. -/
def searchPath : Sh Octets := do
  return (← Sh.value? "PATH".toList).getD []

/-- What is found under the name of a program. -/
def findProgram (h : Hooks) (name : Octets) : Sh Located := do
  Located.find h.isTool (← searchPath) name

/-- What a name stands for, aliases and functions only if they are asked for. -/
def meaning (h : Hooks) (withFunctions : Bool) (name : Octets) : Sh Meaning := do
  let s ← get
  match if withFunctions then s.aliases.get? name else none with
  | some t => return .shorthand t
  | none =>
    if withFunctions && (keywords s.dialect).any fun k => k.toList == name then return .keyword
    else if withFunctions && s.functions.has name then return .function
    else if isBuiltin s.dialect name then
      return if isSpecial s.dialect name then .special else .builtin
    else match ← findProgram h name with
      | .tool path | .script path => return .file path
      | _ => return .nothing


/-- The line that says what a name stands for. -/
def meaningLine (name : Octets) (m : Meaning) : Sh Octets := do
  let bash ← Sh.isBash
  let text : String := match m with
    | .shorthand t => if bash then s!"is aliased to \x60{Octets.toString t}'"
      else s!"is an alias for {Octets.toString t}"
    | .keyword => "is a shell keyword"
    | .function => if bash then "is a function" else "is a shell function"
    | .special => if bash then "is a shell builtin" else "is a special shell builtin"
    | .builtin => "is a shell builtin"
    | .file path => s!"is {Octets.toString path}"
    | .nothing => "not found"
  let gap := if m = .nothing then ": " else " "
  return name ++ gap.toList ++ text.toList ++ ['\n']

/-- Say what names stand for. -/
def describe : Builtin := fun h _ args => do
  let bash ← Sh.isBash
  let (flags, names) := if bash then options "tpPaf".toList args else ([], args)
  let mut ok := true
  for n in names do
    let m ← if flags.contains 'P' then do
        match ← findProgram h n with
        | .tool path | .script path => pure (Meaning.file path)
        | _ => pure .nothing
      else meaning h (!flags.contains 'f') n
    if m = .nothing then
      ok := false
      if bash then
        if !flags.contains 't' && !flags.contains 'p' && !flags.contains 'P' then
          Sh.complain s!"type: {Octets.toString n}: not found"
      else discard (Sys.print (← meaningLine n m))
    else if flags.contains 't' then
      let word := match m with
        | .shorthand _ => "alias"
        | .keyword => "keyword"
        | .function => "function"
        | .special | .builtin => "builtin"
        | _ => "file"
      discard (Sys.print (word.toList ++ ['\n']))
    else if flags.contains 'p' || flags.contains 'P' then
      match m with
      | .file path => discard (Sys.print (path ++ ['\n']))
      | _ => pure ()
    else discard (Sys.print (← meaningLine n m))
  Sh.setStatus (if ok then 0 else if bash then 1 else 127)

/-- Print how names are found: the name, or the path of a file. -/
def locate (h : Hooks) (inWords : Bool) (names : List Octets) : Sh Unit := do
  let bash ← Sh.isBash
  let mut found := false
  for n in if bash then names else names.take 1 do
    let m ← meaning h true n
    match m with
    | .nothing =>
      if inWords then
        if bash then Sh.complain s!"command: {Octets.toString n}: not found"
        else discard (Sys.print (← meaningLine n m))
    | m =>
      found := true
      if inWords then discard (Sys.print (← meaningLine n m))
      else
        let line := match m with
          | .shorthand t => "alias ".toList ++ n ++ '=' :: singleQuoted bash t
          | .file path => path
          | _ => n
        discard (Sys.print (line ++ ['\n']))
  Sh.setStatus (if found then 0 else if bash then 1 else 127)

end Builtin

end FenceSync.Shell
