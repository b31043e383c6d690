import FenceSync.Character.Recase
import FenceSync.Shell.Pattern
import FenceSync.Shell.Script
import FenceSync.Shell.System

namespace FenceSync.Shell

/-!
# The state of a shell

* `Variable` is a variable with its attributes, and `Value` what it holds.
* `State` is everything that a shell remembers.
* `Sh` is the monad in which shells are written: on top of a process there is a state, and commands
  can end early by a `Jump`.
-/

/-! ### Variables -/

/-- What a variable holds. -/
inductive Value where
  | unset
  | text (t : Octets)
  /-- Elements by number, in order. -/
  | list (es : List (Nat × Octets))
  /-- Elements by key. -/
  | map (es : Table Octets Octets)
  deriving DecidableEq, Repr, Inhabited

/-- A variable. -/
structure Variable where
  value : Value
  exported : Bool
  fixed : Bool
  /-- What is assigned is computed. -/
  number : Bool
  /-- What is assigned is written in capital (`u`) or small (`l`) letters. -/
  recase : Option Char
  /-- The value is the name of the variable that is meant. -/
  refers : Bool
  deriving DecidableEq, Repr, Inhabited

namespace Variable

/-- A variable without attributes. -/
def of (v : Value) : Variable := ⟨v, false, false, false, none, false⟩

/-- The value as a text; of a list, that of its first element. -/
def text? (v : Variable) : Option Octets :=
  match v.value with
  | .unset => none
  | .text t => some t
  | .list es => es.lookup 0
  | .map es => es.get? ['0']

end Variable

/-- Put an element into a list. -/
def insertElement (n : Nat) (t : Octets) : List (Nat × Octets) → List (Nat × Octets)
  | [] => [(n, t)]
  | e :: es =>
    if n < e.1 then (n, t) :: e :: es
    else if n = e.1 then (n, t) :: es
    else e :: insertElement n t es

/-! ### Events -/

namespace Event

/-- A command has failed. -/
def failure : Signal := 1000

/-- A command is about to run. -/
def command : Signal := 1001

/-- A function ends. -/
def back : Signal := 1002

/-- The number stands for an event, not for a signal. -/
def isEvent (n : Signal) : Bool := 1000 ≤ n

/-- What is run on the event is not run in functions and copies of the shell, unless a flag says
    so. -/
def isHidden (flags : List Char) (n : Signal) : Bool :=
  isEvent n && !flags.contains (if n = failure then 'E' else 'T')

end Event

/-! ### Shells -/

/-- A process that a shell has started in the background. -/
structure Job where
  pid : Nat
  /-- The status, once it is known. -/
  status : Option Nat
  text : Octets
  deriving DecidableEq, Repr

/-- Everything that a shell remembers. -/
structure State where
  dialect : Dialect
  name : Octets
  args : List Octets
  vars : Table Octets Variable
  /-- What local variables hide, the innermost call first. -/
  frames : List (Table Octets (Option Variable))
  functions : Table Octets Command
  /-- The functions that run, the innermost one first. -/
  calls : List Octets
  /-- How many scripts are being read by others. -/
  sourcing : Nat
  aliases : Table Octets Octets
  flags : List Char
  /-- Options with long names. -/
  options : List String
  status : Nat
  /-- The status of the last command whose output was captured. -/
  captureStatus : Nat
  pipeStatus : List Nat
  lastJob : Option Nat
  jobs : List Job
  /-- The number of the process that started the shell. -/
  pid : Nat
  /-- Failures do not end the shell. -/
  guarded : Bool
  loops : Nat
  traps : Table Signal Octets
  /-- The number of the argument whose options are read next. -/
  optionIndex : Nat
  /-- How far the options in an argument are read. -/
  optionAt : Nat
  line : Nat
  random : Nat
  lastArg : Octets
  dirs : List Octets
  /-- Files for the output or input of commands, to be closed. -/
  streams : List Nat
  /-- The number of the next descriptor kept aside. -/
  aside : Nat

/-- Why a line is given up. -/
inductive Trouble where
  /-- What was to be computed is no number. -/
  | number
  /-- A variable must not change: a command that sets it just fails. -/
  | fixed
  /-- A word cannot be expanded. -/
  | word
  deriving DecidableEq, Repr, Inhabited

/-- Why a command ends early. -/
inductive Jump where
  /-- Leave so many loops. -/
  | leave (n : Nat)
  /-- Go on with the next round of the loop so many levels out. -/
  | next (n : Nat)
  /-- End the function. -/
  | back
  /-- Give up the line that is run. -/
  | giveUp (why : Trouble)
  /-- End the shell. -/
  | quit
  deriving DecidableEq, Repr, Inhabited

/-- What a shell does. -/
abbrev Sh := ExceptT Jump (StateT State Prog)

instance {α : Type} : Inhabited (Sh α) := ⟨throw .quit⟩

namespace Sh

/-- A step of the process. -/
def lift {α : Type} (p : Prog α) : Sh α := ExceptT.lift (StateT.lift p)

instance : MonadLift Prog Sh := ⟨lift⟩

/-- Set the status. -/
def setStatus (n : Nat) : Sh Unit := modify fun s => { s with status := n }

/-- The dialect knows more than the usual commands. -/
def isBash : Sh Bool := do return (← get).dialect == .bash

/-- A flag is set. -/
def flag (c : Char) : Sh Bool := do return (← get).flags.contains c

/-- An option with a long name is set. -/
def option (name : String) : Sh Bool := do return (← get).options.contains name

/-- Write a message of the shell. -/
def complain (text : String) : Sh Unit := do
  let s ← get
  let place := if s.dialect = .bash then s!": line {s.line}: " else s!": {s.line}: "
  discard (Sys.write 2 (s.name ++ place.toList ++ text.toList ++ ['\n']))

/-- End the shell with a status, because of an error. -/
def fail {α : Type} (status : Nat) (text : String) : Sh α := do
  complain text
  setStatus status
  throw .quit

/-- Give up what is run, because of an error: the line, or in the simpler shell all. -/
def giveUp {α : Type} (why : Trouble) (text : String) : Sh α := do
  if ← isBash then
    complain text
    setStatus 1
    throw (.giveUp why)
  else fail 2 text

/-- Do something that just fails if a variable must not change, or if it is given up at all; whether
    it did not. -/
def attempt (always : Bool) (body : Sh Unit) : Sh Bool := do
  try
    body
    return true
  catch j =>
    match j with
    | .giveUp why =>
      if !always && why ≠ .fixed then throw j
      setStatus 1
      return false
    | j => throw j

/-! ### Characters -/

/-- An octet of a text that is no UTF-8, as a character that texts do not use. -/
def strayChar (c : Char) : Char :=
  if c.toNat < 0x80 then c else Char.ofNat (0x10FE00 + c.toNat)

/-- The octets of a character. -/
def octetsOf (c : Char) : Octets :=
  if 0x10FE80 ≤ c.toNat ∧ c.toNat ≤ 0x10FEFF then [Char.ofNat (c.toNat - 0x10FE00)]
  else Octets.ofText [c]

/-- A text by characters, not octets, where the dialect knows them. -/
def characters (t : Octets) : Sh Text := do
  if ← isBash then
    if t.all (·.toNat < 0x80) then return t
    else return (Bytes.text? (Octets.toBytes t)).getD (t.map strayChar)
  else return t

/-- The octets of what was taken from a text by characters. -/
def octets (t : Text) : Sh Octets := do
  if ← isBash then
    if t.all (·.toNat < 0x80) then return t else return t.flatMap octetsOf
  else return t

/-- Change the case of each character. -/
def recase (f : Char → Char) (t : Octets) : Sh Octets := do octets ((← characters t).map f)

/-! ### Variables -/

/-- The variable that is meant by a name, through at most so many references. -/
def resolve : Nat → State → Octets → Octets
  | 0, _, name => name
  | n + 1, s, name =>
    match s.vars.get? name with
    | some v =>
      match v.refers, v.value with
      | true, .text t => resolve n s t
      | _, _ => name
    | none => name

/-- The variable with a name. -/
def binding? (name : Octets) : Sh (Option Variable) := do
  let s ← get
  return s.vars.get? (resolve 8 s name)

/-- The next arbitrary number. -/
def nextRandom : Sh Nat := do
  let s ← get
  let n := (s.random * 1103515245 + 12345) % 2147483648
  set { s with random := n }
  return n / 65536 % 32768

/-- The value of a variable that the shell makes up when it is asked for. -/
def madeUp? (name : Octets) : Sh (Option Octets) := do
  let s ← get
  if s.dialect ≠ .bash then return none
  else match Octets.toString name with
    | "RANDOM" => return some (Octets.ofNat (← nextRandom))
    | "SECONDS" => return some (Octets.ofNat ((← Sys.clock) / 1000000))
    | "LINENO" => return some (Octets.ofNat s.line)
    | "BASHPID" => return some (Octets.ofNat (← Sys.self))
    | _ => return none

/-- The value of a variable as a text. -/
def value? (name : Octets) : Sh (Option Octets) := do
  match ← madeUp? name with
  | some t => return some t
  | none => return (← binding? name).bind Variable.text?

/-- Set a variable without regard to its attributes. -/
def putVariable (name : Octets) (v : Variable) : Sh Unit := modify fun s =>
  { s with vars := s.vars.set (resolve 8 s name) v }

/-- The variable with a name, or a new one. -/
def variableOrNew (name : Octets) : Sh Variable := do
  return (← binding? name).getD (Variable.of .unset)

/-- Fail because a variable must not change. -/
def failFixed {α : Type} (name : Octets) : Sh α := do
  let name := Octets.toString name
  giveUp .fixed (if ← isBash then s!"{name}: readonly variable" else s!"{name}: is read only")

/-- Set the value of a variable. -/
def putValue (name : Octets) (v : Value) : Sh Unit := do
  let x ← variableOrNew name
  if x.fixed then failFixed name
  let exported := x.exported || (← flag 'a')
  putVariable name { x with value := v, exported }

/-- Set the value of a variable to a text; of a list, that of its first element. -/
def putText (name t : Octets) : Sh Unit := do
  let x ← variableOrNew name
  let t ← match x.recase with
    | some 'u' => recase capitalOf t
    | some _ => recase smallOf t
    | none => pure t
  match x.value with
  | .list es => putValue name (.list (insertElement 0 t es))
  | .map es => putValue name (.map (es.set ['0'] t))
  | _ => putValue name (.text t)
  if name = "OPTIND".toList then
    modify fun s => { s with optionAt := 0, optionIndex := max ((Octets.nat? t).getD 1) 1 }

/-- Forget a variable. -/
def unset (name : Octets) : Sh Unit := do
  match ← binding? name with
  | some v =>
    if v.fixed then failFixed name
    else modify fun s => { s with vars := s.vars.erase (resolve 8 s name) }
  | none => pure ()

/-- Make a variable local to the function that runs. -/
def hide (name : Octets) : Sh Unit := modify fun s =>
  match s.frames with
  | [] => s
  | f :: fs =>
    if f.has name then s
    else
      let kept := s.vars.get? name
      let vars := if s.dialect = .bash then s.vars.erase name else s.vars
      { s with frames := f.set name kept :: fs, vars }

/-- Bring back what local variables have hidden. -/
def restoreFrame : Sh Unit := modify fun s =>
  match s.frames with
  | [] => s
  | f :: fs =>
    { s with
      frames := fs
      vars := f.foldl (fun vars e => match e.2 with
        | some v => vars.set e.1 v
        | none => vars.erase e.1) s.vars }

/-- The environment of programs. -/
def environment : Sh (Table Octets Octets) := do
  return (← get).vars.filterMap fun e =>
    if e.2.exported then match e.2.value with
      | .text t => some (e.1, t)
      | _ => none
    else none

/-- The characters at which fields are split. -/
def separators : Sh Octets := do return (← value? "IFS".toList).getD " \t\n".toList

/-! ### Patterns -/

/-- A pattern by characters. -/
def pattern (extended : Bool) (w : Marked) : Sh (List Pattern) := do
  if (← isBash) && w.any (fun c => 0x80 ≤ c.1.toNat) then
    -- quoting is the same for all octets of a character
    match Bytes.text? (Octets.toBytes (Marked.text w)) with
    | none => return Pattern.ofMarked extended w
    | some t =>
      let marks := w.filter fun c => c.1.toNat < 0x80 || 0xC0 ≤ c.1.toNat
      return Pattern.ofMarked extended (List.zipWith (fun c m => (c, m.2)) t marks)
  else return Pattern.ofMarked extended w

end Sh

end FenceSync.Shell
