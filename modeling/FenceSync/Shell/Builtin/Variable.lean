import FenceSync.Shell.Assignment

namespace FenceSync.Shell

/-!
# Commands on variables

* `Operand` is an argument that may be an assignment.
* `Builtin.declare`, `Builtin.localize`, `Builtin.export` and the like give variables attributes.
* `Builtin.unset` and `Builtin.shift` take variables and arguments away.
-/

/-- An argument of a command that reads some of them as assignments. -/
inductive Operand where
  | text (t : Octets)
  | assign (a : Assign)

/-- The attributes that a command gives to variables. -/
structure Attributes where
  /-- Elements by number. -/
  isList : Bool
  /-- Elements by key. -/
  isMap : Bool
  set : List Char
  cleared : List Char

namespace Attributes

/-- None. -/
def none : Attributes := ⟨false, false, [], []⟩

/-- Take up a letter. -/
def add (a : Attributes) (c : Char) : Attributes :=
  match c with
  | 'a' => { a with isList := true }
  | 'A' => { a with isMap := true }
  | c => { a with set := c :: a.set }

/-- A variable with all but the attribute that it must not change. -/
def shape (a : Attributes) (v : Variable) : Variable :=
  let value := match v.value with
    | .unset => if a.isMap then .map [] else if a.isList then .list [] else .unset
    | .text t => if a.isMap then .map [(['0'], t)] else if a.isList then .list [(0, t)] else .text t
    | value => value
  let has (c : Char) (old : Bool) : Bool := (old || a.set.contains c) && !a.cleared.contains c
  let recase := v.recase.filter fun c => !a.cleared.contains c
  { v with
    value
    number := has 'i' v.number
    exported := has 'x' v.exported
    refers := has 'n' v.refers
    recase :=
      if a.set.contains 'u' then some 'u'
      else if a.set.contains 'l' then some 'l'
      else recase }

end Attributes

/-- What a command of the shell does with its name and arguments. -/
abbrev Builtin := Hooks → Octets → List Octets → Sh Unit

namespace Builtin

/-! ### Printing -/

/-- Print a text; the status says whether that worked. -/
def say (t : Octets) : Sh Unit := do Sh.setStatus (if ← Sys.print t then 0 else 1)

/-- A command was used wrongly: the simpler shell ends then if the command is a special one. -/
def misuse (name : Octets) (special : Bool) (text : String) : Sh Unit := do
  let message := s!"{Octets.toString name}: {text}"
  if !(← Sh.isBash) && special then Sh.fail 2 message
  else
    Sh.complain message
    Sh.setStatus (if ← Sh.isBash then 1 else 2)

/-- Options in front of arguments: letters behind a dash, up to a text that is none. -/
def options (known : List Char) : List Octets → List Char × List Octets
  | [] => ([], [])
  | a :: rest =>
    if a = ['-', '-'] then ([], rest)
    else match a with
      | '-' :: cs =>
        if !cs.isEmpty && cs.all known.contains then
          let (more, args) := options known rest
          (cs ++ more, args)
        else ([], a :: rest)
      | _ => ([], a :: rest)

/-! ### Showing variables -/

/-- A text between double quotes that stands for it. -/
def doubleQuoted (t : Octets) : Octets :=
  if Expand.needsEscapes t || t.any (0x80 ≤ ·.toNat) && (Bytes.text? (Octets.toBytes t)).isNone then
    Expand.quotedWord t
  else
    ['"'] ++ t.flatMap (fun c => if "$\x60\"\\".toList.contains c then ['\\', c] else [c]) ++ ['"']

/-- A declaration that stands for a variable. -/
def declaration (name : Octets) (v : Variable) : Octets :=
  let flags := Expand.attributes v
  let front := "declare -".toList ++ (if flags.isEmpty then ['-'] else flags) ++ ' ' :: name
  match v.value with
  | .unset => front ++ ['\n']
  | .text t => front ++ '=' :: doubleQuoted t ++ ['\n']
  | .list es =>
    let shown := es.map fun e => '[' :: Octets.ofNat e.1 ++ "]=".toList ++ doubleQuoted e.2
    front ++ "=(".toList ++ Octets.join [' '] shown ++ ")\n".toList
  | .map es =>
    let key (t : Octets) : Octets :=
      if !t.isEmpty && t.all (fun c => Octets.inName c || "-./,:+%@".toList.contains c) then t
      else doubleQuoted t
    let shown := (Sh.entriesOf es).map fun e =>
      '[' :: key e.1 ++ "]=".toList ++ doubleQuoted e.2 ++ [' ']
    front ++ "=(".toList ++ shown.flatten ++ ")\n".toList

/-- Variables with some property, by name. -/
def variablesWhere (p : Variable → Bool) : Sh (List (Octets × Variable)) := do
  return ((← get).vars.filter fun e => p e.2).mergeSort fun a b => !Octets.before b.1 a.1

/-- The text between single quotes; how quotes in it are set apart depends on the shell. -/
def singleQuoted (bash : Bool) (t : Octets) : Octets :=
  if bash then Expand.singleQuoted t
  else ['\''] ++ t.flatMap (fun c => if c = '\'' then "'\"'\"'".toList else [c]) ++ ['\'']

/-- A line that would set a variable, for the simpler shell. -/
def assignmentLine (front : String) (name : Octets) (v : Variable) : Octets :=
  front.toList ++ name ++ (match v.text? with
    | some t => '=' :: singleQuoted false t
    | none => []) ++ ['\n']

/-- The text as a word, between quotes only where they are needed. -/
def wordFor (t : Octets) : Octets :=
  if t.isEmpty then "''".toList
  else if t.any (fun c => " \t\n!\"#$&'()*;<>?[\\]^\x60\x7b|\x7d".toList.contains c) ||
      t.head? == some '~' || Expand.needsEscapes t then Expand.quotedWord t
  else t

/-- A line that would set a variable, for the richer shell. -/
def plainLine (name : Octets) (v : Variable) : Octets :=
  match v.value with
  | .text t => name ++ '=' :: wordFor t ++ ['\n']
  | _ => (declaration name v).drop (match Expand.attributes v with
    | [] => 11
    | flags => 10 + flags.length)

/-- Print variables with some property. -/
def sayVariables (front : String) (p : Variable → Bool) : Sh Unit := do
  let found ← variablesWhere p
  if ← Sh.isBash then say (found.flatMap fun e => declaration e.1 e.2)
  else say (found.flatMap fun e => assignmentLine front e.1 e.2)

/-! ### Declaring -/

/-- The name in front of an assignment that an argument holds, whether it is appended, and the
    value. -/
def cutAssignment (t : Octets) : Octets × Bool × Option Octets :=
  match t.span (· != '=') with
  | (name, '=' :: value) =>
    if name.getLast? = some '+' then (name.dropLast, true, some value)
    else (name, false, some value)
  | _ => (t, false, none)

/-- The name and the text between brackets of an element. -/
def cutElement? (t : Octets) : Option (Octets × Octets) :=
  match t.span (· != '[') with
  | (name, '[' :: rest) => if rest.getLast? = some ']' then some (name, rest.dropLast) else none
  | _ => none

/-- Give a variable its attributes, and a value if there is one; whether the name was right. -/
def declareOne (h : Hooks) (a : Attributes) (isLocal : Bool) (o : Operand) : Sh Bool := do
  let (name, element, append, value) := match o with
    | .text t =>
      let (name, append, value) := cutAssignment t
      match cutElement? name with
      | some (base, key) => (base, some key, append, value)
      | none => (name, none, append, value)
    | .assign b => (Sh.assignName b, none, false, none)
  if !Octets.isName name then return false
  else
    if isLocal then Sh.hide name
    let old := (← get).vars.get? name
    let v := a.shape (old.getD (Variable.of .unset))
    -- what must not change keeps its value
    let fixed := old.any (·.fixed)
    modify fun s => { s with vars := s.vars.set name { v with fixed } }
    match o, value, element with
    | .assign b, _, _ => Sh.assign h b
    | .text _, some t, some key => Sh.assignElement name key append t
    | .text _, some t, none =>
      if v.refers && !isLocal then Sh.putVariable name { v with value := .text t }
      else if v.refers then modify fun s =>
        { s with vars := s.vars.set name { v with value := .text t } }
      else match v.value with
        | .list _ | .map _ =>
          match t with
          | '(' :: _ =>
            -- the text of a list
            match Reading.assign? Reading.outer
                (Source.ofOctets .bash (name ++ (if append then ['+', '='] else ['=']) ++ t)) with
            | .ok (some b, _) => Sh.assign h b
            | _ => Sh.assignText name append t
          | t => Sh.assignText name append t
        | _ => Sh.assignText name append t
    | _, _, _ => pure ()
    if a.set.contains 'r' then
      modify fun s => { s with vars := s.vars.modify name fun v => { v with fixed := true } }
    return true

/-- What became of a declaration. -/
inductive Declared where
  | right
  | wrongName
  /-- A variable must not change. -/
  | failed

/-- Give a variable its attributes and a value, if it may change. -/
def declareSafely (h : Hooks) (a : Attributes) (isLocal : Bool) (o : Operand) : Sh Declared := do
  try return if ← declareOne h a isLocal o then .right else .wrongName
  catch j =>
    match j with
    | .giveUp .fixed =>
      Sh.setStatus 1
      return .failed
    | j => throw j

/-- A variable must not be hidden by a local one. -/
def isKept (isLocal : Bool) (o : Operand) : Sh Bool := do
  let name := match o with
    | .text t => (cutAssignment t).1
    | .assign b => Sh.assignName b
  return isLocal && (← Sh.isBash) && ((← get).vars.get? name).any (·.fixed)

/-- Give variables attributes and values. -/
def declareAll (h : Hooks) (name : Octets) (a : Attributes) (isLocal : Bool)
    (os : List Operand) : Sh Unit := do
  Sh.setStatus 0
  let mut ok := true
  for o in os do
    if ← isKept isLocal o then
      ok := false
      Sh.complain s!"{Octets.toString name}: readonly variable"
      Sh.setStatus 1
    else
      match ← declareSafely h a isLocal o with
      | .right => pure ()
      | .wrongName =>
        ok := false
        misuse name true "not a valid name"
      | .failed => ok := false
  if ok then Sh.setStatus 0

/-- Letters behind dashes and plus signs in front of operands, up to one that has none. -/
def declareOptions (a : Attributes) (others : List Char) :
    List Operand → Attributes × List Char × List Operand
  | .text ('-' :: c :: cs) :: rest =>
    if c = '-' ∧ cs = [] then (a, others, rest)
    else
      let a := (c :: cs).foldl (fun a c => if "gpfFt".toList.contains c then a else a.add c) a
      declareOptions a (others ++ c :: cs) rest
  | .text ('+' :: c :: cs) :: rest =>
    declareOptions { a with cleared := c :: cs ++ a.cleared } others rest
  | os => (a, others, os)

/-- The texts of operands. -/
def texts (os : List Operand) : List Octets :=
  os.map fun o => match o with
    | .text t => t
    | .assign a => Sh.assignName a

/-- Declare variables, or show them. -/
def declare (h : Hooks) (name : Octets) (os : List Operand) : Sh Unit := do
  let (a, others, os) := declareOptions .none [] os
  if others.contains 'F' || others.contains 'f' then
    let known := (← get).functions
    if os.isEmpty then
      say ((known.mergeSort fun a b => !Octets.before b.1 a.1).flatMap fun f =>
        "declare -f ".toList ++ f.1 ++ ['\n'])
    else
      let missing := (texts os).any fun n => !known.has n
      say ((texts os).flatMap fun n => if known.has n then n ++ ['\n'] else [])
      if missing then Sh.setStatus 1
  else if os.isEmpty then
    sayVariables "" fun v => (!a.isList || v.value matches .list _) &&
      (!a.isMap || v.value matches .map _) && (!a.set.contains 'x' || v.exported) &&
      (!a.set.contains 'r' || v.fixed) && (!a.set.contains 'i' || v.number)
  else if others.contains 'p' then
    let mut ok := true
    for n in texts os do
      match (← get).vars.get? n with
      | some v => discard (Sys.print (declaration n v))
      | none =>
        ok := false
        Sh.complain s!"{Octets.toString name}: {Octets.toString n}: not found"
    Sh.setStatus (if ok then 0 else 1)
  else
    let isLocal := !(← get).frames.isEmpty && !others.contains 'g'
    declareAll h name a isLocal os

/-- Make variables local to a function. -/
def localize (h : Hooks) (name : Octets) (os : List Operand) : Sh Unit := do
  if (← get).frames.isEmpty then misuse name true "not in a function"
  else if ← Sh.isBash then
    let (a, _, os) := declareOptions .none [] os
    declareAll h name a true os
  else declareAll h name .none true (os.filter fun o => !(o matches .text ['-']))

/-- Export variables, or show those that are. -/
def exportAll (h : Hooks) (name : Octets) (os : List Operand) : Sh Unit := do
  let (a, others, os) := declareOptions .none [] os
  if os.isEmpty then sayVariables "export " fun v => v.exported
  else if others.contains 'n' then
    for n in texts os do
      modify fun s => { s with vars := s.vars.modify n fun v => { v with exported := false } }
    Sh.setStatus 0
  else if others.contains 'f' then Sh.setStatus 0
  else declareAll h name { a with set := ['x'] } false os

/-- Keep variables from changing, or show those that are kept. -/
def fix (h : Hooks) (name : Octets) (os : List Operand) : Sh Unit := do
  let (a, others, os) := declareOptions .none [] os
  if os.isEmpty then sayVariables "readonly " fun v => v.fixed
  else if others.contains 'f' then Sh.setStatus 0
  else declareAll h name (a.add 'r') false os

/-! ### Taking away -/

/-- Forget an element of a variable. -/
def unsetElement (base key : Octets) : Sh Unit := do
  match ← Sh.binding? base with
  | none => pure ()
  | some v =>
    match v.value with
    | .map es => Sh.putValue base (.map (es.erase key))
    | .list es =>
      if key = ['@'] ∨ key = ['*'] then Sh.unset base
      else
        let n ← Sh.computeOrEnd key
        let n := if n < 0 then n + Sh.nextNumber es else n
        if n < 0 then misuse "unset".toList false "bad array subscript"
        else Sh.putValue base (.list (es.filter fun e => (e.1 : Int) != n))
    | _ => Sh.unset base

/-- Forget variables or functions. -/
def unset : Builtin := fun _ name args => do
  let (flags, args) := options ['f', 'v', 'n'] args
  Sh.setStatus 0
  let forgetFunction (n : Octets) : Sh Unit := modify fun s =>
    { s with functions := s.functions.erase n }
  for n in args do
    if flags.contains 'f' then forgetFunction n
    else match cutElement? n with
      | some (base, key) =>
        if ← Sh.isBash then unsetElement base key else misuse name true "bad variable name"
      | none =>
        if !Octets.isName n then misuse name true "bad variable name"
        else
          let old ← Sh.binding? n
          if old.any (·.fixed) && (← Sh.isBash) then
            Sh.complain s!"unset: {Octets.toString n}: cannot unset: readonly variable"
            Sh.setStatus 1
          else if flags.contains 'n' then
            modify fun s => { s with vars := s.vars.erase n }
          else if old.isSome then Sh.unset n
          else if (← Sh.isBash) && !flags.contains 'v' then forgetFunction n

/-- Take arguments of the shell away from the front. -/
def shift : Builtin := fun _ name args => do
  let s ← get
  match args with
  | [] | [_] =>
    match (args.head?.map Octets.nat?).getD (some 1) with
    | some n =>
      if n ≤ s.args.length then
        set { s with args := s.args.drop n }
        Sh.setStatus 0
      else if s.dialect = .bash then Sh.setStatus 1
      else Sh.fail 2 "shift: can't shift that many"
    | none => misuse name true "Illegal number"
  | _ => misuse name true "too many arguments"

/-- Compute expressions; the last one decides the status. -/
def letAll : Builtin := fun _ name args => do
  if args.isEmpty then misuse name false "expression expected"
  else discard (Sh.attempt true do
    let ns ← args.mapM Sh.compute
    Sh.setStatus (if ns.getLast? = some 0 then 1 else 0))

end Builtin

end FenceSync.Shell
