import FenceSync.Shell.System

namespace FenceSync.Shell

/-!
# Programs that need no files

* `Tool` is what such a program does with its arguments.
* `OptionSpec` describes the options of a program, and `OptionSpec.parse?` reads arguments.
* `Input` opens what a program reads, and `Filter` works through it piece by piece.
-/

/-- What a program is given beside its arguments. -/
structure Setting where
  name : Octets
  env : Table Octets Octets
  /-- What another program does. -/
  exec : Table Octets Octets → List Octets → Prog Nat

/-- A program: its status in the end. -/
abbrev Tool := Setting → List Octets → Prog Nat

namespace Setting

/-- Complain. -/
def complain (s : Setting) (text : String) : Prog Unit := Sys.complain s.name text

/-- Why a file cannot be used, in words. -/
def fault (e : FileError) : String :=
  match e with
  | .notFound => "No such file or directory"
  | .notDirectory => "Not a directory"
  | .isDirectory => "Is a directory"
  | .tooManyLinks => "Too many levels of symbolic links"
  | .permissionDenied => "Permission denied"
  | .nameTooLong => "File name too long"
  | .exists => "File exists"
  | .noSpace => "No space left on device"
  | .notEmpty => "Directory not empty"
  | _ => "Bad file descriptor"

/-- Complain about a file. -/
def complainOf (s : Setting) (path : Octets) (e : FileError) : Prog Unit :=
  Sys.complainOf s.name path (fault e)

/-- Complain and end with a status. -/
def fail (s : Setting) (status : Nat) (text : String) : Prog Nat := do
  s.complain text
  return status

end Setting

/-! ### Options -/

/-- Whether an option has an argument. -/
inductive OptionKind where
  | plain
  | required
  | optional
  deriving DecidableEq, Repr

/-- The options of a program. -/
structure OptionSpec where
  short : List (Char × OptionKind)
  /-- Long names, and what they are kept as. -/
  long : List (String × OptionKind × String)
  /-- No option follows the first other argument. -/
  inOrder : Bool

/-- Options as they were given, and the other arguments. -/
structure Parsed where
  given : List (String × Octets)
  operands : List Octets
  deriving Repr, Inhabited

namespace OptionSpec

/-- The letters of options; a colon follows those with an argument, two if it may be missing. -/
def letters : List Char → List (Char × OptionKind)
  | [] => []
  | c :: ':' :: ':' :: cs => (c, .optional) :: letters cs
  | c :: ':' :: cs => (c, .required) :: letters cs
  | c :: cs => (c, .plain) :: letters cs

/-- A description from letters and long names.  A long name stands for a letter, whose argument it
    has, or for itself; it ends in `=` if it has an argument then, and in `?` if that may be
    missing. -/
def of (short : String) (long : List (String × String)) : OptionSpec :=
  let short := letters short.toList
  let long := long.map fun (name, key) =>
    match name.toList.reverse with
    | '=' :: r => (String.ofList r.reverse, OptionKind.required, key)
    | '?' :: r => (String.ofList r.reverse, .optional, key)
    | _ => (name, match key.toList with
      | [c] => (short.lookup c).getD .plain
      | _ => .plain, key)
  ⟨short, long, false⟩

/-- The same options, none of which follows the first other argument. -/
def ordered (o : OptionSpec) : OptionSpec := { o with inOrder := true }

/-- The long option that a name or the start of one stands for. -/
def long? (o : OptionSpec) (name : Octets) : Option (OptionKind × String) :=
  match o.long.find? fun e => e.1.toList == name with
  | some e => some e.2
  | none =>
    match o.long.filter fun e => name.isPrefixOf e.1.toList with
    | e :: rest => if rest.all fun f => f.2.2 == e.2.2 then some e.2 else none
    | [] => none

/-- Read arguments in at most so many steps; options and other arguments so far are in reverse
    order. -/
def parseFrom (o : OptionSpec) : Nat → List (String × Octets) → List Octets → List Octets →
    Option Parsed
  | 0, _, _, _ => none
  | _ + 1, given, others, [] => some ⟨given.reverse, others.reverse⟩
  | n + 1, given, others, a :: rest =>
    match a with
    | ['-', '-'] => some ⟨given.reverse, others.reverse ++ rest⟩
    | '-' :: '-' :: name =>
      let (name, value) := match name.span (· != '=') with
        | (name, '=' :: value) => (name, some value)
        | (name, _) => (name, none)
      match o.long? name with
      | none => none
      | some (kind, key) =>
        match kind, value with
        | .plain, some _ => none
        | .required, none =>
          match rest with
          | v :: rest => parseFrom o n ((key, v) :: given) others rest
          | [] => none
        | _, value => parseFrom o n ((key, value.getD []) :: given) others rest
    | '-' :: c :: cs =>
      match o.short.lookup c with
      | none => none
      | some kind =>
        let key := String.ofList [c]
        match kind with
        | .plain =>
          let rest := if cs.isEmpty then rest else ('-' :: cs) :: rest
          parseFrom o n ((key, []) :: given) others rest
        | .optional => parseFrom o n ((key, cs) :: given) others rest
        | .required =>
          if !cs.isEmpty then parseFrom o n ((key, cs) :: given) others rest
          else match rest with
            | v :: rest => parseFrom o n ((key, v) :: given) others rest
            | [] => none
    | a =>
      if o.inOrder then some ⟨given.reverse, others.reverse ++ a :: rest⟩
      else parseFrom o n given (a :: others) rest

/-- Read arguments. -/
def parse? (o : OptionSpec) (args : List Octets) : Option Parsed :=
  parseFrom o ((args.map List.length).foldl (· + ·) 0 + args.length + 1) [] [] args

end OptionSpec

namespace Parsed

/-- An option was given. -/
def has (p : Parsed) (key : String) : Bool := p.given.any fun e => e.1 == key

/-- The argument of an option, the last time it was given. -/
def value? (p : Parsed) (key : String) : Option Octets := p.given.reverse.lookup key

/-- The arguments of an option. -/
def values (p : Parsed) (key : String) : List Octets :=
  (p.given.filter fun e => e.1 == key).map (·.2)

/-- Which of some options was given last. -/
def last? (p : Parsed) (keys : List String) : Option String :=
  (p.given.reverse.find? fun e => keys.contains e.1).map (·.1)

/-- The number that is the argument of an option. -/
def nat? (p : Parsed) (key : String) : Option Nat := (p.value? key).bind Octets.nat?

/-- The other arguments, or the standard input if there are none. -/
def files (p : Parsed) : List Octets := if p.operands.isEmpty then [['-']] else p.operands

end Parsed

/-- Run a program with its options read; a wrong one ends it with a status. -/
def withOptions (spec : OptionSpec) (status : Nat) (body : Setting → Parsed → Prog Nat) : Tool :=
  fun s args =>
    match spec.parse? args with
    | some p => body s p
    | none => s.fail status "invalid option"

/-! ### Input -/

namespace Input

/-- The descriptor of a file; of the standard input for a dash. -/
def openAt (path : Octets) : Prog (Except FileError Nat) := do
  if path = ['-'] then
    return if (← Sys.openedAt? 0).isSome then .ok 0 else .error FileFault.badDescriptor
  else Sys.openFile path .read

/-- Close what was opened. -/
def close (fd : Nat) : Prog Unit := if fd = 0 then pure () else Sys.close fd

/-- What a descriptor is read from. -/
inductive Kind where
  | regular
  | directory
  | stream
  deriving DecidableEq, Repr

/-- What a descriptor is read from. -/
def kind (fd : Nat) : Prog Kind := Prog.look fun pid k =>
  match k.file? pid fd with
  | some ⟨.file _, _, _⟩ | some ⟨.nameless _, _, _⟩ => .regular
  | some ⟨.dir _, _, _⟩ => .directory
  | _ => .stream

/-- What is to be read is also the regular file that is printed to. -/
def isOutput (fd : Nat) : Prog Bool := Prog.look fun pid k =>
  match k.file? pid fd, k.file? pid 1 with
  | some i, some o =>
    i.channel == o.channel && i.offset < ((k.content? i.channel).getD []).length
  | _, _ => false

/-- The content of a file, or of the standard input for a dash. -/
def content (path : Octets) : Prog (Except FileError Octets) := do
  match ← openAt path with
  | .error e => return .error e
  | .ok fd =>
    let t ← Sys.readAll fd
    close fd
    return t

/-- The contents of files; those that cannot be read are complained about and left out. -/
def contents (s : Setting) (paths : List Octets) : Prog (List (Octets × Octets) × Bool) := do
  let mut found : List (Octets × Octets) := []
  let mut ok := true
  for path in paths do
    match ← content path with
    | .ok t => found := (path, t) :: found
    | .error e =>
      s.complainOf path e
      ok := false
  return (found.reverse, ok)

/-- The contents of files one after the other. -/
def joined (s : Setting) (paths : List Octets) : Prog (Octets × Bool) := do
  let (found, ok) ← contents s paths
  return ((found.map (·.2)).flatten, ok)

end Input

/-! ### Filters -/

/-- Work on a text that comes piece by piece. -/
structure Filter (σ : Type) where
  /-- What a piece gives. -/
  step : σ → Octets → Octets × σ
  /-- What is printed at the end. -/
  finish : σ → Octets

namespace Filter

/-- How many blocks are read at most. -/
def blockLimit : Nat := 1000000000

/-- Cut complete records off a text; the rest. -/
def cutRecords (stop : Char) : List Octets → Octets → Octets → List Octets × Octets
  | done, current, [] => (done.reverse, current.reverse)
  | done, current, c :: t =>
    if c = stop then cutRecords stop ((c :: current).reverse :: done) [] t
    else cutRecords stop done (c :: current) t

/-- Work through pieces, collecting what they give. -/
def steps {σ : Type} (f : Filter σ) : σ → List Octets → List Octets → List Octets × σ
  | st, out, [] => (out, st)
  | st, out, p :: ps =>
    let (t, st) := f.step st p
    steps f st (t :: out) ps

/-- Work through a descriptor record by record, in at most so many blocks, given the start of a
    record that was read before. -/
def overRecords {σ : Type} (f : Filter σ) (stop : Char) (fd : Nat) : Nat → Octets → σ →
    Prog (Octets × σ)
  | 0, rest, st => return (rest, st)
  | n + 1, rest, st => do
    match ← Sys.read fd Sys.blockSize with
    | .ok [] | .error _ => return (rest, st)
    | .ok t =>
      let (records, rest) := cutRecords stop [] rest.reverse t
      let (out, st) := f.steps st [] records
      let text := out.reverse.flatten
      if text.isEmpty then overRecords f stop fd n rest st
      else
        discard (Sys.print text)
        overRecords f stop fd n rest st

/-- How far a filter has come. -/
structure Progress (σ : Type) where
  /-- The start of a record that is not complete yet. -/
  rest : Octets
  /-- What is still to be printed, in reverse order. -/
  kept : List Octets
  /-- All files could be read. -/
  ok : Bool
  state : σ

namespace Progress

/-- Nothing has been read. -/
def start {σ : Type} (state : σ) : Progress σ := ⟨[], [], true, state⟩

/-- The text has come to its end. -/
def complete {σ : Type} (p : Progress σ) (f : Filter σ) : Progress σ :=
  let (t, state) := if p.rest.isEmpty then ([], p.state) else f.step p.state p.rest
  { p with rest := [], kept := f.finish state :: t :: p.kept, state }

/-- Print what is still to be printed. -/
def flush {σ : Type} (p : Progress σ) : Prog (Progress σ) := do
  let t := p.kept.reverse.flatten
  if !t.isEmpty then discard (Sys.print t)
  return { p with kept := [] }

end Progress

/-- Work through one more file record by record.  What a regular file gives is only kept, so that a
    file which is read and written at once ends where it did. -/
def overFile {σ : Type} (f : Filter σ) (stop : Char) (s : Setting) (p : Progress σ)
    (path : Octets) : Prog (Progress σ) := do
  match ← Input.openAt path with
  | .error e =>
    s.complainOf path e
    return { p with ok := false }
  | .ok fd =>
    match ← Input.kind fd with
    | .directory =>
      s.complainOf path .isDirectory
      Input.close fd
      return { p with ok := false }
    | .regular =>
      let t := (← Sys.readAll fd).toOption.getD []
      Input.close fd
      let (records, rest) := cutRecords stop [] p.rest.reverse t
      let (kept, state) := f.steps p.state p.kept records
      return { p with rest, kept, state }
    | .stream =>
      let p ← p.flush
      let (rest, state) ← overRecords f stop fd blockLimit p.rest p.state
      Input.close fd
      return { p with rest, state }

/-- Work through files record by record, each with an end of its own; whether all could be read. -/
def overEach {σ : Type} (f : Filter σ) (stop : Char) (s : Setting) (start : σ)
    (paths : List Octets) : Prog Bool := do
  let p ← paths.foldlM (fun p path => do return (← overFile f stop s p path).complete f)
    (Progress.start start)
  return (← p.flush).ok

/-- Run a filter over files, which are one text, as a program. -/
def run {σ : Type} (f : Filter σ) (stop : Char) (s : Setting) (paths : List Octets) (start : σ) :
    Prog Nat := do
  let p ← paths.foldlM (overFile f stop s) (Progress.start start)
  return if (← (p.complete f).flush).ok then 0 else 1

end Filter

/-- A filter that works on each record alone. -/
def Filter.ofMap (f : Octets → Octets) : Filter Unit := ⟨fun _ t => (f t, ()), fun _ => []⟩

/-- The status of a program that went well or not. -/
def statusOf (ok : Bool) : Nat := if ok then 0 else 1

/-- The record without its end, and the end. -/
def cutEnd (stop : Char) (t : Octets) : Octets × Octets :=
  if t.getLast? = some stop then (t.dropLast, [stop]) else (t, [])

end FenceSync.Shell
