import FenceSync.Shell.Builtin.Variable

namespace FenceSync.Shell

/-!
# Commands that read

* `Builtin.read` reads a line and splits it over variables.
* `Builtin.readLines` reads lines into a list.
* `Builtin.getopts` goes through the options among arguments.
-/

namespace Builtin

/-! ### Splitting a line -/

/-- The character is one that fields end at, and white space. -/
def isSpaceIn (separators : Octets) (c : Char × Bool) : Bool :=
  !c.2 && separators.contains c.1 && (Octets.isBlank c.1 || c.1 == '\n')

/-- The character is one that fields end at. -/
def endsField (separators : Octets) (c : Char × Bool) : Bool :=
  !c.2 && separators.contains c.1

/-- What follows the separator that a text starts with: white space, and one other character. -/
def afterSeparator (separators : Octets) (t : Marked) : Marked :=
  let t := t.dropWhile (isSpaceIn separators)
  match t with
  | c :: rest =>
    if endsField separators c then rest.dropWhile (isSpaceIn separators) else t
  | [] => []

/-- The first field of a text, and what follows its separator. -/
def cutField (separators : Octets) (t : Marked) : Marked × Marked :=
  let field := t.takeWhile fun c => !endsField separators c
  (field, afterSeparator separators (t.drop field.length))

/-- The text without white space at its end. -/
def trimEnd (separators : Octets) (t : Marked) : Marked :=
  (t.reverse.dropWhile (isSpaceIn separators)).reverse

/-- Texts for so many variables; the last one gets all that is left. -/
def splitOver (separators : Octets) : Nat → Marked → List Octets
  | 0, _ => []
  | 1, t =>
    let (field, rest) := cutField separators t
    if rest.isEmpty then [Marked.text field] else [Marked.text (trimEnd separators t)]
  | n + 1, t =>
    let (field, rest) := cutField separators t
    Marked.text field :: splitOver separators n rest

/-! ### Reading -/

/-- The characters of a line, of which those behind a backslash are quoted; whether the line goes
    on. -/
def unescape : Octets → Marked × Bool
  | [] => ([], false)
  | ['\\'] => ([], true)
  | '\\' :: c :: t =>
    if c = '\n' then ([], true)
    else
      let (rest, more) := unescape t
      ((c, true) :: rest, more)
  | c :: t =>
    let (rest, more) := unescape t
    ((c, false) :: rest, more)

/-- How a line is read. -/
structure ReadOptions where
  raw : Bool
  stop : Char
  fd : Nat
  /-- No more than so many characters. -/
  most : Option Nat
  /-- No more than so many characters, and the end of a line is none. -/
  exact : Bool

/-- Read so many characters, up to the end of a line. -/
def readCharacters (o : ReadOptions) : Nat → Octets → Sh (Octets × Bool)
  | 0, done => return (done.reverse, true)
  | n + 1, done => do
    match ← Sys.read o.fd 1 with
    | .ok [c] =>
      if c = o.stop ∧ !o.exact then return (done.reverse, true)
      else
        let follows := if c.toNat < 0xC0 then 0 else if c.toNat < 0xE0 then 1
          else if c.toNat < 0xF0 then 2 else 3
        match ← Sys.read o.fd follows with
        | .ok more => readCharacters o n (more.reverse ++ c :: done)
        | .error _ => readCharacters o n (c :: done)
    | _ => return (done.reverse, false)

/-- Read a line without its end, in at most so many pieces; whether it had one. -/
def readLine (o : ReadOptions) : Nat → Sh (Marked × Bool)
  | 0 => return ([], false)
  | n + 1 => do
    match o.most with
    | some most =>
      let (t, ended) ← readCharacters o most []
      return ((if o.raw then Marked.of false t else (unescape t).1), ended)
    | none =>
      match ← Sys.readThrough o.fd o.stop with
      | .error _ => return ([], false)
      | .ok t =>
        let ended := t.getLast? == some o.stop
        let body := (if ended then t.dropLast else t).filter (· != '\x00')
        if o.raw then return (Marked.of false body, ended)
        else
          -- the end of a line stands at the end of the text, where a backslash can quote it
          let (line, more) := unescape (if ended && o.stop == '\n' then body ++ ['\n'] else body)
          if more && ended then
            let (rest, ended) ← readLine o n
            return (line ++ rest, ended)
          else
            let line := if ended && o.stop == '\n' && !more then line.dropLast else line
            return (line, ended)

/-- The options of `read` with their values, and the other arguments; at most so many are read. -/
def readOptions : Nat → List (Char × Octets) → List Octets → List (Char × Octets) × List Octets
  | 0, done, args => (done, args)
  | _ + 1, done, [] => (done, [])
  | n + 1, done, a :: rest =>
    if a = ['-', '-'] then (done, rest)
    else match a with
      | '-' :: c :: cs =>
        if "adinNptu".toList.contains c then
          if cs.isEmpty then
            match rest with
            | v :: rest => readOptions n ((c, v) :: done) rest
            | [] => ((c, []) :: done, [])
          else readOptions n ((c, cs) :: done) rest
        else
          let done := (c, []) :: done
          if cs.isEmpty then readOptions n done rest else readOptions n done (('-' :: cs) :: rest)
      | _ => (done, a :: rest)

/-- Assign fields to variables, the last of which gets what is left. -/
def assignFields (separators : Octets) (line : Marked) (names : List Octets) : Sh Unit := do
  let line := line.dropWhile (isSpaceIn separators)
  let values := splitOver separators names.length line
  for (n, t) in names.zip values do
    Sh.assignText n false t

/-- Read a line and split it over variables. -/
def read : Builtin := fun _ name args => do
  let bash ← Sh.isBash
  let size := (args.map List.length).foldl (· + ·) 0 + args.length + 1
  let (opts, names) := readOptions size [] args
  let number (c : Char) : Option Nat := (opts.lookup c).bind Octets.nat?
  let most := (number 'n').or (number 'N')
  let stop : Char := match opts.lookup 'd' with
    | some (c :: _) => c
    | some [] => '\x00'
    | none => '\n'
  let o : ReadOptions :=
    ⟨(opts.lookup 'r').isSome, stop, (number 'u').getD 0, most, (number 'N').isSome⟩
  if names.any fun n => !Octets.isName (n.takeWhile (· != '[')) then
    misuse name false "bad variable name"
  else if names.isEmpty && !bash then Sh.fail 2 "read: arg count"
  else
    let isOpen := (← Sys.openedAt? o.fd).isSome
    let (line, ended) ← readLine o 1000000
    let separators ← Sh.separators
    match opts.lookup 'a' with
    | some list =>
      let pieces := [Piece.text .value (Marked.text line)]
      let fields := if line.any (·.2) then
          let count := line.length + 1
          (splitOver separators count (line.dropWhile (isSpaceIn separators))).takeWhile
            (!·.isEmpty)
        else (Piece.fields separators pieces).map Marked.text
      Sh.unset list
      Sh.putValue list (.list (fields.zipIdx.map fun (t, k) => (k, t)))
    | none =>
      if names.isEmpty then Sh.putText "REPLY".toList (Marked.text line)
      else if o.exact then
        Sh.assignText (names.headD []) false (Marked.text line)
        for n in names.drop 1 do Sh.assignText n false []
      else assignFields separators line names
    Sh.setStatus (if ended then 0 else if isOpen then 1 else if bash then 1 else 2)

/-- Read all lines that are left, at most so many; the last one first. -/
def linesFrom (fd : Nat) (stop : Char) : Nat → List Octets → Sh (List Octets)
  | 0, done => return done
  | n + 1, done => do
    match ← Sys.readThrough fd stop with
    | .ok [] => return done
    | .ok t => linesFrom fd stop n (t :: done)
    | .error _ => return done

/-- Read lines into a list. -/
def readLines : Builtin := fun _ _ args => do
  let rec cut : Nat → List (Char × Octets) → List Octets → List (Char × Octets) × List Octets
    | 0, done, args => (done, args)
    | n + 1, done, ('-' :: c :: cs) :: rest =>
      if "dnOsuCc".toList.contains c then
        if cs.isEmpty then cut n ((c, rest.headD []) :: done) (rest.drop 1)
        else cut n ((c, cs) :: done) rest
      else if cs.isEmpty then cut n ((c, []) :: done) rest
      else cut n ((c, []) :: done) (('-' :: cs) :: rest)
    | _ + 1, done, args => (done, args)
  let size := (args.map List.length).foldl (· + ·) 0 + args.length + 1
  let (opts, names) := cut size [] args
  let number (c : Char) : Nat := ((opts.lookup c).bind Octets.nat?).getD 0
  let stop : Char := match opts.lookup 'd' with
    | some (c :: _) => c
    | some [] => '\x00'
    | none => '\n'
  let most := if number 'n' = 0 then 1000000 else number 'n' + number 's'
  let lines := ((← linesFrom (number 'u') stop most []).reverse).drop (number 's')
  let trim := (opts.lookup 't').isSome
  let lines := lines.map fun t => if trim && t.getLast? == some stop then t.dropLast else t
  let name := names.headD "MAPFILE".toList
  let v ← Sh.variableOrNew name
  let old := if (opts.lookup 'O').isSome then Sh.numbered v.value else []
  let es := if old.isEmpty then lines.zipIdx.map fun (t, k) => (number 'O' + k, t)
    else lines.zipIdx.foldl (fun es (t, k) => insertElement (number 'O' + k) t es) old
  Sh.putValue name (.list es)
  Sh.setStatus 0

/-! ### Options of scripts -/

/-- What the next option among some arguments is. -/
inductive NextOption where
  | none
  | found (c : Char) (value : Option Octets)
  | unknown (c : Char)
  | unfinished (c : Char)

/-- How an option is described: not at all, alone, or with a value. -/
def takesValue? (spec : Octets) (c : Char) : Option Bool :=
  match spec with
  | [] => Option.none
  | d :: rest =>
    if d = c ∧ c ≠ ':' then some (rest.head? == some ':') else takesValue? rest c

/-- The next option in a word behind its first `at` characters, with the words that follow; also how
    many words it ends, and where it ends in the word otherwise. -/
def nextOption (spec word : Octets) (at' : Nat) (rest : List Octets) :
    NextOption × Nat × Nat :=
  match word.drop at' with
  | [] => (.none, 0, 0)
  | c :: after =>
    let along (n : NextOption) : NextOption × Nat × Nat :=
      if after.isEmpty then (n, 1, 0) else (n, 0, at' + 1)
    match takesValue? spec c with
    | Option.none => along (.unknown c)
    | some false => along (.found c Option.none)
    | some true =>
      if !after.isEmpty then (.found c (some after), 1, 0)
      else match rest with
        | v :: _ => (.found c (some v), 2, 0)
        | [] => (.unfinished c, 1, 0)

/-- Go on to the next option among arguments. -/
def getopts : Builtin := fun _ name args => do
  match args with
  | spec :: var :: given =>
    let s ← get
    let bash := s.dialect == .bash
    let words := if given.isEmpty then s.args else given
    let counter := ((← Sh.value? "OPTIND".toList).bind Octets.nat?).getD 1
    let index := (if bash then counter else s.optionIndex) - 1
    -- the simpler shell counts a word as soon as it is started
    let (current, at') := if s.optionAt = 0 then (index, 0)
      else if bash then (index, s.optionAt) else (index - 1, s.optionAt)
    let silent := spec.head? == some ':'
    let finish (index at' : Nat) (letter : Char) (value : Option Octets) (status : Nat) :
        Sh Unit := do
      let counted := if at' != 0 && !bash then index + 2 else index + 1
      Sh.putText "OPTIND".toList (Octets.ofNat counted)
      modify fun s => { s with optionAt := at' }
      match value with
      | some v => Sh.putText "OPTARG".toList v
      | Option.none => Sh.unset "OPTARG".toList
      Sh.putText var [letter]
      Sh.setStatus status
    let atEnd (index : Nat) : Sh Unit := finish index 0 '?' Option.none 1
    match words[current]? with
    | Option.none => atEnd current
    | some word =>
      if at' = 0 ∧ (word.head? ≠ some '-' ∨ word = ['-']) then atEnd current
      else if at' = 0 ∧ word = ['-', '-'] then atEnd (current + 1)
      else
        let (found, words', at') :=
          nextOption spec word (if at' = 0 then 1 else at') (words.drop (current + 1))
        let next := current + words'
        let complain (text : String) : Sh Unit := do
          if !silent then Sh.complain s!"{Octets.toString name}: {text}"
        match found with
        | .none => atEnd next
        | .found c v =>
          finish next at' c (v.or (if bash then Option.none else some [])) 0
        | .unknown c =>
          complain s!"illegal option -- {c}"
          finish next at' '?' (if silent then some [c] else Option.none) 0
        | .unfinished c =>
          complain s!"option requires an argument -- {c}"
          finish next at' (if silent then ':' else '?') (if silent then some [c] else Option.none) 0
  | _ => misuse name false "usage: getopts optstring name [arg ...]"

end Builtin

end FenceSync.Shell
