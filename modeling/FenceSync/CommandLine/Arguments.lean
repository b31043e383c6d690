import FenceSync.Delivery
import FenceSync.Settings.Basic

namespace FenceSync.CommandLine

/-!
# Arguments

The command line is read option by option; what it leaves out can come from the environment.

* `Switch`, `Choice` and `Parameter` are the options without a value, with an optional one and with
  one.
* `Given.read` reads arguments, and `Given.complete` adds what the environment says.
* `request` is what both ask for together.
-/

/-! ### Options -/

/-- An option that is there or not. -/
inductive Switch where
  | verify
  | dryRun
  | stdout
  | silent
  | noColor
  | forceColor
  | stripComment
  | verbose
  deriving DecidableEq, Repr

/-- An option that says yes unless a value behind an equals sign says no. -/
inductive Choice where
  | glob
  | strict
  | color
  deriving DecidableEq, Repr

/-- An option with a value. -/
inductive Parameter where
  | output
  | directory
  | base
  | timeout
  | config
  deriving DecidableEq, Repr

/-- An option. -/
inductive Key where
  | switch (s : Switch)
  | choice (c : Choice)
  | parameter (p : Parameter)
  | version
  | help
  deriving DecidableEq, Repr

/-- The names of the options. -/
def longNames : List (String × Key) :=
  [("verify", .switch .verify), ("dry-run", .switch .dryRun), ("stdout", .switch .stdout),
    ("output", .parameter .output), ("directory", .parameter .directory),
    ("cwd", .parameter .directory), ("base", .parameter .base), ("source", .parameter .base),
    ("root", .parameter .base), ("glob", .choice .glob), ("silent", .switch .silent),
    ("color", .choice .color), ("no-color", .switch .noColor),
    ("force-color", .switch .forceColor), ("strip-embed-comment", .switch .stripComment),
    ("strict", .choice .strict), ("timeout", .parameter .timeout),
    ("config", .parameter .config), ("verbose", .switch .verbose), ("version", .version),
    ("help", .help)]

/-- The letters of the options that have one. -/
def shortNames : List (Char × Key) :=
  [('o', .parameter .output), ('C', .parameter .directory), ('v', .switch .verbose),
    ('V', .version), ('h', .help)]

/-- The variable of the environment that can stand in for an option. -/
def Key.envName? : Key → Option String
  | .switch .verify => some "EMBEDME_VERIFY"
  | .switch .dryRun => some "EMBEDME_DRY_RUN"
  | .switch .stdout => some "EMBEDME_STDOUT"
  | .switch .silent => some "EMBEDME_SILENT"
  | .switch .forceColor => some "EMBEDME_FORCE_COLOR"
  | .switch .stripComment => some "EMBEDME_STRIP_EMBED_COMMENT"
  | .choice .glob => some "EMBEDME_GLOB"
  | .choice .strict => some "EMBEDME_STRICT"
  | .choice .color => some "EMBEDME_COLOR"
  | .parameter .output => some "EMBEDME_OUTPUT"
  | .parameter .directory => some "EMBEDME_DIRECTORY"
  | .parameter .base => some "EMBEDME_BASE_PATH"
  | .parameter .timeout => some "EMBEDME_TIMEOUT"
  | .parameter .config => some "EMBEDME_CONFIG"
  | _ => none

/-- Why a command line is refused. -/
inductive UsageError where
  | unknownOption (arg : Text)
  | repeatedOption (arg : Text)
  | missingValue (arg : Text)
  | unexpectedValue (arg : Text)
  | invalidValue (arg value : Text)
  deriving DecidableEq, Repr

/-- An error in words. -/
def UsageError.message : UsageError → String
  | .unknownOption arg => s!"unexpected argument '{String.ofList arg}' found"
  | .repeatedOption arg => s!"the argument '{String.ofList arg}' cannot be used multiple times"
  | .missingValue arg => s!"a value is required for '{String.ofList arg}' but none was supplied"
  | .unexpectedValue arg => s!"unexpected value for '{String.ofList arg}' found"
  | .invalidValue arg value =>
    s!"invalid value '{String.ofList value}' for '{String.ofList arg}'"

/-! ### Values -/

/-- The words that say yes. -/
def yesWords : List String := ["y", "yes", "t", "true", "on", "1"]

/-- The words that say no. -/
def noWords : List String := ["n", "no", "f", "false", "off", "0"]

/-- What a word says, in capitals or not. -/
def flexibleFlag? (t : Text) : Option Bool :=
  let w := (String.ofList t).toLower
  if yesWords.contains w then some true else if noWords.contains w then some false else none

/-- What one of two words says. -/
def strictFlag? (t : Text) : Option Bool :=
  if t = "true".toList then some true else if t = "false".toList then some false else none

/-- What a value says about a choice. -/
def Choice.read? : Choice → Text → Option Bool
  | .color, t => strictFlag? t
  | _, t => flexibleFlag? t

/-- A number in ASCII digits, below the limit of time limits. -/
def timeout? (t : Text) : Option Nat :=
  let digits := (Text.after? ['+'] t).getD t
  if digits = [] then none
  else (natOfDigits? digits).filter (· < Settings.timeoutLimit)

/-- A value is acceptable: a path must not be empty, and a time has to be a number. -/
def Parameter.accepts : Parameter → Text → Bool
  | .timeout, t => (timeout? t).isSome
  | _, t => t ≠ []

/-! ### Reading -/

/-- What a command line says. -/
structure Given where
  switches : List (Switch × Bool)
  choices : List (Choice × Bool)
  parameters : List (Parameter × Text)
  sources : List Text
  deriving DecidableEq, Repr

/-- What a command line asks for. -/
inductive Asked (α : Type) where
  | version
  | help
  | run (a : α)

namespace Given

/-- Nothing is said. -/
def empty : Given := ⟨[], [], [], []⟩

/-- The option is given. -/
def has (g : Given) : Key → Bool
  | .switch s => (g.switches.lookup s).isSome
  | .choice c => (g.choices.lookup c).isSome
  | .parameter p => (g.parameters.lookup p).isSome
  | _ => false

/-- Add an option that was spelled `arg`, with or without a value. -/
def add (g : Given) (arg : Text) (k : Key) (value : Option Text) : Except UsageError Given :=
  if g.has k then .error (.repeatedOption arg)
  else match k, value with
    | .switch s, none => .ok { g with switches := (s, true) :: g.switches }
    | .choice c, none => .ok { g with choices := (c, true) :: g.choices }
    | .choice c, some v =>
      match c.read? v with
      | some b => .ok { g with choices := (c, b) :: g.choices }
      | none => .error (.invalidValue arg v)
    | .parameter p, some v =>
      if p.accepts v then .ok { g with parameters := (p, v) :: g.parameters }
      else .error (.invalidValue arg v)
    | .parameter _, none => .error (.missingValue arg)
    | _, _ => .error (.unexpectedValue arg)

/-- What an argument adds to what is given. -/
inductive Step where
  | version
  | help
  | given (g : Given)
  /-- The option spelled `arg` takes the next argument as its value. -/
  | needsValue (g : Given) (arg : Text) (p : Parameter)
  /-- No options follow. -/
  | endOfOptions

/-- Read the letters of an argument. -/
def addLetters (g : Given) : Text → Except UsageError Step
  | [] => .ok (.given g)
  | c :: letters =>
    let arg := ['-', c]
    match shortNames.lookup c with
    | none => .error (.unknownOption arg)
    | some .version => .ok .version
    | some .help => .ok .help
    | some (.parameter p) =>
      if letters = [] then .ok (.needsValue g arg p)
      else
        let v := (Text.after? ['='] letters).getD letters
        (g.add arg (.parameter p) (some v)).map .given
    | some k =>
      match g.add arg k none with
      | .error e => .error e
      | .ok g => g.addLetters letters

/-- Read an option that is spelled out, with the value behind an equals sign if there is one. -/
def addNamed (g : Given) (arg name : Text) (value : Option Text) : Except UsageError Step :=
  match longNames.lookup (String.ofList name), value with
  | none, _ => .error (.unknownOption arg)
  | some .version, none => .ok .version
  | some .help, none => .ok .help
  | some (.parameter p), none =>
    if g.has (.parameter p) then .error (.repeatedOption arg) else .ok (.needsValue g arg p)
  | some k, value => (g.add arg k value).map .given

/-- Read an argument. -/
def addArgument (g : Given) : Text → Except UsageError Step
  | ['-', '-'] => .ok .endOfOptions
  | '-' :: '-' :: t =>
    let value := match t.dropWhile (· ≠ '=') with
      | _ :: v => some v
      | [] => none
    g.addNamed ('-' :: '-' :: t) (t.takeWhile (· ≠ '=')) value
  | '-' :: c :: letters => g.addLetters (c :: letters)
  | t => .ok (.given { g with sources := g.sources ++ [t] })

/-- An argument cannot be a value: it looks like an option. -/
def looksLikeOption (t : Text) : Bool := t.head? = some '-' ∧ t ≠ ['-']

/-- Read arguments on top of what is given. -/
def readFrom (g : Given) : List Text → Except UsageError (Asked Given)
  | [] => .ok (.run g)
  | arg :: args =>
    match g.addArgument arg with
    | .error e => .error e
    | .ok .version => .ok .version
    | .ok .help => .ok .help
    | .ok .endOfOptions => .ok (.run { g with sources := g.sources ++ args })
    | .ok (.given g) => readFrom g args
    | .ok (.needsValue g arg p) =>
      match args with
      | [] => .error (.missingValue arg)
      | v :: args =>
        if looksLikeOption v then .error (.missingValue arg)
        else match g.add arg (.parameter p) (some v) with
          | .error e => .error e
          | .ok g => readFrom g args

/-- Read arguments. -/
def read (args : List Text) : Except UsageError (Asked Given) := empty.readFrom args

/-- All options for which the environment can stand in. -/
def variableKeys : List Key := (longNames.map (·.2)).filter fun k => k.envName?.isSome

/-- Add what the environment says about an option that is not given. -/
def addVariable (env : String → Option Text) (g : Given) (k : Key) : Except UsageError Given :=
  match k.envName? with
  | none => .ok g
  | some x =>
    if g.has k then .ok g
    else match env x, k with
      | none, _ => .ok g
      | some v, .switch s =>
        match strictFlag? v with
        | some b => .ok { g with switches := (s, b) :: g.switches }
        | none => .error (.invalidValue x.toList v)
      | some v, k => g.add x.toList k (some v)

/-- Add what the environment says about options that are not given. -/
def complete (env : String → Option Text) (g : Given) : Except UsageError Given :=
  variableKeys.foldlM (addVariable env) g

/-! ### Results -/

/-- The switch is on. -/
def isOn (g : Given) (s : Switch) : Bool :=
  (g.switches.lookup s).getD false

/-- What is chosen. -/
def chosen? (g : Given) (c : Choice) : Option Bool :=
  g.choices.lookup c

/-- The value of a parameter. -/
def value? (g : Given) (p : Parameter) : Option Text :=
  g.parameters.lookup p

/-- The output mode: the first of verifying, printing, another file and a dry run that is asked
    for. -/
def mode (g : Given) : OutputMode :=
  if g.isOn .verify then .verify
  else if g.isOn .stdout then .stdout
  else match g.value? .output with
    | some target => .file ⟨target⟩
    | none => if g.isOn .dryRun then .dryRun else .write

/-- The settings that are given. -/
def settings (g : Given) : Settings where
  base := (g.value? .base).map Path.mk
  glob := g.chosen? .glob
  strict := g.chosen? .strict
  timeout := (g.value? .timeout).bind timeout?
  ignoreFiles := none
  shell := none

end Given

/-- What arguments and environment ask for together. -/
def request (env : String → Option Text) (args : List Text) : Except UsageError (Asked Given) := do
  match ← Given.read args with
  | .version => return .version
  | .help => return .help
  | .run g => return .run (← g.complete env)

end FenceSync.CommandLine
