import FenceSync.CommandLine.Arguments
import FenceSync.Discovery
import FenceSync.Log.Filter
import FenceSync.Log.Style
import FenceSync.Shell.Launch

namespace FenceSync.CommandLine

/-!
# A run from the command line

A run reads its arguments, finds settings and documents, and delivers the results.  What happens on
the way goes to the log, and the log goes to standard error.

* `Console` is what a run needs from outside.
* `carryOut` does what is asked for, and `RunError` says why it could not.
* `run` is the whole program: it ends with an exit code.
-/

/-- What a run needs from outside. -/
structure Console (m : Type → Type) where
  /-- Files, output, and commands run by a launcher. -/
  host : Shell.Launcher → Host m
  /-- Write to standard error. -/
  complain : Text → m Unit
  currentDir : m (Except FileError Path)
  /-- The time since the start, in nanoseconds. -/
  elapsed : m Nat
  /-- The variables of the environment. -/
  env : String → Option Text

/-- Why a run failed. -/
inductive RunError where
  | noCurrentDir (cause : FileError)
  | missingDir (dir : Path)
  | settings (cause : SettingsError)
  | options (cause : OptionsFault)
  | discovery (cause : DiscoveryError)
  | delivery (cause : DeliveryError)
  deriving DecidableEq, Repr

/-- An error in words. -/
def RunError.message : RunError → String
  | .noCurrentDir cause => s!"failed to determine the current directory: {cause.message}"
  | .missingDir dir => s!"working directory {dir.toString} does not exist"
  | .settings cause => cause.message
  | .options cause => cause.message
  | .discovery cause => cause.message
  | .delivery cause => cause.message

/-! ### What is said -/

/-- The version of the program. -/
def version : String := "0.3.0"

/-- What the output mode is announced by. -/
def announcement : OutputMode → String
  | .verify => "Verifying..."
  | .dryRun => "Doing a dry run..."
  | .stdout => "Writing to stdout..."
  | .file _ | .write => "Embedding..."

/-- All results go to one place. -/
def concatenates : OutputMode → Bool
  | .stdout | .file _ => true
  | _ => false

/-- A number of hundredths with two places. -/
def twoPlaces (n : Nat) : String :=
  s!"{n / 100}.{n / 10 % 10}{n % 10}"

/-- A time in nanoseconds, in the largest unit that it reaches, with two places. -/
def timeText (ns : Nat) : String :=
  if ns < 1000 then twoPlaces (ns * 100) ++ "ns"
  else if ns < 1000000 then twoPlaces ((ns + 5) / 10) ++ "µs"
  else if ns < 1000000000 then twoPlaces ((ns + 5000) / 10000) ++ "ms"
  else twoPlaces ((ns + 5000000) / 10000000) ++ "s"

/-- How the program is called. -/
def usage : String :=
  "Embed source files and command output into markdown code blocks\n\n" ++
    "Usage: embedme [OPTIONS] [SOURCES]...\n\nOptions:\n" ++
    String.join (longNames.map fun e => "      --" ++ e.1 ++ "\n")

/-! ### The log of a run -/

/-- How the log is filtered: silence and verbosity come on top of the environment. -/
def logFilter (env : String → Option Text) (g : Given) : LogFilter × List LogSpecFault :=
  let (f, faults) := LogFilter.ofSpec ((env "RUST_LOG").getD "info".toList)
  let f :=
    if g.isOn .silent then f.set ⟨none, none⟩
    else if g.isOn .verbose then
      ((f.set ⟨none, some .info⟩).set ⟨some "embedme".toList, some .debug⟩).set
        ⟨some "embedme_lib".toList, some .debug⟩
    else f
  (f, faults)

/-- How the log looks. -/
def logStyle (env : String → Option Text) (g : Given) : LogStyle :=
  LogStyle.ofVariables env ((g.chosen? .color).getD true && !g.isOn .noColor) (g.isOn .forceColor)

/-! ### A run -/

/-- The options for a directory and its settings. -/
def optionsFor (g : Given) (dir : Path) (s : Settings) : FenceSync.Options where
  workingDir := dir
  base := s.base
  mode := g.mode
  stripComment := g.isOn .stripComment
  strict := s.strict.getD false

section
variable {m : Type → Type} [Monad m]

/-- The working directory, which has to be there. -/
def openDir (c : Console m) (host : Host m) (g : Given) : ExceptT RunError m Path := do
  match ← c.currentDir with
  | .error e => throw (.noCurrentDir e)
  | .ok here =>
    let dir := match g.value? .directory with
      | some d => Path.absoluteFrom ⟨d⟩ here
      | none => here
    if ← host.isDir dir then return dir else throw (.missingDir dir)

/-- Drop ignored documents, and process the others. -/
def process (host : Host m) (say : LogLevel → String → m Unit) (o : FenceSync.Options)
    (ignoreFiles : List Text) (found : List Path) : ExceptT RunError m Bool := do
  if found.length > 1 && concatenates o.mode then
    say .warn "more than one file matched: results will be concatenated"
  say .info (announcement o.mode)
  let (sources, skipped) ←
    filterIgnored (m := m) host.toSurroundings o.workingDir ignoreFiles found
  for (name, count) in skipped do
    say .info s!"Skipped {count} files ignored in {String.ofList name}"
  if sources.isEmpty then
    say .warn "All matching files were ignored"
    return false
  else
    let total ← (deliverAll host o sources).adapt .delivery
    say .debug
      s!"{total.documents} document(s), {total.changed} changed, {total.written} written"
    return true

/-- Do what is asked for; whether documents were processed. -/
def carryOut (c : Console m) (log : LogEntry → m Unit) (g : Given) : ExceptT RunError m Bool := do
  let say (level : LogLevel) (text : String) : m Unit := log ⟨level, .commandLine, text⟩
  let hostFor (l : Shell.Launcher) : Host m := { c.host l with log := log }
  let host := hostFor (.of [] 0)
  let dir ← openDir c host g
  let (own, path) ← (Settings.load host.toSurroundings dir ((g.value? .config).map Path.mk)).adapt
    .settings
  if let some path := path then
    say .debug s!"Using config {path.toString}"
  let settings := own.mergedWith g.settings
  let o := optionsFor g dir settings
  if let .error e := o.validate then throw (.options e)
  let host := hostFor (.of (settings.shell.getD []) (settings.timeout.getD 0))
  let found ← (discover host dir (settings.glob.getD false) g.sources).adapt .discovery
  if found.isEmpty then
    say .warn "no files matched your input"
    return false
  else process host say o settings.effectiveIgnoreFiles found

/-- Carry out what is asked for, with a log around it. -/
def runGiven (c : Console m) (g : Given) : m Nat := do
  let (filter, faults) := logFilter c.env g
  let style := logStyle c.env g
  for fault in faults do
    c.complain s!"warning: {fault.message}, ignoring it\n".toList
  let log (e : LogEntry) : m Unit := if filter.shows e then c.complain (style.line e) else pure ()
  let say (level : LogLevel) (text : Text) : m Unit :=
    log ⟨level, .commandLine, String.ofList text⟩
  say .info (style.paint .magenta s!"embedme v{version}".toList)
  match ← (carryOut c log g).run with
  | .error e => do
    say .error e.message.toList
    return 1
  | .ok done => do
    if done then
      say .info (style.paint .magenta s!"done in {timeText (← c.elapsed)}".toList)
    return 0

/-- Run with some arguments; the exit code. -/
def run (c : Console m) (args : List Text) : m Nat := do
  match request c.env args with
  | .error e => do
    c.complain s!"error: {e.message}\n".toList
    return 2
  | .ok .version => print s!"embedme {version}\n"
  | .ok .help => print usage
  | .ok (.run g) => runGiven c g
where
  /-- Print a text and end. -/
  print (text : String) : m Nat := do
    match ← (c.host (.of [] 0)).print (Text.utf8 text.toList) with
    | .error _ => return 1
    | .ok _ => return 0

end

end FenceSync.CommandLine
