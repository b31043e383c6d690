import FenceSync.Settings.Toml
import FenceSync.Surroundings
import FenceSync.Text.Quoted

namespace FenceSync

/-!
# Settings

Settings come from a file in the working directory and from the command line, which wins.

* `Settings.ofText?` reads a settings file, and `Settings.mergedWith` lays one over another.
* `Settings.load` finds and reads the file of a directory.
* `SettingsError` says what can be wrong with it.
-/

/-- Settings; what is not set is left to the defaults. -/
structure Settings where
  /-- The directory in which files are looked up first. -/
  base : Option Path
  /-- Sources are patterns. -/
  glob : Option Bool
  /-- Directives that cannot be read are errors. -/
  strict : Option Bool
  /-- The time for a command in milliseconds; zero for no limit. -/
  timeout : Option Nat
  ignoreFiles : Option (List Text)
  /-- The shell and the arguments that come before a command. -/
  shell : Option (List Text)
  deriving DecidableEq, Repr

/-- Why settings cannot be read. -/
inductive SettingsFault where
  /-- The text does not consist of keys and values that settings can have. -/
  | unreadable
  | unknownKey (key : Text)
  | duplicateKey (key : Text)
  /-- The value does not fit its key. -/
  | unfit (key : Text)
  deriving DecidableEq, Repr

/-- A fault in words. -/
def SettingsFault.message : SettingsFault → String
  | .unreadable => "expected keys and values"
  | .unknownKey key => s!"unknown key {String.ofList (Text.quoted key)}"
  | .duplicateKey key => s!"duplicate key {String.ofList (Text.quoted key)}"
  | .unfit key => s!"invalid value for {String.ofList (Text.quoted key)}"

namespace Settings

/-- Nothing is set. -/
def empty : Settings := ⟨none, none, none, none, none, none⟩

/-! ### Reading -/

/-- The time limit is below this. -/
def timeoutLimit : Nat := UInt64.size

/-- The keys of a settings file. -/
def keys : List String := ["base", "glob", "strict", "timeout", "ignore-files", "shell"]

/-- Settings with the value of a key, if the key is known and the value fits. -/
def set? (s : Settings) (key : Text) (value : Toml.Value) : Option Settings :=
  match String.ofList key, value with
  | "base", .text t => some { s with base := some ⟨t⟩ }
  | "glob", .flag b => some { s with glob := some b }
  | "strict", .flag b => some { s with strict := some b }
  | "timeout", .number n => if n < timeoutLimit then some { s with timeout := some n } else none
  | "ignore-files", .texts ts => some { s with ignoreFiles := some ts }
  | "shell", .texts ts => some { s with shell := some ts }
  | _, _ => none

/-- Settings with some entries added; `seen` are the keys so far. -/
def withEntries (s : Settings) (seen : List Text) :
    List (Text × Toml.Value) → Except SettingsFault Settings
  | [] => .ok s
  | (key, value) :: entries =>
    if String.ofList key ∉ keys then .error (.unknownKey key)
    else if key ∈ seen then .error (.duplicateKey key)
    else match s.set? key value with
      | none => .error (.unfit key)
      | some s => s.withEntries (key :: seen) entries

/-- Read a settings file. -/
def ofText? (t : Text) : Except SettingsFault Settings :=
  match Toml.entries? t with
  | none => .error .unreadable
  | some entries => empty.withEntries [] entries

/-! ### Use -/

/-- Settings in which those of `top` win. -/
def mergedWith (s top : Settings) : Settings where
  base := top.base.or s.base
  glob := top.glob.or s.glob
  strict := top.strict.or s.strict
  timeout := top.timeout.or s.timeout
  ignoreFiles := top.ignoreFiles.or s.ignoreFiles
  shell := top.shell.or s.shell

/-- The ignore files where none are set. -/
def usualIgnoreFiles : List Text := [".embedmeignore".toList, ".gitignore".toList]

/-- The ignore files to go by. -/
def effectiveIgnoreFiles (s : Settings) : List Text := s.ignoreFiles.getD usualIgnoreFiles

/-! ### In the log -/

/-- An optional value. -/
def describeOption {α : Type} (describe : α → String) : Option α → String
  | none => "None"
  | some a => "Some(" ++ describe a ++ ")"

/-- A list of texts. -/
def describeTexts (ts : List Text) : String := String.ofList (quotedList ts)

/-- All settings on one line. -/
def describe (s : Settings) : String :=
  let fields := [
    ("base", describeOption (fun p => String.ofList (Text.quoted p.spelling)) s.base),
    ("glob", describeOption (fun b => if b then "true" else "false") s.glob),
    ("strict", describeOption (fun b => if b then "true" else "false") s.strict),
    ("timeout", describeOption (fun n => String.ofList (Text.ofNat n)) s.timeout),
    ("ignore_files", describeOption describeTexts s.ignoreFiles),
    ("shell", describeOption describeTexts s.shell)]
  "ProjectConfig \x7b " ++ String.intercalate ", " (fields.map fun f => f.1 ++ ": " ++ f.2) ++
    " \x7d"

end Settings

/-! ### Finding the file -/

/-- Why the settings of a directory are not known. -/
inductive SettingsError where
  | read (path : Path) (cause : FileError)
  | fault (path : Path) (cause : SettingsFault)
  deriving DecidableEq, Repr

/-- An error in words. -/
def SettingsError.message : SettingsError → String
  | .read path cause => s!"Failed to read config file at {path.toString}: {cause.message}"
  | .fault path cause => s!"Failed to parse config file at {path.toString}: {cause.message}"

namespace Settings
variable {m : Type → Type} [Monad m]

/-- The names under which a directory can have settings. -/
def fileNames : List Path := [Path.ofString ".embedme.toml", Path.ofString "embedme.toml"]

/-- The first of some paths at which there are settings. -/
def locateAmong (env : Surroundings m) : List Path → m (Option Path)
  | [] => pure none
  | p :: ps => do
    if ← env.isFile p then
      env.log ⟨.debug, .settings, s!"[embedme-config] Found config file: {p.toString}"⟩
      pure (some p)
    else
      env.log ⟨.debug, .settings, s!"[embedme-config] No config at {p.toString}"⟩
      locateAmong env ps

/-- The settings file of a directory, unless one is named. -/
def locate (env : Surroundings m) (dir : Path) : Option Path → m (Option Path)
  | some named => pure (some (dir.join named))
  | none => locateAmong env (fileNames.map dir.join)

/-- The settings of a directory, and the file they come from. -/
def load (env : Surroundings m) (dir : Path) (named : Option Path) :
    ExceptT SettingsError m (Settings × Option Path) := do
  match ← locate (m := m) env dir named with
  | none => pure (empty, none)
  | some p =>
    match ← env.readText p with
    | .error e => throw (.read p e)
    | .ok t =>
      match ofText? t with
      | .error e => throw (.fault p e)
      | .ok s => do
        env.log ⟨.debug, .settings, s!"[embedme-config] Loaded {p.toString}: {s.describe}"⟩
        pure (s, some p)

end Settings

end FenceSync
