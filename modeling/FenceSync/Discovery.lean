import FenceSync.IgnoreRules
import FenceSync.Surroundings
import FenceSync.Text.Quoted

namespace FenceSync

/-!
# Discovery

The documents of a run are named by paths, or by globs over the files below the working directory.
Ignore files then drop some of them.

* `canonical` puts paths in order and keeps one of those with the same components.
* `namedSources` and `matchingSources` are what paths and globs stand for; `discover` chooses.
* `sieve` drops the sources that ignore files exclude and counts them; `filterIgnored` reads the
  ignore files for it.
-/

/-! ### Order -/

/-- Put a path into an ordered list, unless one with the same components is there. -/
def insertPath (p : Path) : List Path → List Path
  | [] => [p]
  | q :: qs =>
    if p.before q then p :: q :: qs
    else if p.same q then q :: qs
    else q :: insertPath p qs

/-- Paths in order, the first one of those with the same components. -/
def canonical (ps : List Path) : List Path := ps.foldl (fun qs p => insertPath p qs) []

/-! ### Sources -/

/-- The sources named by paths. -/
def namedSources (dir : Path) (args : List Text) : List Path :=
  canonical (args.map fun arg => dir.join ⟨arg⟩)

/-- The files whose path from the directory passes a test. -/
def matchingSources (dir : Path) (accepts : Text → Bool) (files : List Path) : List Path :=
  canonical (files.filter fun p => (p.relativeTo? dir).any fun q => accepts q.spelling)

/-- Why sources could not be found. -/
inductive DiscoveryError where
  /-- An argument is no glob; what was read of it, and why. -/
  | glob (arg : Text) (pattern : Text) (cause : GlobFault)
  /-- A directory could not be walked, because of one below it. -/
  | walk (root : Path) (path : Path) (cause : FileError)
  deriving DecidableEq, Repr

/-- An error in words. -/
def DiscoveryError.message : DiscoveryError → String
  | .glob arg pattern cause =>
    s!"invalid glob pattern {String.ofList (Text.quoted arg)}: {cause.messageIn pattern}"
  | .walk root path cause =>
    s!"failed to walk {root.toString}: {path.toString}: IO error for operation on " ++
      s!"{path.toString}: {cause.message}"

/-- A pattern without dots and slashes in front that stand for the directory itself. -/
def dropHere : Text → Text
  | '.' :: '/' :: t => dropHere t
  | t => t

/-- The globs that arguments stand for. -/
def readGlobs : List Text → Except DiscoveryError (List WrittenGlob)
  | [] => .ok []
  | arg :: args => do
    match WrittenGlob.ofText? false (dropHere arg) with
    | .error e => throw (.glob arg (dropHere arg) e)
    | .ok g => return g :: (← readGlobs args)

section
variable {m : Type → Type} [Monad m]

/-- Log how many sources were found. -/
def logSources (env : Surroundings m) (args : List Text) (sources : List Path) : m Unit :=
  env.log ⟨.debug, .discovery, s!"[embedme-discovery] {sources.length} source(s) from " ++
    String.ofList (quotedList args)⟩

/-- Log how globs are going to be matched, if there are any. -/
def logGlobs (env : Surroundings m) (globs : List WrittenGlob) : m Unit :=
  if globs.isEmpty then pure ()
  else (WrittenGlob.census globs).forM fun text => env.log ⟨.debug, .globbing, text⟩

/-- The sources that arguments stand for, as paths or as globs. -/
def discover (host : Host m) (dir : Path) (globbing : Bool) (args : List Text) :
    ExceptT DiscoveryError m (List Path) := do
  if !globbing then
    let sources := namedSources dir args
    logSources (m := m) host.toSurroundings args sources
    return sources
  else if args.isEmpty then return []
  else
    match readGlobs args with
    | .error e => throw e
    | .ok globs =>
      logGlobs (m := m) host.toSurroundings globs
      match ← host.walk dir with
      | .error e => throw (.walk dir e.1 e.2)
      | .ok files =>
        let accepts t := globs.any fun g => g.accepts t
        let sources := matchingSources dir accepts files
        logSources (m := m) host.toSurroundings args sources
        return sources

end

/-! ### Ignore files -/

/-- Drop what named tests exclude, one test after the other; also the tests that dropped something,
    and how much. -/
def sieve : List (Text × (Path → Bool)) → List Path → List Path × List (Text × Nat)
  | [], sources => (sources, [])
  | (name, excludes) :: tests, sources =>
    let kept := sources.filter fun p => !excludes p
    let (remaining, counts) := sieve tests kept
    let dropped := sources.length - kept.length
    (remaining, if dropped = 0 then counts else (name, dropped) :: counts)

section
variable {m : Type → Type} [Monad m]

/-- The rules of an ignore file, if it is there and can be read. -/
def readIgnoreFile (env : Surroundings m) (dir : Path) (name : Text) :
    m (Option (List IgnoreRule)) := do
  let path := dir.join ⟨name⟩
  let warn (text : String) : LogEntry :=
    ⟨.warn, .discovery, s!"Could not read {path.toString}: {text}"⟩
  if ← env.isFile path then
    match ← env.read path with
    | .error e => do
      env.log (warn s!"{path.toString}: {e.message}")
      pure none
    | .ok bytes =>
      env.log ⟨.debug, .ignoring, s!"opened gitignore file: {path.toString}"⟩
      match IgnoreRules.ofBytes? bytes with
      | .ok rules => do
        logGlobs env (rules.map IgnoreRule.glob)
        pure (some rules)
      | .error faults => do
        env.log (warn (IgnoreRules.faultsMessage path faults))
        pure none
  else pure none

/-- The tests of some ignore files, in order. -/
def readIgnoreFiles (env : Surroundings m) (dir : Path) :
    List Text → m (List (Text × (Path → Bool)))
  | [] => pure []
  | name :: names => do
    let rules ← readIgnoreFile env dir name
    let rest ← readIgnoreFiles env dir names
    match rules with
    | none => pure rest
    | some rules => pure ((name, IgnoreRules.excludes rules dir) :: rest)

/-- Drop the sources that ignore files exclude; also the files that dropped some, and how many. -/
def filterIgnored (env : Surroundings m) (dir : Path) (ignoreFiles : List Text)
    (sources : List Path) : m (List Path × List (Text × Nat)) := do
  return sieve (← readIgnoreFiles env dir ignoreFiles) sources

end

end FenceSync
