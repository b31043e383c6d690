import FenceSync.Shell.System

namespace FenceSync.Shell

/-!
# Finding programs

* `Located` says what is found under the name of a program, and `Located.find` looks for it.
-/

/-- What is found under the name of a program. -/
inductive Located where
  /-- A program that needs no file, and where it would be. -/
  | tool (path : Octets)
  | script (path : Octets)
  | missing
  /-- There is something that cannot be run. -/
  | denied (path : Octets)
  deriving DecidableEq, Repr

namespace Located

/-- The directories that are searched if no others are set. -/
def usualPath : Octets :=
  "/usr/local/sbin:/usr/local/bin:/usr/sbin:/usr/bin:/sbin:/bin".toList

/-- The directories of programs that need no files. -/
def toolDirs : List Octets := ["/bin".toList, "/usr/bin".toList]

/-- The end of a path behind the last slash, and what stands before that. -/
def cutLast (t : Octets) : Octets × Octets :=
  let base := (t.reverse.takeWhile (· != '/')).reverse
  (t.take (t.length - base.length - 1), base)

/-- What is found at a path. -/
def atPath (isTool : Octets → Bool) (path : Octets) : Prog Located := do
  let (dir, base) := cutLast path
  if toolDirs.contains dir && isTool base then return .tool path
  else match ← Sys.node? true path with
    | some (place, .file content) =>
      let mode ← Sys.modeOf place (.file content)
      return if mode &&& 0o111 != 0 then .script path else .denied path
    | some _ => return .denied path
    | none => return .missing

/-- What is found in directories one after the other, or else what could not be run. -/
def inDirs (isTool : Octets → Bool) (name : Octets) (other : Located) :
    List Octets → Prog Located
  | [] => return other
  | d :: ds => do
    let dir := if d.isEmpty then ['.'] else d
    match ← atPath isTool (Sys.under dir name) with
    | .missing => inDirs isTool name other ds
    | .denied p => inDirs isTool name (.denied p) ds
    | l => return l

/-- What is found under a name, in the directories of a list. -/
def find (isTool : Octets → Bool) (path name : Octets) : Prog Located := do
  if name.isEmpty then return .missing
  else if name.contains '/' then atPath isTool name
  else inDirs isTool name .missing (Text.splitOn [':'] path)

end Located

end FenceSync.Shell
