import FenceSync.Shell.State

namespace FenceSync.Shell

/-!
# File names from patterns

* `Sh.filenames` lists the paths that a pattern stands for, in order.
-/

namespace Sh

/-- A pattern between slashes. -/
structure PathPiece where
  pattern : Marked
  /-- A slash follows. -/
  inner : Bool

/-- The pieces of a pattern between slashes; the current one is in reverse order. -/
def pathPieces : Marked → Marked → List PathPiece
  | current, [] => [⟨current.reverse, false⟩]
  | current, c :: w =>
    if c.1 = '/' then ⟨current.reverse, true⟩ :: pathPieces [] w
    else pathPieces (c :: current) w

/-- A text without the backslashes that are not quoted. -/
def unescaped : Marked → Octets
  | [] => []
  | ('\\', false) :: c :: w => c.1 :: unescaped w
  | c :: w => c.1 :: unescaped w

/-- The names that a directory has for patterns; hidden ones only if they are asked for. -/
def namesFor (dir : Octets) (piece : Marked) : Sh (List Octets) := do
  let target ← Sys.node? true (if dir.isEmpty then ['.'] else dir)
  match target with
  | some (place, .dir) =>
    let s ← get
    let hidden := (match piece with
      | (c, _) :: rest => c == '.' || (c == '\\' && rest.head?.any fun d => d.1 == '.')
      | [] => false) || s.options.contains "dotglob"
    let anyCase := s.options.contains "nocaseglob"
    let pattern ← Sh.pattern (s.options.contains "extglob") piece
    let dots : List Octets := if s.dialect = .posix then [['.'], ['.', '.']] else []
    let names := dots ++ (← Sys.names place)
    names.filterM fun name => do
      if name.head? = some '.' && !hidden then return false
      else return Pattern.accepts anyCase pattern (← Sh.characters name)
  | _ => return []

/-- Directories below one, itself first, at most so many levels down. -/
def dirsBelow : Nat → Octets → Sh (List Octets)
  | 0, _ => return []
  | n + 1, dir => do
    match ← Sys.node? true (if dir.isEmpty then ['.'] else dir) with
    | some (place, .dir) =>
      let names := (← Sys.names place).filter fun name => name.head? != some '.'
      let below ← names.mapM fun name => do
        match ← Sys.node? false (dir ++ name) with
        | some (_, .dir) => dirsBelow n (dir ++ name ++ ['/'])
        | _ => return []
      return dir :: below.flatten
    | _ => return []

/-- The paths that pieces of a pattern stand for, each behind a path to start from. -/
def pathsFor : List PathPiece → List Octets → Sh (List Octets)
  | [], paths => return paths
  | p :: ps, paths => do
    let s ← get
    let wild := Pattern.isWild (s.options.contains "extglob") p.pattern
    let slash : Octets := if p.inner then ['/'] else []
    let found ← paths.mapM fun path => do
      if p.inner && Marked.text p.pattern = ['*', '*'] && s.options.contains "globstar" then
        dirsBelow 100 path
      else if wild then
        let names ← namesFor path p.pattern
        let names ← if p.inner then names.filterM fun name => Sys.isDir (path ++ name)
          else pure names
        return names.map fun name => path ++ name ++ slash
      else
        let next := path ++ unescaped p.pattern
        if p.inner || p.pattern.isEmpty then return [next ++ slash]
        else return if (← Sys.node? false next).isSome then [next] else []
    pathsFor ps found.flatten

/-- The paths that a pattern stands for; the pattern itself if there are none. -/
def filenames (w : Marked) : Sh (List Octets) := do
  let s ← get
  let itself := [Marked.text w]
  if s.flags.contains 'f' || !Pattern.isWild (s.options.contains "extglob") w then return itself
  else
    let found ← pathsFor (pathPieces [] w) [[]]
    -- a path that ends in a slash has to lead to a directory
    let found ← found.filterM fun path =>
      if path.getLast? = some '/' then Sys.isDir path else pure true
    if !found.isEmpty then return found.mergeSort fun a b => !Octets.before b a
    else if s.options.contains "failglob" then
      giveUp .word s!"no match: {Octets.toString itself.flatten}"
    else if s.options.contains "nullglob" then return []
    else return itself

end Sh

end FenceSync.Shell
