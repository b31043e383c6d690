import FenceSync.Text.Split

namespace FenceSync

/-!
# Paths

A path is kept as it was written, but paths are compared by their components: repeated slashes,
single dots inside and a slash at the end make no difference, while double dots do.

* `Path.components` takes a path apart, and `Path.same` and `Path.before` compare by components.
* `Path.join` appends a path to a directory, and `Path.absoluteFrom` makes a path absolute.
* `Path.relativeTo?` removes a leading directory, and `Path.parent?` the last component.
-/

/-- A path as written. -/
structure Path where
  spelling : Text
  deriving DecidableEq, Repr, Inhabited

/-- One step of a path. -/
inductive Component where
  /-- The slash that an absolute path starts with. -/
  | root
  /-- The dot that a relative path starts with. -/
  | here
  /-- Two dots. -/
  | up
  /-- A name. -/
  | name (n : Text)
  deriving DecidableEq, Repr

namespace Component

/-- The place of a kind of component among the others. -/
def rank : Component → Nat
  | .root => 0
  | .here => 1
  | .up => 2
  | .name _ => 3

/-- Components in the order root, dot, two dots, names; names by their characters. -/
def before : Component → Component → Bool
  | .name m, .name n => decide (m < n)
  | c, d => decide (c.rank < d.rank)

end Component

/-- Sequences of components in dictionary order. -/
def componentsBefore : List Component → List Component → Bool
  | [], [] => false
  | [], _ :: _ => true
  | _ :: _, [] => false
  | c :: cs, d :: ds => c.before d || (c == d && componentsBefore cs ds)

namespace Path

/-- A path from a string. -/
def ofString (s : String) : Path := ⟨s.toList⟩

/-- A path as a string. -/
def toString (p : Path) : String := String.ofList p.spelling

/-- Starts at the root. -/
def isAbsolute (p : Path) : Bool := p.spelling.head? == some '/'

/-! ### Components -/

/-- What a piece between slashes contributes behind the start of a path. -/
def innerComponent? (piece : Text) : Option Component :=
  if piece = [] ∨ piece = ['.'] then none
  else if piece = ['.', '.'] then some .up
  else some (.name piece)

/-- The components of a path. -/
def components (p : Path) : List Component :=
  let pieces := Text.splitOn ['/'] p.spelling
  let start :=
    if p.isAbsolute then [.root] else if pieces.head? = some ['.'] then [.here] else []
  start ++ pieces.filterMap innerComponent?

/-- The same components. -/
def same (p q : Path) : Bool := p.components == q.components

/-- Component by component, `p` comes before `q`. -/
def before (p q : Path) : Bool := componentsBefore p.components q.components

/-- All components of `dir`, in order, start `p`. -/
def isUnder (p dir : Path) : Bool := dir.components.isPrefixOf p.components

/-! ### Joining -/

/-- `p` seen from `dir`: `p` itself if it is absolute. -/
def join (dir p : Path) : Path :=
  if p.isAbsolute then p
  else if dir.spelling = [] ∨ dir.spelling.getLast? = some '/' then ⟨dir.spelling ++ p.spelling⟩
  else ⟨dir.spelling ++ '/' :: p.spelling⟩

/-- How a component is written. -/
def componentText : Component → Text
  | .root => ['/']
  | .here => ['.']
  | .up => ['.', '.']
  | .name n => n

/-- Two slashes in front, and not three, are kept apart from one. -/
def hasDoubleRoot (p : Path) : Bool :=
  match p.spelling with
  | '/' :: '/' :: '/' :: _ => false
  | '/' :: '/' :: _ => true
  | _ => false

/-- The absolute path that `p` stands for in `dir`, without repeated slashes and single dots inside;
    a slash at the end stays. -/
def absoluteFrom (p dir : Path) : Path :=
  let steps := p.components.filter fun c => c ≠ .root ∧ c ≠ .here
  let start : Path :=
    if p.hasDoubleRoot then ⟨['/', '/']⟩ else if p.isAbsolute then ⟨['/']⟩ else dir
  let q := steps.foldl (fun q c => q.join ⟨componentText c⟩) start
  if p.spelling.getLast? = some '/' then q.join ⟨[]⟩ else q

/-! ### Taking apart -/

/-- The root or dot that a path starts with, and what follows it. -/
def cutStart (p : Path) : Text × Text :=
  match p.components with
  | .root :: _ | .here :: _ => (p.spelling.take 1, p.spelling.drop 1)
  | _ => ([], p.spelling)

/-- The text without the pieces at its start that are no component. -/
def trimPieces : Text → Text
  | [] => []
  | '/' :: r => trimPieces r
  | ['.'] => []
  | '.' :: '/' :: r => trimPieces r
  | c :: r => c :: r

/-- The text without the pieces at its end that are no component. -/
def trimPiecesEnd (t : Text) : Text := (trimPieces t.reverse).reverse

/-- What follows the first `n` components of a text without a start. -/
def dropComponents : Nat → Text → Text
  | 0, t => t
  | n + 1, t => dropComponents n ((trimPieces t).dropWhile (· ≠ '/'))

/-- The path seen from `dir`, if `dir` leads to it. -/
def relativeTo? (p dir : Path) : Option Path :=
  let (start, body) := p.cutStart
  if !p.isUnder dir then none
  else match dir.components with
    | [] => some ⟨start ++ trimPiecesEnd body⟩
    | .root :: cs | .here :: cs =>
      some ⟨trimPiecesEnd (trimPieces (dropComponents cs.length body))⟩
    | cs => some ⟨trimPiecesEnd (trimPieces (dropComponents cs.length body))⟩

/-- The path as shown to someone in `dir`. -/
def shownFrom (p dir : Path) : Path := (p.relativeTo? dir).getD p

/-- The path without its last component. -/
def parent? (p : Path) : Option Path :=
  let (start, body) := p.cutStart
  match p.components.getLast? with
  | none | some .root => none
  | some .here => some ⟨[]⟩
  | some _ =>
    let name := (trimPiecesEnd body).reverse.dropWhile (· ≠ '/')
    some ⟨start ++ trimPiecesEnd name.reverse⟩

end Path

end FenceSync
