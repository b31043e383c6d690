import FenceSync.Surroundings

namespace FenceSync

/-!
# File trees

A tree of directories, files and symbolic links, addressed by absolute paths.  Every node is stored
under the names that lead to it from the root.

* `FileTree.follow?` takes a path apart and follows links; what it finds is a `FileTree.Target`.
* `read`, `write`, `makeDirs` and `prune` work on the node at a path.
* `Mark` holds permissions and times, which only commands look at.
* `FileTree.filesBelow` lists the files below a directory.
-/

/-- The names that lead from the root to a node. -/
abbrev Place := List Text

/-- What can stand in a tree. -/
inductive Node where
  | file (content : Bytes)
  | dir
  | link (target : Text)
  /-- A file that is always empty. -/
  | null
  /-- A file that goes on with zero bytes forever. -/
  | zeros
  /-- A file that goes on with zero bytes forever, and has no room. -/
  | full
  /-- A file that goes on with arbitrary bytes forever. -/
  | noise
  /-- An open file of the one who looks, by its number. -/
  | descriptor (n : Nat)
  deriving DecidableEq, Repr

/-- What is known of a node beside its content. -/
structure Mark where
  /-- The permissions, where they are not the usual ones. -/
  mode : Option Nat
  /-- The time of the last change: nanoseconds since 1970. -/
  time : Int
  deriving DecidableEq, Repr

/-- A tree: its nodes other than the root. -/
structure FileTree where
  nodes : List (Place × Node)
  marks : List (Place × Mark)
  /-- How many changes there were. -/
  age : Nat
  deriving DecidableEq, Repr, Inhabited

namespace FileTree

/-! ### Nodes -/

/-- The node at a place. -/
def node? (t : FileTree) (place : Place) : Option Node :=
  if place = [] then some .dir else (t.nodes.find? fun e => e.1 == place).map (·.2)

/-- The time at which a tree without changes is found: the start of the year 2024. -/
def epoch : Int := 1704067200000000000

/-- The time of the next change; changes are a millisecond apart. -/
def now (t : FileTree) : Int := epoch + 1000000 * t.age

/-- What is known of the node at a place. -/
def mark (t : FileTree) (place : Place) : Mark := (t.marks.lookup place).getD ⟨none, epoch⟩

/-- Set what is known of the node at a place. -/
def setMark (t : FileTree) (place : Place) (m : Mark) : FileTree :=
  { t with marks := (place, m) :: t.marks.filter fun e => e.1 != place }

/-- Put a node at a place, now. -/
def put (t : FileTree) (place : Place) (n : Node) : FileTree :=
  let mode := if (t.nodes.lookup place).isSome then (t.mark place).mode else none
  { t.setMark place ⟨mode, t.now⟩ with
    nodes := (place, n) :: t.nodes.filter fun e => e.1 != place
    age := t.age + 1 }

/-- Note that the node at a place changes now. -/
def touch (t : FileTree) (place : Place) : FileTree :=
  { t.setMark place { t.mark place with time := t.now } with age := t.age + 1 }

/-- Remove the node at a place, and all below it. -/
def prune (t : FileTree) (place : Place) : FileTree :=
  { t with
    nodes := t.nodes.filter fun e => !place.isPrefixOf e.1
    marks := t.marks.filter fun e => !place.isPrefixOf e.1 }

/-- Give the node at a place, and all below it, another one; what stood there is gone. -/
def rename (t : FileTree) (old new : Place) : FileTree :=
  let moved (q : Place) : Place := if old.isPrefixOf q then new ++ q.drop old.length else q
  let t := if new.isPrefixOf old then t else t.prune new
  { t with
    nodes := t.nodes.map fun e => (moved e.1, e.2)
    marks := t.marks.map fun e => (moved e.1, e.2) }

/-- The names in a directory, in order. -/
def names (t : FileTree) (place : Place) : List Text :=
  let found := t.nodes.filterMap fun e =>
    if e.1.dropLast == place then e.1.getLast? else none
  found.mergeSort fun a b => !decide (b < a)

/-- The special files, which stand in one directory. -/
def specialFiles : List (Text × Node) := [
  ("null".toList, .null), ("zero".toList, .zeros), ("full".toList, .full),
  ("random".toList, .noise), ("urandom".toList, .noise), ("stdin".toList, .descriptor 0),
  ("stdout".toList, .descriptor 1), ("stderr".toList, .descriptor 2)]

/-- The directory of special files. -/
def specialDir : Place := ["dev".toList]

/-- A tree with the special files and a directory for temporary ones. -/
def bare : FileTree where
  nodes := (specialDir, .dir) :: specialFiles.map (fun e => (specialDir ++ [e.1], e.2)) ++
    [(["tmp".toList], .dir)]
  marks := []
  age := 0

/-! ### Paths -/

/-- The path of a place. -/
def pathOf (place : Place) : Path := ⟨'/' :: Text.joinWith ['/'] place⟩

/-- The place that an absolute path names if no link is on its way. -/
def placeOf (p : Path) : Place :=
  p.components.foldl (fun place c => match c with
    | .name n => place ++ [n]
    | .up => place.dropLast
    | _ => place) []

/-- The names of a path from one place to another. -/
def wayBetween (a b : Place) : List Text :=
  let common := ((a.zip b).takeWhile fun e => e.1 == e.2).length
  List.replicate (a.length - common) ['.', '.'] ++ b.drop common

/-- The longest name, in bytes. -/
def nameLimit : Nat := 255

/-- Paths are shorter than this, in bytes. -/
def pathLimit : Nat := 4096

/-- How many links are followed. -/
def linkLimit : Nat := 40

/-- The pieces of a path; a slash at the end is a piece that stays in the directory. -/
def pieces (t : Text) : List Text :=
  (Text.splitOn ['/'] t).filter (· ≠ []) ++ if t.getLast? = some '/' then [['.']] else []

/-- What a path leads to: a node, or a free name in a directory. -/
structure Target where
  place : Place
  node : Option Node
  deriving DecidableEq, Repr

/-- Go from a directory along some pieces.  Up to `links` links are followed, one at the end only
    if `last`. -/
def followFrom (t : FileTree) (last : Bool) (links : Nat) (place : Place) (ps : List Text) :
    Except FileError Target :=
  match ps with
  | [] => .ok ⟨place, t.node? place⟩
  | p :: ps =>
    if p = ['.'] then followFrom t last links place ps
    else if p = ['.', '.'] then followFrom t last links place.dropLast ps
    else if nameLimit < Text.size p then .error .nameTooLong
    else
      let next := place ++ [p]
      match t.node? next with
      | none => if ps = [] then .ok ⟨next, none⟩ else .error .notFound
      | some .dir => followFrom t last links next ps
      | some (.link target) =>
        if ps = [] ∧ !last then .ok ⟨next, some (.link target)⟩
        else match links with
          | 0 => .error .tooManyLinks
          | links + 1 =>
            let start := if target.head? = some '/' then [] else place
            followFrom t last links start (pieces target ++ ps)
      | some n => if ps = [] then .ok ⟨next, some n⟩ else .error .notDirectory
termination_by (links, ps.length)

/-- What a path leads to. -/
def follow? (t : FileTree) (last : Bool) (p : Path) : Except FileError Target :=
  if p.spelling = [] then .error .notFound
  else if '\x00' ∈ p.spelling then .error .nulInName
  else if pathLimit ≤ Text.size p.spelling then .error .nameTooLong
  else t.followFrom last linkLimit [] (pieces p.spelling)

/-- The node that a path leads to. -/
def nodeAt? (t : FileTree) (p : Path) : Except FileError Node :=
  match t.follow? true p with
  | .error e => .error e
  | .ok target =>
    match target.node with
    | none => .error .notFound
    | some n => .ok n

/-- A regular file stands at a path. -/
def isFile (t : FileTree) (p : Path) : Bool :=
  match t.nodeAt? p with
  | .ok (.file _) => true
  | _ => false

/-- A directory stands at a path. -/
def isDir (t : FileTree) (p : Path) : Bool :=
  match t.nodeAt? p with
  | .ok .dir => true
  | _ => false

/-! ### Reading and writing -/

/-- The content of a file. -/
def read (t : FileTree) (p : Path) : Except FileError Bytes :=
  match t.nodeAt? p with
  | .error e => .error e
  | .ok (.file content) => .ok content
  | .ok .dir => .error .isDirectory
  | .ok _ => .ok []

/-- The path ends in a slash or in dots, so that it can only lead to a directory. -/
def namesDirectory (p : Path) : Bool :=
  match (Text.splitOn ['/'] p.spelling).getLast? with
  | some last => last = [] ∨ last = ['.'] ∨ last = ['.', '.']
  | none => false

/-- Set the content of a file from the one before, creating it if need be. -/
def update (t : FileTree) (p : Path) (f : Bytes → Bytes) : Except FileError FileTree :=
  if pathLimit ≤ Text.size p.spelling then .error .nameTooLong
  else if p.spelling ≠ [] ∧ namesDirectory p then
    let above := ((Text.splitOn ['/'] p.spelling).filter (· ≠ [])).dropLast
    match t.followFrom true linkLimit [] (above ++ [['.']]) with
    | .error e => .error e
    | .ok _ => .error .isDirectory
  else
    match t.follow? true p with
    | .error e => .error e
    | .ok target =>
      match target.node with
      | none => .ok (t.put target.place (.file (f [])))
      | some (.file content) => .ok (t.put target.place (.file (f content)))
      | some .dir => .error .isDirectory
      | some .full => if f [] = [] then .ok t else .error .noSpace
      | some _ => .ok t

/-- Replace the content of a file. -/
def write (t : FileTree) (p : Path) (content : Bytes) : Except FileError FileTree :=
  t.update p fun _ => content

/-- The places on the way to a place, and the place itself. -/
def wayTo : Place → List Place
  | [] => []
  | p :: ps => [p] :: (wayTo ps).map (p :: ·)

/-- Make a directory and those it lies in, where nothing stands yet. -/
def makeDirs (t : FileTree) (place : Place) : FileTree :=
  (wayTo place).foldl (fun t q => if (t.node? q).isSome then t else t.put q .dir) t

/-! ### Listing -/

/-- The names of what stands in no listing. -/
def hiddenName : Text := ".git".toList

/-- Regular files below a place, with the names that lead there, at most so many levels down.
    Entries called `.git` are left out. -/
def filesFrom (t : FileTree) : Nat → Place → List Place
  | 0, _ => []
  | depth + 1, place =>
    ((t.names place).filter (· ≠ hiddenName)).flatMap fun name =>
      match t.node? (place ++ [name]) with
      | some (.file _) => [[name]]
      | some .dir => (filesFrom t depth (place ++ [name])).map (name :: ·)
      | _ => []

/-- Regular files below the directory at a path, or the file that stands there itself. -/
def filesBelow (t : FileTree) (p : Path) : Except FileError (List Path) :=
  match t.follow? true p with
  | .error e => .error e
  | .ok ⟨_, none⟩ => .error .notFound
  | .ok ⟨_, some (.file _)⟩ => .ok [p]
  | .ok ⟨place, some _⟩ =>
    .ok ((t.filesFrom (t.nodes.length + 1) place).map fun names =>
      names.foldl (fun q name => q.join ⟨name⟩) p)

end FileTree

end FenceSync
