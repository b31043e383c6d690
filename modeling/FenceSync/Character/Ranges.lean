import FenceSync.Text.Digit
import FenceSync.Text.Split

namespace FenceSync

/-!
# Ranges of characters

Where the members of a set of characters lie, for sets that a standard lists.

* `CharRanges` holds ranges in order, and `CharRanges.holds` finds a character among them.
* `CharRanges.ofLines` reads ranges: `41-5A` from one number to another, `100-12E/2` every second
  one, and `5F` a single one.
* `CharTable` gives ranges some names, which `looseName` compares.
-/

/-- Code points in ranges that lie apart and in order. -/
structure CharRanges where
  bounds : Array (Nat × Nat)
  deriving DecidableEq, Repr, Inhabited

namespace CharRanges

/-- No ranges. -/
def none : CharRanges := ⟨#[]⟩

/-! ### Membership -/

/-- How many ranges start at a code point or before it, where all before `lo` do and none from `hi`
    on does. -/
def countFrom (rs : CharRanges) (n lo hi : Nat) : Nat :=
  if lo < hi then
    let mid := (lo + hi) / 2
    if rs.bounds[mid]?.any fun r => r.1 ≤ n then countFrom rs n (mid + 1) hi
    else countFrom rs n lo mid
  else lo
termination_by hi - lo

/-- The character lies in one of the ranges. -/
def holds (rs : CharRanges) (c : Char) : Bool :=
  match rs.countFrom c.toNat 0 rs.bounds.size with
  | 0 => false
  | k + 1 => rs.bounds[k]?.any fun r => c.toNat ≤ r.2

/-! ### Reading -/

/-- The number that hexadecimal digits stand for. -/
def numberOf (digits : Text) : Nat := digits.foldl (fun n c => 16 * n + (hexValue? c).getD 0) 0

/-- Single code points at a distance from each other, so many more of them. -/
def stepsFrom (step : Nat) : Nat → Nat → List (Nat × Nat)
  | n, 0 => [(n, n)]
  | n, k + 1 => (n, n) :: stepsFrom step (n + step) k

/-- Read a range. -/
def ofWord (w : Text) : List (Nat × Nat) :=
  let first := numberOf (w.takeWhile (· ≠ '-'))
  match w.dropWhile (· ≠ '-') with
  | [] => [(first, first)]
  | _ :: t =>
    let last := numberOf (t.takeWhile (· ≠ '/'))
    match t.dropWhile (· ≠ '/') with
    | [] => [(first, last)]
    | _ :: s => stepsFrom (numberOf s) first ((last - first) / numberOf s)

/-- Read ranges between blanks, line by line. -/
def ofLines (lines : List String) : CharRanges :=
  ⟨(lines.flatMap fun l => (Text.splitOn [' '] l.toList).flatMap ofWord).toArray⟩

/-- The same ranges in order. -/
def sorted (rs : CharRanges) : CharRanges :=
  ⟨(rs.bounds.toList.mergeSort fun a b => a.1 ≤ b.1).toArray⟩

end CharRanges

/-! ### Tables -/

/-- A name without what does not count in it: capitals, blanks, hyphens, underscores and an opening
    `is`. -/
def looseName (name : Text) : Text :=
  let (is, t) := match name with
    | a :: b :: t => if a.toLower = 'i' ∧ b.toLower = 's' then (true, t) else (false, name)
    | t => (false, t)
  let t := (t.filter fun c => c.toNat < 0x80 && !"_- ".contains c).map Char.toLower
  if is && t == ['c'] then ['i', 's', 'c'] else t

/-- Ranges with their names. -/
structure CharTable where
  names : List String
  lines : List String

namespace CharTable

/-- One of the names is the given one. -/
def isNamed (t : CharTable) (name : String) : Bool :=
  t.names.any fun n => looseName n.toList == looseName name.toList

/-- The ranges. -/
def ranges (t : CharTable) : CharRanges := .ofLines t.lines

/-- The ranges with a name. -/
def named? (ts : List CharTable) (name : String) : Option CharRanges :=
  (ts.find? fun t => t.isNamed name).map ranges

end CharTable

end FenceSync
