import FenceSync.Character.Set

namespace FenceSync

/-!
# The ranges of a set

* `CharRanges.ofPairs` puts ranges in order and joins those that meet.
* `CharSet.ranges` lists the members of a set as ranges.
-/

namespace CharRanges

/-! ### Ranges in order -/

/-- Join ranges, which lie in order, with one before them where they meet. -/
def joinFrom (first last : Nat) : List (Nat × Nat) → List (Nat × Nat)
  | [] => [(first, last)]
  | (a, b) :: rs =>
    if a ≤ last + 1 then joinFrom first (max last b) rs else (first, last) :: joinFrom a b rs

/-- The least ranges with the members of some. -/
def ofPairs (rs : List (Nat × Nat)) : CharRanges :=
  match rs.mergeSort fun r s => r.1 ≤ s.1 with
  | [] => none
  | (a, b) :: rs => ⟨(joinFrom a b rs).toArray⟩

/-- What lies between ranges, which lie in order, from a code point on. -/
def gapsFrom (first : Nat) : List (Nat × Nat) → List (Nat × Nat)
  | [] => if first ≤ 0x10FFFF then [(first, 0x10FFFF)] else []
  | (a, b) :: rs => (if first < a then [(first, a - 1)] else []) ++ gapsFrom (b + 1) rs

/-! ### Operations -/

/-- All code points that are no characters. -/
def surrogates : Nat × Nat := (0xD800, 0xDFFF)

/-- The members of either. -/
def union (r s : CharRanges) : CharRanges := ofPairs (r.bounds.toList ++ s.bounds.toList)

/-- All other characters. -/
def compl (r : CharRanges) : CharRanges :=
  ⟨(gapsFrom 0 (ofPairs (surrogates :: r.bounds.toList)).bounds.toList).toArray⟩

/-- The members of both. -/
def inter (r s : CharRanges) : CharRanges := (r.compl.union s.compl).compl

/-! ### Forms of letters -/

/-- Letters with their common forms. -/
def casePairs : List (Char × Char) :=
  caseRuns.flatMap fun (first, last, step, distance) =>
    (stepsFrom step first ((last - first) / step)).map fun (n, _) =>
      (Char.ofNat n, Char.ofNat (n + distance).toNat)

/-- The other forms of letters added, for the letters that are given with their common forms. -/
def withForms (r : CharRanges) (pairs : List (Char × Char)) : CharRanges :=
  let add (r : CharRanges) (cs : List Char) : CharRanges :=
    r.union ⟨(cs.map fun c => (c.toNat, c.toNat)).toArray⟩
  let common := add r ((pairs.filter fun p => r.holds p.1).map (·.2))
  add common ((pairs.filter fun p => common.holds p.2).map (·.1))

end CharRanges

/-- The members of a set. -/
def CharSet.ranges : CharSet → CharRanges
  | .nothing => .none
  | .range first last => .ofPairs [(first.toNat, last.toNat)]
  | .listed rs => .ofPairs rs.bounds.toList
  | .space => .ofPairs (traitRanges "White_Space").bounds.toList
  | .digit => .ofPairs (digitZeros.map fun n => (n, n + 9))
  | .word => .ofPairs ((letterRanges ++ connectorRanges).flatMap fun rs => rs.bounds.toList)
  | .union s t => s.ranges.union t.ranges
  | .inter s t => s.ranges.inter t.ranges
  | .compl s => s.ranges.compl
  | .anyCase s => s.ranges.withForms CharRanges.casePairs
  | .anyAsciiCase s =>
    s.ranges.withForms (CharRanges.casePairs.filter fun p => p.1.toNat < 0x80)

end FenceSync
