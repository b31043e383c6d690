import FenceSync.Character.Bounds
import FenceSync.Regex.Basic

namespace FenceSync

/-!
# The size of expressions

Repetitions with counts stand for as many copies, so a short text can stand for a large expression.
A search takes its steps octet by octet, which makes sets of characters large as well.

* `octetRanges` divides a range of characters into such that are ranges in each octet.
* `Regex.weight` is about the size in bytes of the steps that a search for the expression takes, and
  `Regex.heaviest` the most that is accepted.
-/

/-! ### Octets -/

/-- The octets of a character. -/
def octetsOf (n : Nat) : List Nat := (String.utf8EncodeChar (Char.ofNat n)).map UInt8.toNat

/-- Where a range of characters has to be divided first: the last character before. -/
def octetBreak? (first last : Nat) : Option Nat :=
  ([0x7F, 0x7FF, 0xFFFF].find? fun n => first ≤ n && n < last).or <|
    if last ≤ 0x7F then none
    else [0x40, 0x1000, 0x40000].findSome? fun n =>
      if first / n = last / n then none
      else if first % n ≠ 0 then some (first / n * n + n - 1)
      else if last % n ≠ n - 1 then some (last / n * n - 1)
      else none

/-- The ranges of octets that the characters of a range run through, in at most so many
    divisions. -/
def octetRanges : Nat → Nat → Nat → List (List (Nat × Nat))
  | 0, first, last => [(octetsOf first).zip (octetsOf last)]
  | n + 1, first, last =>
    match octetBreak? first last with
    | some stop => octetRanges n first stop ++ octetRanges n (stop + 1) last
    | none => [(octetsOf first).zip (octetsOf last)]

/-- The length of the common start of two lists. -/
def commonLength {α : Type} [BEq α] : List α → List α → Nat
  | a :: as, b :: bs => if a == b then commonLength as bs + 1 else 0
  | _, _ => 0

/-- The steps over some runs of octets, where runs with a common start share its steps; each is
    compared with the one before it. -/
def stepsOver (before : List (Nat × Nat)) : List (List (Nat × Nat)) → Nat
  | [] => 0
  | run :: runs => run.length - commonLength before run + stepsOver run runs

/-! ### Sets -/

/-- The size of the steps over one member. -/
def CharSet.weight (s : CharSet) : Nat :=
  match s.ranges.bounds.toList with
  | [] => 32
  | [(first, last)] =>
    if first = last then 32 * (octetsOf first).length
    else if last < 0x80 then 72
    else
      let runs := octetRanges 16 first last
      64 + 32 * stepsOver [] runs + 4 * runs.length
  | rs =>
    if rs.all fun r => r.2 < 0x80 then 64 + 8 * rs.length
    else
      let runs := rs.flatMap fun (first, last) => octetRanges 16 first last
      64 + 32 * stepsOver [] runs + 4 * runs.length

/-! ### Expressions -/

namespace Regex

/-- It stands for nothing but places. -/
def isBare : Regex → Bool
  | .one _ | .again _ => false
  | .seq r s | .either r s => r.isBare && s.isBare
  | .repeated r _ _ | .group _ r => r.isBare
  | _ => true

/-- The size of the steps that a search for the expression takes, in bytes and about. -/
def weight : Regex → Nat
  | .one s => s.weight
  | .seq r s => r.weight + s.weight
  | .either r s => r.weight + s.weight + 36
  | .repeated r least most =>
    let n := if r.isBare then min least 1 else least
    match if r.isBare then some (min (most.getD 1) 1) else most with
    | none => max n 1 * r.weight + 36
    | some m => n * r.weight + (m - n) * (r.weight + 40)
  | .group _ r => r.weight
  | _ => 32

/-- The size that is accepted, in bytes. -/
def heaviest : Nat := 10 * 1024 * 1024

/-- The expression is larger than what is accepted. -/
def isTooHeavy (r : Regex) : Bool := heaviest < r.weight + 400

end Regex

end FenceSync
