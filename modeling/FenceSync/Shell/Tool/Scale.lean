import FenceSync.Shell.Tool.Columns
import FenceSync.Shell.Tool.Number

namespace FenceSync.Shell

/-!
# Numbers with units

* `Scale` says which letters stand for powers of a base, and `Scaled.read?` reads such a number.
* `Rounding.round` rounds a fraction, and `Scale.show` writes one with a letter.
* `Tool.numfmt` converts the numbers in the fields of lines.
-/

/-! ### Scales -/

/-- Which letters behind numbers stand for powers. -/
inductive Scale where
  | plain
  /-- Powers of 1000, or of 1024 before an `i`. -/
  | auto
  | thousands
  | binary
  /-- Powers of 1024, with an `i` behind each letter. -/
  | marked
  deriving DecidableEq, Repr

namespace Scale

/-- A scale by its name. -/
def named? (t : Octets) : Option Scale :=
  match Octets.toString t with
  | "none" => some .plain
  | "auto" => some .auto
  | "si" => some .thousands
  | "iec" => some .binary
  | "iec-i" => some .marked
  | _ => none

/-- What the letters stand for powers of. -/
def base (s : Scale) : Nat :=
  match s with
  | .binary | .marked => 1024
  | _ => 1000

/-- The letters of the powers, the first one first. -/
def letters : List Char := "KMGTPEZYRQ".toList

/-- The power that a letter stands for. -/
def power? (c : Char) : Option Nat := (letters.idxOf? c).map (· + 1)

end Scale

/-! ### Rounding -/

/-- How fractions are rounded. -/
inductive Rounding where
  | up
  | down
  | fromZero
  | towardsZero
  | nearest
  deriving DecidableEq, Repr

namespace Rounding

/-- A way of rounding by its name. -/
def named? (t : Octets) : Option Rounding :=
  match Octets.toString t with
  | "up" => some .up
  | "down" => some .down
  | "from-zero" => some .fromZero
  | "towards-zero" => some .towardsZero
  | "nearest" => some .nearest
  | _ => none

/-- A fraction without what is behind the point. -/
def round (r : Rounding) (x : Fraction) : Int :=
  let (n, d) := x
  let size := n.natAbs
  let signed (m : Nat) : Int := if n < 0 then -(m : Int) else m
  match r with
  | .up => -Int.fdiv (-n) d
  | .down => Int.fdiv n d
  | .fromZero => signed ((size + d - 1) / d)
  | .towardsZero => signed (size / d)
  | .nearest => signed ((2 * size + d) / (2 * d))

/-- A fraction with so many digits behind the point. -/
def roundAt (r : Rounding) (places : Nat) (x : Fraction) : Fraction :=
  (r.round (x.1 * (Nat.pow 10 places : Nat), x.2), Nat.pow 10 places)

end Rounding

/-! ### Reading and writing -/

/-- A number as it was written. -/
structure Scaled where
  value : Fraction
  /-- How many digits stood behind the point. -/
  places : Nat

namespace Scaled

/-- How many digits a number may have. -/
def digitLimit : Nat := 33

/-- Read a number without a letter. -/
def readPlain? (t : Octets) : Option (Scaled × Octets) :=
  let (negative, t) := match t with
    | '-' :: r => (true, r)
    | t => (false, t)
  let front := t.takeWhile Char.isDigit
  let rest := t.drop front.length
  let (back, rest) := match rest with
    | '.' :: r => (r.takeWhile Char.isDigit, some (r.dropWhile Char.isDigit))
    | _ => ([], none)
  if (front.isEmpty && rest.isNone) || (rest.isSome && back.isEmpty) ||
      digitLimit < (front.dropWhile (· == '0')).length + back.length then none
  else
    let n := (Octets.nat? (front ++ back)).getD 0
    let value : Fraction := (if negative then -(n : Int) else n, Nat.pow 10 back.length)
    some (⟨value, back.length⟩, rest.getD (t.drop front.length))

/-- Read a number with a letter that the scale has; nothing may follow. -/
def read? (s : Scale) (t : Octets) : Option Scaled := do
  let (x, rest) ← readPlain? t
  match rest.dropWhile Octets.isBlank with
  | [] => if rest.isEmpty then some x else none
  | c :: rest =>
    let power ← Scale.power? c
    let times (base : Nat) : Scaled :=
      ⟨(x.value.1 * (Nat.pow base power : Nat), x.value.2), 0⟩
    match s, rest with
    | .plain, _ => none
    | .auto, ['i'] => some (times 1024)
    | .marked, ['i'] => some (times 1024)
    | .marked, _ => none
    | s, [] => some (times s.base)
    | _, _ => none

end Scaled

/-- Divide a fraction by a base until it is less than that; how often, at most so many times. -/
def powerFrom (base : Nat) : Nat → Nat → Fraction → Nat × Fraction
  | 0, power, x => (power, x)
  | n + 1, power, x =>
    if x.1.natAbs < base * x.2 then (power, x) else powerFrom base n (power + 1) (x.1, x.2 * base)

/-- A fraction with a sign and so many digits behind the point. -/
def Fraction.fixed (places : Nat) (x : Fraction) : Octets :=
  (if x.1 < 0 then ['-'] else []) ++ Quantity.fixed places false x.1.natAbs x.2

/-- Write a fraction on a scale, with as many digits behind the point as were asked for; the letter
    stands apart. -/
def Scale.show (s : Scale) (r : Rounding) (asked : Option Nat) (x : Fraction) : Octets × Octets :=
  let (power, x) := powerFrom s.base 40 0 x
  let places := match asked with
    | some p => min (power * 3) p
    | none => if x.1.natAbs < 10 * x.2 then 1 else 0
  let x := r.roundAt places x
  let (power, x) : Nat × Fraction :=
    if s.base * x.2 ≤ x.1.natAbs then (power + 1, (x.1, x.2 * s.base)) else (power, x)
  let shown := asked.getD (if x.1 ≠ 0 ∧ x.1.natAbs < 10 * x.2 ∧ 0 < power then 1 else 0)
  let letter := if power = 0 then []
    else (Scale.letters[power - 1]?).toList ++ if s = .marked then ['i'] else []
  (x.fixed shown, letter)

/-! ### Formats -/

/-- How a number is printed. -/
structure ScaleFormat where
  front : Octets
  back : Octets
  width : Nat
  /-- Blanks follow the number. -/
  isLeft : Bool
  zeros : Nat
  places : Option Nat

namespace ScaleFormat

/-- Just the number. -/
def plain : ScaleFormat := ⟨[], [], 0, false, 0, none⟩

/-- The text up to the percent sign of a number, and what follows, in at most so many steps. -/
def cutFrom : Nat → Octets → Octets → Option (Octets × Octets)
  | 0, _, _ => none
  | _ + 1, _, [] => none
  | n + 1, done, '%' :: '%' :: t => cutFrom n ('%' :: '%' :: done) t
  | _ + 1, done, '%' :: t => some (done.reverse, t)
  | n + 1, done, c :: t => cutFrom n (c :: done) t

/-- No single percent sign is in a text, in at most so many steps. -/
def isQuiet : Nat → Octets → Bool
  | 0, t => t.isEmpty
  | _ + 1, [] => true
  | n + 1, '%' :: '%' :: t => isQuiet n t
  | _ + 1, '%' :: _ => false
  | n + 1, _ :: t => isQuiet n t

/-- Read a format. -/
def read? (t : Octets) : Option ScaleFormat := do
  let (front, t) ← cutFrom (t.length + 1) [] t
  let flags := t.takeWhile " '0".toList.contains
  let t := t.drop flags.length
  let (isLeft, t) := match t with
    | '-' :: r => (true, r)
    | t => (false, t)
  let ds := t.takeWhile Char.isDigit
  let width := (Octets.nat? ds).getD 0
  let (places, t) : Option Nat × Octets := match t.drop ds.length with
    | '.' :: r =>
      let ds := r.takeWhile Char.isDigit
      (some ((Octets.nat? ds).getD 0), r.drop ds.length)
    | r => (none, r)
  match t with
  | 'f' :: back =>
    if !isQuiet (back.length + 1) back then none
    else
      let padsZeros := flags.contains '0' && !isLeft
      some ⟨front, back, if padsZeros then 0 else width, isLeft,
        if padsZeros then width else 0, places⟩
  | _ => none

end ScaleFormat

/-! ### Lines -/

/-- What becomes of wrong numbers. -/
inductive Leniency where
  | abort
  | fail
  | warn
  | ignore
  deriving DecidableEq, Repr

/-- What wrong numbers lead to, by its name. -/
def Leniency.named? (t : Octets) : Option Leniency :=
  match Octets.toString t with
  | "abort" => some .abort
  | "fail" => some .fail
  | "warn" => some .warn
  | "ignore" => some .ignore
  | _ => none

/-- How numbers are converted. -/
structure ScalePlan where
  source : Scale
  target : Scale
  sourceUnit : Nat
  targetUnit : Nat
  rounding : Rounding
  suffix : Octets
  format : ScaleFormat
  places : PlaceList
  delimiter : Option Char
  /-- As much room as the number had is kept. -/
  keepsRoom : Bool
  leniency : Leniency

namespace ScalePlan

/-- How large numbers without a letter may be. -/
def plainLimit : Nat := 1000000000000000000

/-- Convert the text of a field; none if it holds no number. -/
def convert? (p : ScalePlan) (field : Nat) (t : Octets) : Option Octets := do
  let u := if !p.suffix.isEmpty && p.suffix.length < t.length &&
      p.suffix.reverse.isPrefixOf t.reverse then t.take (t.length - p.suffix.length) else t
  let number := u.dropWhile Octets.isBlank
  let width := if p.keepsRoom then
      if number.length < u.length ∨ 1 < field then u.length else 0
    else p.format.width
  let x ← Scaled.read? p.source number
  let value : Fraction := (x.value.1 * p.sourceUnit, x.value.2 * p.targetUnit)
  let (shown, letter) ← if p.target = .plain then
      let places := p.format.places.getD x.places
      if plainLimit * 10 * value.2 ≤ value.1.natAbs * Nat.pow 10 places then none
      else some ((p.rounding.roundAt places value).fixed places, [])
    else some (p.target.show p.rounding p.format.places value)
  let shown := match shown with
    | '-' :: ds => '-' :: Octets.padLeft (p.format.zeros - 1) '0' ds
    | ds => Octets.padLeft p.format.zeros '0' ds
  let shown := shown ++ letter ++ p.suffix
  let shown := if p.format.isLeft then Octets.padRight width shown
    else Octets.padLeft width ' ' shown
  return p.format.front ++ shown ++ p.format.back

/-- The fields of a line, in at most so many steps; what stands between them is one character. -/
def fieldsFrom (delimiter : Option Char) : Nat → Octets → List Octets
  | 0, t => [t]
  | n + 1, t =>
    let length := match delimiter with
      | some d => (t.takeWhile (· != d)).length
      | none =>
        let isGap (c : Char) : Bool := Octets.isBlank c || c == '\n'
        let gap := t.takeWhile isGap
        gap.length + ((t.drop gap.length).takeWhile fun c => !isGap c).length
    match t.drop length with
    | [] => [t.take length]
    | _ :: rest => t.take length :: fieldsFrom delimiter n rest

/-- A field is to be converted. -/
def includes (p : ScalePlan) (field : Nat) : Bool :=
  p.places.any fun (a, b) => a ≤ field && b.all (field ≤ ·)

/-- Convert fields from a given one on: what is printed, and whether all were right; with `abort`
    nothing is printed from a wrong one on. -/
def fields (p : ScalePlan) : Nat → List Octets → Octets × Bool
  | _, [] => ([], true)
  | n, t :: ts =>
    let between : Octets := if ts.isEmpty then [] else [p.delimiter.getD ' ']
    match if p.includes n then p.convert? n t else some t with
    | some u =>
      let (rest, ok) := p.fields (n + 1) ts
      (u ++ between ++ rest, ok)
    | none =>
      if p.leniency = .abort then ([], false)
      else (t ++ between ++ (p.fields (n + 1) ts).1, false)

/-- Convert lines: what is printed, and whether all were right. -/
def lines (p : ScalePlan) (stop : Char) : List Octets → Octets × Bool
  | [] => ([], true)
  | t :: ts =>
    let (body, ending) := cutEnd stop t
    let (shown, ok) := p.fields 1 (fieldsFrom p.delimiter (body.length + 1) body)
    if !ok && p.leniency = .abort then (shown, false)
    else
      let (rest, fine) := p.lines stop ts
      (shown ++ ending ++ rest, ok && fine)

end ScalePlan

namespace Tool

/-- An option whose argument is read, or its usual value. -/
def optionOr {α : Type} (p : Parsed) (key : String) (usual : α) (read? : Octets → Option α) :
    Option α :=
  match p.value? key with
  | some t => read? t
  | none => some usual

/-- The size of a unit: a number that a letter may follow. -/
def unitSize? (t : Octets) : Option Nat := do
  let x ← (Scaled.read? .plain t).or ((Scaled.read? .auto t).or (Scaled.read? .thousands t))
  if x.value.1 ≤ 0 ∨ x.value.2 ≠ 1 then none else some x.value.1.toNat

/-- Convert the numbers in the fields of arguments or lines. -/
def numfmt : Tool :=
  withOptions (OptionSpec.of "d:z" [("delimiter", "d"), ("zero-terminated", "z"),
    ("field=", "field"), ("format=", "format"), ("from=", "from"), ("from-unit=", "from-unit"),
    ("grouping", "grouping"), ("header?", "header"), ("invalid=", "invalid"),
    ("padding=", "padding"), ("round=", "round"), ("suffix=", "suffix"), ("to=", "to"),
    ("to-unit=", "to-unit"), ("debug", "debug")]) 1 fun s p => do
  let delimiter := (p.value? "d").bind List.head?
  let stop := if p.has "z" then '\x00' else '\n'
  let header := match p.value? "header" with
    | some [] => some 1
    | some t => (Octets.nat? t).filter (0 < ·)
    | none => some 0
  let padding := optionOr p "padding" 0 fun t => (Octets.int? t).filter (· ≠ 0)
  let plan? : Option ScalePlan := do
    let padding ← padding
    let format ← optionOr p "format" ScaleFormat.plain ScaleFormat.read?
    let format := if padding = 0 ∨ format.width ≠ 0 then format
      else { format with width := padding.natAbs, isLeft := decide (padding < 0) }
    let target ← optionOr p "to" .plain fun t => (Scale.named? t).filter (· ≠ .auto)
    some {
      source := ← optionOr p "from" .plain Scale.named?
      target
      sourceUnit := ← optionOr p "from-unit" 1 unitSize?
      targetUnit := ← optionOr p "to-unit" 1 unitSize?
      rounding := ← optionOr p "round" .fromZero Rounding.named?
      suffix := (p.value? "suffix").getD []
      format
      places := ← optionOr p "field" [(1, some 1)] fun t =>
        if t = ['-'] then some [(1, none)] else PlaceList.read? t
      delimiter
      keepsRoom := format.width = 0 && delimiter.isNone && !format.isLeft
      leniency := ← optionOr p "invalid" .abort Leniency.named? }
  match plan?, header with
  | some plan, some header =>
    let (text, readable) ← if p.operands.isEmpty then Input.joined s [['-']]
      else pure ((p.operands.map fun t => t ++ [stop]).flatten, true)
    let (records, rest) := Filter.cutRecords stop [] [] text
    let records := if rest.isEmpty then records else records ++ [rest]
    let raw := if p.operands.isEmpty then records.take header else []
    let (out, ok) := plan.lines stop (records.drop raw.length)
    let written ← Sys.print (raw.flatten ++ out)
    if !ok && plan.leniency ≠ .ignore then s.complain "invalid number"
    let fails := !ok && (plan.leniency = .abort || plan.leniency = .fail)
    return if fails then 2 else statusOf (readable && written)
  | _, _ => s.fail 1 "invalid argument"

end Tool

end FenceSync.Shell
