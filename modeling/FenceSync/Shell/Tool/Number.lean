import FenceSync.Shell.Printf
import FenceSync.Shell.Tool.Basic

namespace FenceSync.Shell

/-!
# Numbers in a row

* `SeqNumber.read?` reads a number together with how it is to be printed.
* `SeqFormat.read?` reads a format with one place for a number.
* `Tool.seq` prints numbers with equal steps between them.
* `Tool.factor` prints the prime factors of numbers.
-/

/-! ### Fractions -/

/-- A numerator and a denominator, which is not zero. -/
abbrev Fraction := Int × Nat

namespace Fraction

/-- A fraction as precise as programs compute. -/
def rounded (x : Fraction) : Fraction :=
  match Precision.extended.roundFraction x.1.natAbs x.2 with
  | some (n, d) => (if x.1 < 0 then -(n : Int) else n, d)
  | none => x

/-- The sum of two fractions. -/
def plus (x y : Fraction) : Fraction :=
  if x.2 = y.2 then (x.1 + y.1, x.2) else (x.1 * y.2 + y.1 * x.2, x.2 * y.2)

/-- A fraction is less than another one. -/
def less (x y : Fraction) : Bool := decide (x.1 * y.2 < y.1 * x.2)

/-- A fraction as a quantity. -/
def toQuantity (x : Fraction) : Quantity := .finite (x.1 < 0) x.1.natAbs x.2

end Fraction

/-! ### Numbers to count with -/

/-- A number with how wide and with how many digits behind the point it is written. -/
structure SeqNumber where
  value : Quantity
  width : Int
  /-- None if the number does not tell. -/
  places : Option Nat
  deriving Repr

namespace SeqNumber

/-- The width of a numeral, and its digits behind the point. -/
def measure (t : Octets) : Int × Option Nat :=
  let mantissa := t.takeWhile fun c => c != 'e' && c != 'E'
  let hasPoint := t.contains '.'
  let back := ((t.dropWhile (· != '.')).drop 1).takeWhile fun c => c != 'e' && c != 'E'
  let front := t.takeWhile (· != '.')
  let width : Int := t.length
  let width := if !hasPoint then width
    else if back.isEmpty then width - 1
    else if front.getLast?.any Char.isDigit then width else width + 1
  let places := if hasPoint then back.length else 0
  if mantissa.length = t.length then (width, some places)
  else
    let e := (Quantity.readExponent 'e' (t.drop mantissa.length)).1
    let width := width - (t.length - mantissa.length : Nat)
    if e < 0 then
      let width := if hasPoint && !back.isEmpty then width else width + 1
      (width + e.natAbs, some (places + e.natAbs))
    else
      let left := places - min places e.natAbs
      let width := if hasPoint && left = 0 && !back.isEmpty then width - 1 else width
      (width + (e.natAbs - min back.length e.natAbs : Nat), some left)

/-- Read a number. -/
def read? (t : Octets) : Option SeqNumber :=
  match Quantity.read? t with
  | some (q, []) =>
    match q with
    | .nan _ => none
    | _ =>
      let u := t.dropWhile fun c => Octets.isSpace c || c == '+'
      let places := if u.contains '.' || u.contains 'p' then none else some 0
      match q with
      | .finite _ _ _ =>
        if u.any fun c => c == 'x' || c == 'X' then some ⟨q, 0, places⟩
        else
          let (width, places) := measure u
          some ⟨q, width, places⟩
      | _ => some ⟨q, 0, places⟩
  | _ => none

/-- The number as a whole number. -/
def int? (x : SeqNumber) : Option Int :=
  match x.value, x.places with
  | .finite negative num den, some 0 =>
    if num % den = 0 then some (Octets.signed negative (num / den)) else none
  | _, _ => none

/-- The number as a fraction; a large one for an infinity. -/
def fraction (x : SeqNumber) : Fraction :=
  match x.value with
  | .finite negative num den => Fraction.rounded (Octets.signed negative num, den)
  | .infinite negative => (Octets.signed negative (Nat.pow 2 20000), 1)
  | .nan _ => (0, 1)

/-- One. -/
def one : SeqNumber := ⟨.finite false 1 1, 1, some 0⟩

end SeqNumber

/-! ### Formats -/

/-- A number with texts around it. -/
structure SeqFormat where
  front : Octets
  spec : Printf.Spec
  back : Octets

namespace SeqFormat

/-- A text up to a percent sign that stands alone, and what follows it; two stand for one. -/
def plainText : Octets → Octets × Option Octets
  | [] => ([], none)
  | '%' :: '%' :: t =>
    let (u, rest) := plainText t
    ('%' :: u, rest)
  | '%' :: t => ([], some t)
  | c :: t =>
    let (u, rest) := plainText t
    (c :: u, rest)

/-- Read a format with one place for a number. -/
def read? (t : Octets) : Option SeqFormat :=
  match plainText t with
  | (_, none) => none
  | (front, some t) =>
    let flags := t.takeWhile "-+#0 '".toList.contains
    let t := t.drop flags.length
    let width := t.takeWhile Char.isDigit
    let (precision, t) : Option Nat × Octets := match t.drop width.length with
      | '.' :: t =>
        let ds := t.takeWhile Char.isDigit
        (some ((Octets.nat? ds).getD 0), t.drop ds.length)
      | t => (none, t)
    match if t.head? = some 'L' then t.drop 1 else t with
    | c :: t =>
      if "aefgAEFG".toList.contains c then
        match plainText t with
        | (back, none) => some ⟨front, ⟨flags, (Octets.nat? width).getD 0, precision, c⟩, back⟩
        | _ => none
      else none
    | [] => none

/-- The format that numbers suggest; `equal` if all are to be as wide. -/
def suggested (equal : Bool) (first step last : SeqNumber) : SeqFormat :=
  match first.places, step.places, last.places with
  | some a, some b, some c =>
    let places := max a b
    let width : Int :=
      if !equal then 0
      else
        let x := first.width + (places - a : Nat) + if a = 0 ∧ places ≠ 0 then 1 else 0
        let y := last.width + ((places : Int) - c) + (if c ≠ 0 ∧ places = 0 then -1 else 0) +
          if c = 0 ∧ places ≠ 0 then 1 else 0
        max x y
    ⟨[], ⟨['0'], width.toNat, some places, 'f'⟩, []⟩
  | _, _, _ => ⟨[], ⟨[], 0, none, 'g'⟩, []⟩

/-- A number without the texts around it. -/
def number (f : SeqFormat) (x : Fraction) : Octets := f.spec.quantity .extended x.toQuantity

/-- A number with the texts around it. -/
def shown (f : SeqFormat) (x : Fraction) : Octets := f.front ++ f.number x ++ f.back

end SeqFormat

/-! ### Rows -/

/-- A row of numbers. -/
structure SeqPlan where
  first : Fraction
  step : Fraction
  last : Fraction
  format : SeqFormat
  between : Octets

namespace SeqPlan

/-- A number is beyond the last one. -/
def isBeyond (q : SeqPlan) (x : Fraction) : Bool :=
  if q.step.1 < 0 then x.less q.last else q.last.less x

/-- The number at a position of the row. -/
def at' (q : SeqPlan) (i : Nat) : Fraction :=
  (q.first.plus (Fraction.rounded (q.step.1 * i, q.step.2))).rounded

/-- The number just beyond the last one is printed like the last one, and unlike the one before. -/
def isLastInPrint (q : SeqPlan) (before x : Fraction) : Bool :=
  match Quantity.read? (q.format.number x) with
  | some (.finite negative num den, []) =>
    let y := Fraction.rounded (Octets.signed negative num, den)
    !y.less q.last && !q.last.less y && q.format.number before != q.format.number x
  | _ => false

/-- Some more numbers of the row, each behind a separator; those so far are in reverse order, and
    the next position is returned if the row goes on. -/
def block (q : SeqPlan) : Nat → Nat → Fraction → List Octets → List Octets × Option (Nat × Fraction)
  | 0, i, before, done => (done, some (i, before))
  | n + 1, i, before, done =>
    let x := q.at' i
    if q.isBeyond x then
      (if q.isLastInPrint before x then (q.between ++ q.format.shown x) :: done else done, none)
    else block q n (i + 1) x ((q.between ++ q.format.shown x) :: done)

/-- How many numbers are printed at a time. -/
def blockLength : Nat := 500

/-- Print the rest of the row, in at most so many blocks. -/
def print (q : SeqPlan) : Nat → Nat → Fraction → Octets → Prog Nat
  | 0, _, _, _ => return 0
  | n + 1, i, before, front => do
    let (done, more) := q.block blockLength i before []
    let text := front ++ done.reverse.flatten
    match more with
    | none => Sys.printStatus (text ++ ['\n'])
    | some (i, before) => if ← Sys.print text then print q n i before [] else return 1

end SeqPlan

/-- Some more whole numbers, each behind a separator; those so far are in reverse order, and the
    next number is returned if the row goes on. -/
def intBlock (between : Octets) (width : Nat) (step : Int) (last : Option Int) :
    Nat → Int → List Octets → List Octets × Option Int
  | 0, i, done => (done, some i)
  | n + 1, i, done =>
    if last.any fun m => if step < 0 then i < m else m < i then (done, none)
    else
      let sign := if i < 0 then ['-'] else []
      let t := sign ++ Octets.padLeft (width - sign.length) '0' (Octets.ofNat i.natAbs)
      intBlock between width step last n (i + step) ((between ++ t) :: done)

/-- Print whole numbers, in at most so many blocks. -/
def printInts (between : Octets) (width : Nat) (step : Int) (last : Option Int) :
    Nat → Int → Bool → Prog Nat
  | 0, _, _ => return 0
  | n + 1, i, isFirst => do
    let (done, more) := intBlock between width step last SeqPlan.blockLength i []
    let text := done.reverse.flatten
    let text := if isFirst then text.drop between.length else text
    match more with
    | none => if isFirst && done.isEmpty then return 0 else Sys.printStatus (text ++ ['\n'])
    | some i => if ← Sys.print text then printInts between width step last n i false else return 1

namespace Tool

/-- The first number, the step and the last number that arguments give. -/
def seqNumbers? (args : List Octets) : Option (SeqNumber × SeqNumber × SeqNumber) := do
  match ← args.mapM SeqNumber.read? with
  | [last] => some (.one, .one, last)
  | [first, last] => some (first, .one, last)
  | [first, step, last] => if step.fraction.1 = 0 then none else some (first, step, last)
  | _ => none


/-- Print numbers with equal steps between them. -/
def seq : Tool := fun s args =>
  -- options end at the first number, which may be negative
  let isNumber (a : Octets) : Bool := match a with
    | '-' :: c :: _ => c.isDigit || c == '.'
    | _ => false
  let rec options : List Octets → List Octets
    | [] => []
    | a :: rest =>
      if isNumber a then ['-', '-'] :: a :: rest
      else match a with
        | ['-', 'f'] | ['-', 's'] => match rest with
          | v :: rest => a :: v :: options rest
          | [] => [a]
        | ['-', '-'] => a :: rest
        | '-' :: _ => a :: options rest
        | _ => a :: rest
  withOptions ((OptionSpec.of "f:s:w" [("format", "f"), ("separator", "s"),
    ("equal-width", "w")]).ordered) 1 (fun s p => do
    let format : Option (Option SeqFormat) := match p.value? "f" with
      | none => some none
      | some t => (SeqFormat.read? t).map some
    match seqNumbers? p.operands, format with
    | some (first, step, last), some format =>
      if format.isSome && p.has "w" then s.fail 1 "a format fixes the width"
      else
        let between := (p.value? "s").getD ['\n']
        let suggested := SeqFormat.suggested (p.has "w") first step last
        let lastInt : Option (Option Int) := match last.value with
          | .infinite negative => if negative then none else some none
          | _ => last.int?.map some
        match format, first.int?, step.int?, lastInt with
        | none, some i, some d, some m =>
          printInts between suggested.spec.width d m 1000000000 i true
        | _, _, _, _ =>
          let q : SeqPlan :=
            ⟨first.fraction, step.fraction, last.fraction, format.getD suggested, between⟩
          if q.isBeyond q.first then return 0
          else q.print 1000000000 1 q.first (q.format.shown q.first)
    | _, _ => s.fail 1 "invalid argument") s (options args)

/-! ### Factors -/

/-- A power of a number modulo another, for an exponent of at most so many binary digits. -/
def powerMod (m : Nat) : Nat → Nat → Nat → Nat → Nat
  | 0, _, _, r => r
  | n + 1, b, e, r =>
    if e = 0 then r else powerMod m n (b * b % m) (e / 2) (if e % 2 = 1 then r * b % m else r)

/-- An odd number stands a test for primes with a base: it is `2 ^ k * d + 1`. -/
def standsTest (n k d b : Nat) : Bool :=
  let x := powerMod n (d.log2 + 1) (b % n) d 1
  let rec squares : Nat → Nat → Bool
    | 0, _ => false
    | j + 1, x => x == n - 1 || squares j (x * x % n)
  b % n == 0 || x == 1 || squares k x

/-- How often two divides a number. -/
def twos : Nat → Nat → Nat
  | 0, _ => 0
  | f + 1, n => if n % 2 = 0 ∧ n ≠ 0 then twos f (n / 2) + 1 else 0

/-- A number greater than the squares of small primes is prime. -/
def isPrime (n : Nat) : Bool :=
  let k := twos (n.log2 + 1) (n - 1)
  let d := (n - 1) / Nat.pow 2 k
  [2, 3, 5, 7, 11, 13, 17, 19, 23, 29, 31, 37, 41].all (standsTest n k d)

/-- A divisor of a composite number, by the walk `x ↦ x² + c`, in at most so many steps. -/
def divisorFrom (n c : Nat) : Nat → Nat → Nat → Nat
  | 0, _, _ => n
  | f + 1, x, y =>
    let step (z : Nat) : Nat := (z * z + c) % n
    let x := step x
    let y := step (step y)
    let g := Nat.gcd (max x y - min x y) n
    if g = 1 then divisorFrom n c f x y else g

/-- The prime factors of a number without small ones, with so many splits at most. -/
def largeFactors : Nat → Nat → List Nat
  | 0, n => [n]
  | f + 1, n =>
    if n = 1 then []
    else if isPrime n then [n]
    else match ((List.range 20).map fun c => divisorFrom n (c + 1) 4000000 2 2).find? fun g =>
        g != n && g != 1 with
      | some g => largeFactors f g ++ largeFactors f (n / g)
      | none => [n]

/-- The prime factors of a number, from a possible one on, in at most so many steps. -/
def factorsFrom : Nat → Nat → Nat → List Nat
  | 0, _, n => (largeFactors 100 n).mergeSort
  | f + 1, d, n =>
    if n ≤ 1 then []
    else if n < d * d then [n]
    else if n % d = 0 then d :: factorsFrom f d (n / d)
    else factorsFrom f (d + if d = 2 then 1 else 2) n

/-- A number with its prime factors. -/
def factorLine (exponents : Bool) (n : Nat) : Octets :=
  let fs := factorsFrom 2000 2 n
  let shown : List Octets :=
    if exponents then fs.eraseDups.map fun f =>
      let k := fs.count f
      Octets.ofNat f ++ if k = 1 then [] else '^' :: Octets.ofNat k
    else fs.map Octets.ofNat
  Octets.ofNat n ++ ':' :: (shown.flatMap fun t => ' ' :: t) ++ ['\n']

/-- Print the prime factors of numbers. -/
def factor : Tool := withOptions (OptionSpec.of "h" [("exponents", "h")]) 1 fun s p => do
  let words ← if !p.operands.isEmpty then pure p.operands else do
    let t := ((← Sys.readAll 0).toOption).getD []
    pure ((Octets.fields ' ' (t.map fun c => if Octets.isSpace c then ' ' else c)).filter
      fun w => !w.isEmpty)
  let mut ok := true
  for w in words do
    let t := w.dropWhile (· == ' ')
    match Octets.nat? (if t.head? = some '+' then t.drop 1 else t) with
    | some n => discard (Sys.print (factorLine (p.has "h") n))
    | none =>
      s.complain "invalid number"
      ok := false
  return statusOf ok

end Tool

end FenceSync.Shell
