import FenceSync.Shell.Octet

namespace FenceSync.Shell

/-!
# Quantities

Numbers with a point, as programs read, round and print them.

* `Quantity` is a fraction with a sign, an infinity, or no number.
* `Quantity.read?` reads one from the start of a text.
* `Precision.round` rounds to what fits into a binary format.
* `Quantity.fixed`, `Quantity.exponential`, `Quantity.general` and `Quantity.hexadecimal` print one.
-/

/-- A number as programs compute with them. -/
inductive Quantity where
  /-- A fraction, whose denominator is not zero. -/
  | finite (negative : Bool) (num den : Nat)
  | infinite (negative : Bool)
  | nan (negative : Bool)
  deriving DecidableEq, Repr, Inhabited

/-- A binary format: the length of its significands, the exponent of two that is too large, and the
    smallest exponent of a last digit. -/
structure Precision where
  bits : Nat
  top : Nat
  bottom : Int
  deriving Repr

namespace Precision

/-- Significands of 53 bits. -/
def double : Precision := ⟨53, 1024, -1074⟩

/-- Significands of 64 bits. -/
def extended : Precision := ⟨64, 16384, -16445⟩

end Precision

/-- A quotient rounded to the nearest number, and to the even one of two. -/
def roundDiv (num den : Nat) : Nat :=
  let q := num / den
  let r := num % den
  if den < 2 * r ∨ (2 * r = den ∧ q % 2 = 1) then q + 1 else q

/-- A power of a base as a fraction. -/
def powerOf (base : Nat) (e : Int) : Nat × Nat :=
  if 0 ≤ e then (Nat.pow base e.toNat, 1) else (1, Nat.pow base (-e).toNat)

/-- The largest `e` for which a power of the base by `e` is at most the fraction, from a guess. -/
def magnitude (base : Nat) (num den : Nat) (guess : Int) : Int :=
  go 8 (guess + 3)
where
  go : Nat → Int → Int
    | 0, e => e
    | n + 1, e =>
      let (p, q) := powerOf base e
      if p * den ≤ num * q then e else go n (e - 1)

/-- The place of the leading binary digit. -/
def binaryMagnitude (num den : Nat) : Int := magnitude 2 num den ((num.log2 : Int) - den.log2)

/-- The place of the leading decimal digit. -/
def decimalMagnitude (num den : Nat) : Int :=
  let bits : Int := (num.log2 : Int) - den.log2
  magnitude 10 num den (bits * 30103 / 100000)

/-- A fraction times a power. -/
def scaled (base : Nat) (e : Int) (num den : Nat) : Nat × Nat :=
  let (p, q) := powerOf base e
  (num * p, den * q)

/-- The nearest fraction of a format; none if it is too large. -/
def Precision.roundFraction (p : Precision) (num den : Nat) : Option (Nat × Nat) :=
  if num = 0 then some (0, 1)
  else
    let e := binaryMagnitude num den
    let last := max (e - (p.bits - 1)) p.bottom
    let (n, d) := scaled 2 (-last) num den
    let (n, d) := scaled 2 last (roundDiv n d) 1
    if d * Nat.pow 2 p.top ≤ n then none else some (n, d)

/-- The nearest number of a format. -/
def Precision.round (p : Precision) : Quantity → Quantity
  | .finite negative num den =>
    match p.roundFraction num den with
    | some (n, d) => .finite negative n d
    | none => .infinite negative
  | q => q

namespace Quantity

/-! ### Reading -/

/-- The exponent behind its letter, and what follows. -/
def readExponent (letter : Char) (t : Octets) : Int × Octets :=
  match t with
  | c :: r =>
    if c.toLower = letter then
      let (negative, ds) := Octets.cutSign r
      let digits := ds.takeWhile Char.isDigit
      match Octets.nat? digits with
      | some n => (Octets.signed negative n, ds.drop digits.length)
      | none => (0, t)
    else (0, t)
  | [] => (0, t)

/-- Exponents beyond this count as this. -/
def exponentLimit : Int := 20000

/-- Read digits, a point and further digits in a base, with an exponent behind a letter. -/
def readFraction? (base : Nat) (letter : Char) (radix : Nat) (negative : Bool) (t : Octets) :
    Option (Quantity × Octets) :=
  let isDigit (c : Char) : Bool := (Octets.digit? base c).isSome
  let front := t.takeWhile isDigit
  let t := t.drop front.length
  let (back, t) := match t with
    | '.' :: r =>
      let back := r.takeWhile isDigit
      if front.isEmpty && back.isEmpty then ([], t) else (back, r.drop back.length)
    | t => ([], t)
  match Octets.natIn? base (front ++ back) with
  | none => none
  | some n =>
    let (e, t) := readExponent letter t
    let e := max (-exponentLimit) (min exponentLimit e)
    let (num, den) := scaled radix e n (Nat.pow base back.length)
    some (.finite negative num den, t)

/-- Read a number from the start of a text. -/
def read? (t : Octets) : Option (Quantity × Octets) :=
  let (negative, t) := Octets.cutSign (t.dropWhile Octets.isSpace)
  let small := t.map Char.toLower
  if "infinity".toList.isPrefixOf small then some (.infinite negative, t.drop 8)
  else if "inf".toList.isPrefixOf small then some (.infinite negative, t.drop 3)
  else if "nan".toList.isPrefixOf small then some (.nan negative, t.drop 3)
  else match t with
    | '0' :: x :: r =>
      if x.toLower = 'x' then
        (readFraction? 16 'p' 2 negative r).or (some (.finite negative 0 1, x :: r))
      else readFraction? 10 'e' 10 negative t
    | t => readFraction? 10 'e' 10 negative t

/-! ### Printing -/

/-- A fraction has a sign in front. -/
def isNegative : Quantity → Bool
  | .finite n _ _ => n
  | .infinite n => n
  | .nan n => n

/-- A fraction with so many digits behind the point. -/
def fixed (places : Nat) (point : Bool) (num den : Nat) : Octets :=
  let digits := Octets.padLeft (places + 1) '0'
    (Octets.ofNat (roundDiv (num * Nat.pow 10 places) den))
  let whole := digits.length - places
  digits.take whole ++ if places = 0 ∧ !point then [] else '.' :: digits.drop whole

/-- The digits of a fraction, of which one stands in front of the point, and the exponent. -/
def digitsOf (places : Nat) (num den : Nat) : Octets × Int :=
  if num = 0 then (List.replicate (places + 1) '0', 0)
  else
    let e := decimalMagnitude num den
    let (n, d) := scaled 10 (places - e) num den
    let m := roundDiv n d
    if Nat.pow 10 (places + 1) ≤ m then (Octets.ofNat (m / 10), e + 1) else (Octets.ofNat m, e)

/-- An exponent with its sign and at least two digits. -/
def exponent (letter : Char) (width : Nat) (e : Int) : Octets :=
  letter :: (if e < 0 then '-' else '+') :: Octets.padLeft width '0' (Octets.ofNat e.natAbs)

/-- A fraction with one digit in front of the point and an exponent. -/
def exponential (places : Nat) (point : Bool) (letter : Char) (num den : Nat) : Octets :=
  let (digits, e) := digitsOf places num den
  digits.take 1 ++ (if places = 0 ∧ !point then [] else '.' :: digits.drop 1) ++
    exponent letter 2 e

/-- A text without zeros behind the last digit that counts, and without a point at the end. -/
def withoutZeros (t : Octets) : Octets :=
  if t.contains '.' then
    match t.reverse.dropWhile (· == '0') with
    | '.' :: r => r.reverse
    | r => r.reverse
  else t

/-- A fraction with so many digits that count, in the shorter form. -/
def general (digits : Nat) (keepZeros : Bool) (letter : Char) (num den : Nat) : Octets :=
  let digits := max digits 1
  let (ds, e) := digitsOf (digits - 1) num den
  if e < -4 ∨ (digits : Int) ≤ e then
    let mantissa := ds.take 1 ++ '.' :: ds.drop 1
    (if keepZeros then mantissa else withoutZeros mantissa) ++ exponent letter 2 e
  else
    let t := fixed ((digits : Int) - 1 - e).toNat true num den
    if keepZeros then t else withoutZeros t

/-- A hexadecimal numeral. -/
def hexDigits (n : Nat) : Octets := Nat.toDigits 16 n

/-- A number of a format with hexadecimal digits and a binary exponent.  Significands of 64 bits
    have four of them in front of the point, others have one. -/
def hexadecimal (p : Precision) (places : Option Nat) (num den : Nat) : Octets :=
  let front : Nat := if p.bits = 64 then 4 else 1
  let tail : Nat := if p.bits = 64 then 15 else 13
  let (whole, digits, e) : Nat × Octets × Int :=
    if num = 0 then (0, [], 0)
    else
      let e := binaryMagnitude num den - (front - 1)
      let keep := (places.map fun n => min n tail).getD tail
      let (n, d) := scaled 2 (4 * (keep : Int) - e) num den
      let m := roundDiv n d
      (m / Nat.pow 16 keep, Octets.padLeft keep '0' (hexDigits (m % Nat.pow 16 keep)), e)
  let digits := match places with
    | some n => (digits ++ List.replicate (n - digits.length) '0').take n
    | none => (digits.reverse.dropWhile (· == '0')).reverse
  "0x".toList ++ hexDigits whole ++ (if digits.isEmpty then [] else '.' :: digits) ++
    exponent 'p' 1 e

/-! ### Comparing -/

/-- Numbers in order; what is no number comes first. -/
def less (a b : Quantity) : Bool :=
  let rank : Quantity → Int × Int × Nat := fun q => match q with
    | .nan _ => (0, 0, 1)
    | .infinite true => (1, 0, 1)
    | .finite n x y => (2, if n then -(x : Int) else x, y)
    | .infinite false => (3, 0, 1)
  let (i, m, d) := rank a
  let (j, n, e) := rank b
  i < j || (i == j && m * e < n * d)

end Quantity

end FenceSync.Shell
