import FenceSync.Shell.Calendar
import FenceSync.Shell.Expand
import FenceSync.Shell.Quantity

namespace FenceSync.Shell

/-!
# Formatted printing

* `Speaker` is who prints: one of the shells, or a program of its own.
* `Escape.read` reads what stands behind a backslash.
* `Printf.run` fills arguments into a format, again and again until none is left.
* `Echo.run` prints arguments as they are.
-/

/-- Who prints. -/
inductive Speaker where
  | shell (d : Dialect)
  | program
  deriving DecidableEq, Repr

namespace Speaker

/-- The simpler shell. -/
def isPosix (s : Speaker) : Bool := s == .shell .posix

/-- The richer shell. -/
def isBash (s : Speaker) : Bool := s == .shell .bash

end Speaker

/-- What stands behind a backslash. -/
inductive Escape where
  | text (t rest : Octets)
  /-- Nothing more is printed. -/
  | stop

namespace Escape

/-- An octal number of at most so many digits. -/
def octal (most : Nat) (t : Octets) : Escape :=
  let (ds, rest) := Reading.takeDigits 8 most t
  .text [Reading.octetOf (Reading.valueIn 8 ds)] rest

/-- A character by its code in hexadecimal digits, as one octet or in UTF-8. -/
def hexadecimal (letter : Char) (t : Octets) : Escape :=
  let most := if letter = 'x' then 2 else if letter = 'u' then 4 else 8
  let (ds, rest) := Reading.takeDigits 16 most t
  if ds.isEmpty then .text ['\\', letter] rest
  else if letter = 'x' then .text [Reading.octetOf (Reading.valueIn 16 ds)] rest
  else .text (Reading.utf8Of (Reading.valueIn 16 ds)) rest

/-- Where a backslash stands. -/
inductive Site where
  | format
  | argument
  /-- In what is printed without a format. -/
  | plain
  deriving DecidableEq, Repr

/-- What stands behind a backslash. -/
def read (s : Speaker) (site : Site) (t : Octets) : Escape :=
  let inArgument := site != .format
  match t with
  | [] => .text ['\\'] []
  | c :: r =>
    let asIs : Escape := .text ['\\', c] r
    match Reading.simpleEscape? c with
    | some d => .text [d] r
    | none =>
      if c = 'c' then
        if inArgument || s = .program then .stop else asIs
      else if c = '0' ∧ inArgument then octal 3 r
      else if '0' ≤ c ∧ c ≤ '7' then if site = .plain ∧ s.isBash then asIs else octal 3 t
      else if c = 'e' then .text ['\x1b'] r
      else if s.isPosix then .text ['\\'] t
      else if c = 'E' ∧ s.isBash then .text ['\x1b'] r
      else if c = 'x' ∨ c = 'u' ∨ c = 'U' then hexadecimal c r
      else if (c = '"' ∨ c = '\'') ∧ !inArgument then .text [c] r
      else if c = '?' ∧ !inArgument ∧ s.isBash then .text [c] r
      else if c = '"' ∧ s = .program then .text [c] r
      else asIs

/-- A text with its escapes read, in at most so many steps, and whether it goes on; it is in reverse
    order. -/
def expandFrom (s : Speaker) (site : Site) : Nat → Octets → Octets → Octets × Bool
  | 0, done, _ => (done, true)
  | _ + 1, done, [] => (done, true)
  | n + 1, done, '\\' :: t =>
    match read s site t with
    | .stop => (done, false)
    | .text u rest => expandFrom s site n (u.reverse ++ done) rest
  | n + 1, done, c :: t => expandFrom s site n (c :: done) t

/-- A text with its escapes read, and whether it goes on. -/
def expand (s : Speaker) (site : Site) (t : Octets) : Octets × Bool :=
  let (u, more) := expandFrom s site (t.length + 1) [] t
  (u.reverse, more)

end Escape

/-! ### Numbers in arguments -/

namespace Numeral

/-- A number in a base that its start tells, its size, and what follows. -/
def readNat (t : Octets) : Option (Nat × Octets) :=
  let digits (base : Nat) (t : Octets) : Option (Nat × Octets) :=
    let ds := t.takeWhile fun c => (Octets.digit? base c).isSome
    (Octets.natIn? base ds).map fun n => (n, t.drop ds.length)
  match t with
  | '0' :: x :: r =>
    if x.toLower = 'x' then (digits 16 r).or (some (0, x :: r)) else digits 8 t
  | t => digits 10 t

/-- The code of the character behind a quote. -/
def charCode (s : Speaker) (t : Octets) : Nat :=
  match t with
  | [] => 0
  | c :: _ =>
    if s.isPosix || c.toNat < 0x80 then c.toNat
    else
      let length := if c.toNat < 0xE0 then 2 else if c.toNat < 0xF0 then 3 else 4
      match Bytes.text? (Octets.toBytes (t.take length)) with
      | some (d :: _) => d.toNat
      | _ => c.toNat

/-- The number that an argument stands for within bounds, and whether all of it is one. -/
def readInt (s : Speaker) (least most : Int) (t : Octets) : Int × Bool :=
  match t with
  | '\'' :: r => (charCode s r, true)
  | '"' :: r => (charCode s r, true)
  | _ =>
    if t.isEmpty then (0, true)
    else
      let (negative, r) := Octets.cutSign (t.dropWhile Octets.isSpace)
      match readNat r with
      | none => (0, false)
      | some (n, rest) =>
        let value := Octets.signed negative n
        (max least (min most value), rest.isEmpty && least ≤ value && value ≤ most)

end Numeral

namespace Printf

/-! ### Specifications -/

/-- A place of a format where an argument goes. -/
structure Spec where
  flags : List Char
  width : Nat
  precision : Option Nat
  conversion : Char
  deriving Repr

namespace Spec

/-- A flag is given. -/
def has (s : Spec) (c : Char) : Bool := s.flags.contains c

/-- A text brought to the width. -/
def fit (s : Spec) (t : Octets) : Octets :=
  if s.has '-' then Octets.padRight s.width t else Octets.padLeft s.width ' ' t

/-- A sign or prefix and digits brought to the width, with zeros between them if that is asked
    for. -/
def fitNumber (s : Spec) (zeros : Bool) (sign digits : Octets) : Octets :=
  if zeros && s.has '0' && !s.has '-' then
    sign ++ Octets.padLeft (s.width - sign.length) '0' digits
  else s.fit (sign ++ digits)

/-- The sign of a number. -/
def sign (s : Spec) (negative : Bool) : Octets :=
  if negative then ['-'] else if s.has '+' then ['+'] else if s.has ' ' then [' '] else []

/-- At least as many digits as the precision says; none for zero if that says none. -/
def digits (s : Spec) (n : Nat) (t : Octets) : Octets :=
  match s.precision with
  | some 0 => if n = 0 then [] else t
  | some p => Octets.padLeft p '0' t
  | none => t

/-- A number with a sign. -/
def int (s : Spec) (n : Int) : Octets :=
  s.fitNumber s.precision.isNone (s.sign (n < 0)) (s.digits n.natAbs (Octets.ofNat n.natAbs))

/-- A number without a sign. -/
def nat (s : Spec) (n : Nat) : Octets :=
  match s.conversion with
  | 'o' =>
    let t := s.digits n (Nat.toDigits 8 n)
    let t := if s.has '#' && t.head? != some '0' then '0' :: t else t
    s.fitNumber s.precision.isNone [] t
  | 'x' =>
    let front := if s.has '#' && n != 0 then ['0', 'x'] else []
    s.fitNumber s.precision.isNone front (s.digits n (Nat.toDigits 16 n))
  | 'X' =>
    let front := if s.has '#' && n != 0 then ['0', 'X'] else []
    s.fitNumber s.precision.isNone front (s.digits n ((Nat.toDigits 16 n).map Char.toUpper))
  | _ => s.fitNumber s.precision.isNone [] (s.digits n (Octets.ofNat n))

/-- A number with a point, rounded to a format before. -/
def quantity (s : Spec) (p : Precision) (q : Quantity) : Octets :=
  let q := p.round q
  let capital := s.conversion.isUpper
  let recase (t : Octets) : Octets := if capital then t.map Char.toUpper else t
  let sign := s.sign q.isNegative
  match q with
  | .infinite _ => s.fitNumber false sign (recase "inf".toList)
  | .nan _ => s.fitNumber false sign (recase "nan".toList)
  | .finite _ num den =>
    let places := s.precision.getD 6
    let point := s.has '#'
    match s.conversion.toLower with
    | 'e' => s.fitNumber true sign (recase (Quantity.exponential places point 'e' num den))
    | 'g' => s.fitNumber true sign (recase (Quantity.general places point 'e' num den))
    | 'a' =>
      let t := Quantity.hexadecimal p s.precision num den
      s.fitNumber true (sign ++ recase (t.take 2)) (recase (t.drop 2))
    | _ => s.fitNumber true sign (Quantity.fixed places point num den)

/-- A text, cut at the precision. -/
def text (s : Spec) (t : Octets) : Octets :=
  s.fit (match s.precision with
    | some p => t.take p
    | none => t)

end Spec

/-! ### Printing -/

/-- Printing as far as it got. -/
structure State where
  /-- What was printed, in reverse order. -/
  out : Octets
  args : List Octets
  /-- An argument was used. -/
  used : Bool
  /-- What went wrong, the last fault first. -/
  faults : List String

/-- The next argument; an empty one if there is none. -/
def State.next (st : State) : Octets × State :=
  match st.args with
  | [] => ([], { st with used := true })
  | a :: rest => (a, { st with args := rest, used := true })

/-- Print a text. -/
def State.put (st : State) (t : Octets) : State := { st with out := t.reverse ++ st.out }

/-- Something is wrong with an argument. -/
def State.fault (st : State) (text : String) : State := { st with faults := text :: st.faults }

/-- A number as an argument, within bounds. -/
def State.nextInt (sp : Speaker) (least most : Int) (st : State) : Int × State :=
  let (a, st) := st.next
  let (n, ok) := Numeral.readInt sp least most a
  (n, if ok then st else st.fault s!"{Octets.toString a}: invalid number")

/-- The bounds of numbers with a sign. -/
def leastInt : Int := -9223372036854775808
def mostInt : Int := 9223372036854775807
def mostNat : Int := 18446744073709551615

/-- Print an argument as a specification says; none if there is no such conversion, and whether
    printing goes on. -/
def convert (sp : Speaker) (spec : Spec) (st : State) : Option (State × Bool) :=
  match spec.conversion with
  | 'd' | 'i' =>
    let (n, st) := st.nextInt sp leastInt mostInt
    some (st.put (spec.int n), true)
  | 'o' | 'u' | 'x' | 'X' =>
    let (n, st) := st.nextInt sp (-mostNat) mostNat
    some (st.put (spec.nat (n % (mostNat + 1)).toNat), true)
  | 'c' =>
    let (a, st) := st.next
    some (st.put (spec.fit [a.head?.getD '\x00']), true)
  | 's' =>
    let (a, st) := st.next
    some (st.put (spec.text a), true)
  | 'b' =>
    let (a, st) := st.next
    let (t, more) := Escape.expand sp .argument a
    some (st.put (spec.text t), more)
  | 'q' =>
    if sp.isPosix then none
    else
      let (a, st) := st.next
      let t := if sp.isBash then Expand.backslashed a
        else if !a.isEmpty && a.all (fun c => c.isAlphanum || "%+,-./:=@_".toList.contains c) then a
        else Expand.quotedWord a
      some (st.put (spec.text t), true)
  | 'f' | 'F' | 'e' | 'E' | 'g' | 'G' | 'a' | 'A' =>
    let (a, st) := st.next
    let precision := if sp.isPosix then Precision.double else .extended
    match a with
    | '\'' :: r | '"' :: r =>
      some (st.put (spec.quantity precision (.finite false (Numeral.charCode sp r) 1)), true)
    | _ =>
      match Quantity.read? a with
      | some (q, rest) =>
        let st := if rest.isEmpty then st
          else st.fault s!"{Octets.toString a}: invalid number"
        some (st.put (spec.quantity precision q), true)
      | none =>
        let st := if a.isEmpty then st else st.fault s!"{Octets.toString a}: invalid number"
        some (st.put (spec.quantity precision (.finite false 0 1)), true)
  | _ => none

/-- A width or precision, which an argument can give; none if there is none. -/
def readSize (sp : Speaker) (t : Octets) (st : State) : Option Int × Octets × State :=
  match t with
  | '*' :: t =>
    let (n, st) := st.nextInt sp (-2147483648) 2147483647
    (some n, t, st)
  | t =>
    let ds := t.takeWhile Char.isDigit
    ((Octets.nat? ds).map fun n => (n : Int), t.drop ds.length, st)

/-- The format of a time between parentheses, in front of `T`, and what follows. -/
def timeFormat? (t : Octets) : Option (Octets × Octets) :=
  match t with
  | '(' :: r =>
    match r.span (· != ')') with
    | (format, ')' :: 'T' :: rest) => some (format, rest)
    | _ => none
  | _ => none

/-- Print a specification behind its percent sign, and read on; none if it is wrong. -/
def spec (sp : Speaker) (t : Octets) (st : State) : Option (State × Octets × Bool) :=
  let known := if sp.isPosix then "#-+ 0".toList else "#-+ 0'".toList
  let flags := t.takeWhile known.contains
  let (width, t, st) := readSize sp (t.drop flags.length) st
  let (precision, t, st) : Option Int × Octets × State := match t with
    | '.' :: t =>
      let (p, t, st) := readSize sp t st
      (some (p.getD 0), t, st)
    | t => (none, t, st)
  let t := if sp.isPosix then t else t.dropWhile "hlLjzt".toList.contains
  let flags := if width.any (· < 0) then '-' :: flags else flags
  let precision := (precision.filter (0 ≤ ·)).map Int.toNat
  let spec (c : Char) : Spec := ⟨flags, (width.getD 0).natAbs, precision, c⟩
  match (if sp.isBash then timeFormat? t else none), t with
  | some (format, t), _ =>
    let (n, st) := st.nextInt sp leastInt mostInt
    let format := if format.isEmpty then "%X".toList else format
    some (st.put ((spec 'T').text (Moment.format Zone.universal (n * 1000000000) format)), t, true)
  | none, [] => none
  | none, c :: t => (convert sp (spec c) st).map fun (st, more) => (st, t, more)

/-- Go through a format once, in at most so many steps; whether printing goes on, or none if the
    format is wrong. -/
def once (sp : Speaker) : Nat → Octets → State → State × Option Bool
  | 0, _, st => (st, some true)
  | _ + 1, [], st => (st, some true)
  | n + 1, '\\' :: t, st =>
    match Escape.read sp .format t with
    | .stop => (st, some false)
    | .text u rest => once sp n rest (st.put u)
  | n + 1, '%' :: '%' :: t, st => once sp n t (st.put ['%'])
  | n + 1, '%' :: t, st =>
    match spec sp t st with
    | none => (st.fault "invalid directive", none)
    | some (st, _, false) => (st, some false)
    | some (st, rest, true) => once sp n rest st
  | n + 1, c :: t, st => once sp n t (st.put [c])

/-- Go through a format until no argument is left, at most so many times. -/
def rounds (sp : Speaker) (format : Octets) : Nat → State → State × Bool
  | 0, st => (st, true)
  | n + 1, st =>
    match once sp (format.length + 1) format { st with used := false } with
    | (st, none) => (st, false)
    | (st, some false) => (st, true)
    | (st, some true) =>
      if st.args.isEmpty || !st.used then (st, true) else rounds sp format n st

/-- What printing leads to. -/
structure Result where
  out : Octets
  faults : List String
  /-- The format could be read. -/
  ok : Bool

/-- Fill arguments into a format. -/
def run (sp : Speaker) (format : Octets) (args : List Octets) : Result :=
  let (st, ok) := rounds sp format (args.length + 1) ⟨[], args, false, []⟩
  ⟨st.out.reverse, st.faults.reverse, ok⟩

end Printf

namespace Echo

/-- The options in front of what is printed: no line feed at the end, and escapes are read. -/
def options (s : Speaker) (noFeed escapes : Bool) :
    List Octets → (Bool × Bool) × List Octets
  | [] => ((noFeed, escapes), [])
  | a :: rest =>
    if s.isPosix then
      if a = ['-', 'n'] then ((true, escapes), rest) else ((noFeed, escapes), a :: rest)
    else match a with
      | '-' :: cs =>
        if !cs.isEmpty && cs.all (fun c => c == 'n' || c == 'e' || c == 'E') then
          let last := (cs.filter (· != 'n')).getLast?
          options s (noFeed || cs.contains 'n')
            (match last with
              | some c => c == 'e'
              | none => escapes) rest
        else ((noFeed, escapes), a :: rest)
      | _ => ((noFeed, escapes), a :: rest)

/-- What is printed for arguments. -/
def run (s : Speaker) (readsEscapes : Bool) (args : List Octets) : Octets :=
  let ((noFeed, escapes), words) := options s false (s.isPosix || readsEscapes) args
  let t := Octets.join [' '] words
  let (t, more) := if escapes then Escape.expand s .plain t else (t, true)
  if noFeed || !more then t else t ++ ['\n']

end Echo

end FenceSync.Shell
