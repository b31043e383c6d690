import FenceSync.Shell.Quantity
import FenceSync.Shell.Tool.Text

namespace FenceSync.Shell

/-!
# Octets made visible

* `DumpType` is a way to show octets, and `DumpType.readAll?` reads several.
* `DumpPlan.lines` shows octets line by line.
* `Tool.od` does so with files.
-/

/-- How octets are shown. -/
inductive DumpKind where
  /-- The names of characters. -/
  | names
  /-- Characters, or their escapes. -/
  | chars
  | signed
  | unsigned
  | octal
  | hexadecimal
  | fractions
  deriving DecidableEq, Repr

/-- How octets are shown, so many at a time, and whether the line ends with the characters. -/
structure DumpType where
  kind : DumpKind
  size : Nat
  trailer : Bool
  deriving Repr

namespace DumpType

/-- The names of the characters that cannot be seen. -/
def controlNames : List String := [
  "nul", "soh", "stx", "etx", "eot", "enq", "ack", "bel", "bs", "ht", "nl", "vt", "ff", "cr", "so",
  "si", "dle", "dc1", "dc2", "dc3", "dc4", "nak", "syn", "etb", "can", "em", "sub", "esc", "fs",
  "gs",
  "rs", "us", "sp"]

/-- The width of a value, without the blank in front of it. -/
def width (t : DumpType) : Nat :=
  let pick (one two four eight : Nat) : Nat :=
    if t.size = 1 then one else if t.size = 2 then two else if t.size = 4 then four else eight
  match t.kind with
  | .names | .chars => 3
  | .signed => pick 4 6 11 20
  | .unsigned => pick 3 5 10 20
  | .octal => pick 3 6 11 22
  | .hexadecimal => pick 2 4 8 16
  | .fractions => pick 15 15 15 24

/-- The shortest numeral with at least so many digits that is read back as the same number of a
    format. -/
def shortest (p : Precision) (q : Quantity) : Nat → Nat → Octets
  | 0, _ => []
  | n + 1, digits =>
    match q with
    | .finite negative num den =>
      let t := (if negative then ['-'] else []) ++ Quantity.general digits false 'e' num den
      match Quantity.read? t with
      | some (r, _) => match p.round r with
        | .finite _ num' den' => if num * den' = num' * den then t else shortest p q n (digits + 1)
        | _ => shortest p q n (digits + 1)
      | none => t
    | .infinite negative => if negative then "-inf".toList else "inf".toList
    | .nan negative => if negative then "-nan".toList else "nan".toList

/-- The number of a binary format with significands of some bits that a word of some bits stands
    for. -/
def quantityOf (bits significand : Nat) (n : Nat) : Quantity :=
  let negative := n / Nat.pow 2 (bits - 1) % 2 = 1
  let stored := significand - 1
  let top := Nat.pow 2 (bits - significand) - 1
  let e := n / Nat.pow 2 stored % (top + 1)
  let m := n % Nat.pow 2 stored
  if e = top then if m = 0 then .infinite negative else .nan negative
  else
    let bias : Int := (Nat.pow 2 (bits - significand - 1) : Nat) - 1
    let (num, den) := if e = 0 then scaled 2 (1 - bias - stored) m 1
      else scaled 2 ((e : Int) - bias - stored) (Nat.pow 2 stored + m) 1
    .finite negative num den

/-- A value of some octets. -/
def value (t : DumpType) (big : Bool) (u : Octets) : Octets :=
  let n : Nat := (if big then u else u.reverse).foldl (fun n c => n * 256 + c.toNat) 0
  match t.kind with
  | .names =>
    let k := n % 128
    if k = 127 then "del".toList else ((controlNames[k]?).map String.toList).getD [Char.ofNat k]
  | .chars =>
    match n with
    | 0 => ['\\', '0']
    | 7 => ['\\', 'a']
    | 8 => ['\\', 'b']
    | 9 => ['\\', 't']
    | 10 => ['\\', 'n']
    | 11 => ['\\', 'v']
    | 12 => ['\\', 'f']
    | 13 => ['\\', 'r']
    | n => if Octets.isPrint (Char.ofNat n) then [Char.ofNat n]
      else Octets.padLeft 3 '0' (Nat.toDigits 8 n)
  | .signed =>
    let half := Nat.pow 2 (8 * t.size - 1)
    Octets.ofInt (if n < half then (n : Int) else (n : Int) - 2 * half)
  | .unsigned => Octets.ofNat n
  | .octal => Octets.padLeft t.width '0' (Nat.toDigits 8 n)
  | .hexadecimal => Octets.padLeft t.width '0' (Nat.toDigits 16 n)
  | .fractions =>
    -- numbers below the normal ones have fewer digits
    if t.size = 4 then
      shortest ⟨24, 128, -149⟩ (quantityOf 32 24 n) 20 (if n / 8388608 % 256 = 0 then 1 else 6)
    else shortest .double (quantityOf 64 53 n) 20
        (if n / 4503599627370496 % 2048 = 0 then 1 else 15)

/-- A size that a letter or a number gives, and what follows. -/
def readSize? (usual : Nat) (letters : List (Char × Nat)) (t : Octets) : Option (Nat × Octets) :=
  let ds := t.takeWhile Char.isDigit
  match Octets.nat? ds, t with
  | some n, _ => if letters.any fun e => e.2 == n then some (n, t.drop ds.length) else none
  | none, c :: rest => match letters.lookup c with
    | some n => some (n, rest)
    | none => some (usual, t)
  | none, [] => some (usual, [])

/-- Read several types, at most so many. -/
def readFrom : Nat → Octets → Option (List DumpType)
  | 0, _ => none
  | _ + 1, [] => some []
  | n + 1, c :: t => do
    let whole := [('C', 1), ('S', 2), ('I', 4), ('L', 8)]
    let (kind, size, t) ← match c with
      | 'a' => some (DumpKind.names, 1, t)
      | 'c' => some (.chars, 1, t)
      | 'd' => (readSize? 4 whole t).map fun (s, t) => (.signed, s, t)
      | 'u' => (readSize? 4 whole t).map fun (s, t) => (.unsigned, s, t)
      | 'o' => (readSize? 4 whole t).map fun (s, t) => (.octal, s, t)
      | 'x' => (readSize? 4 whole t).map fun (s, t) => (.hexadecimal, s, t)
      | 'f' => (readSize? 8 [('F', 4), ('D', 8)] t).map fun (s, t) => (.fractions, s, t)
      | _ => none
    let trailer := t.head? = some 'z'
    let rest ← readFrom n (if trailer then t.drop 1 else t)
    return ⟨kind, size, trailer⟩ :: rest

/-- Read several types. -/
def readAll? (t : Octets) : Option (List DumpType) := readFrom (t.length + 1) t

end DumpType

/-- How octets are shown. -/
structure DumpPlan where
  types : List DumpType
  /-- How many octets a line shows. -/
  width : Nat
  /-- The base of addresses, or none. -/
  radix : Option Nat
  /-- Lines like the one before are shown. -/
  verbose : Bool
  big : Bool

namespace DumpPlan

/-- The number of an octet. -/
def address (d : DumpPlan) (n : Nat) : Octets :=
  match d.radix with
  | some 16 => Octets.padLeft 6 '0' (Nat.toDigits 16 n)
  | some b => Octets.padLeft 7 '0' (Nat.toDigits b n)
  | none => []

/-- The width of a line of values, at least. -/
def lineWidth (d : DumpPlan) : Nat :=
  (d.types.map fun t => (t.width + 1) * (d.width / t.size)).foldl max 0

/-- The values of a line, of which there would be so many in a full one. -/
def values (d : DumpPlan) (t : DumpType) (u : Octets) : Octets :=
  let fields := d.width / t.size
  let spare := d.lineWidth - t.width * fields
  let blanks := (d.width - u.length) / t.size
  -- the spare room is spread over the fields
  let room (i : Nat) : Nat := spare * i / fields
  let full := u ++ List.replicate (t.size - 1) '\x00'
  let shown := (List.range (fields - blanks)).flatMap fun k =>
    let i := fields - k
    Octets.padLeft (room i - room (i - 1) + t.width) ' '
      (t.value d.big ((full.drop (k * t.size)).take t.size))
  if t.trailer then
    shown ++ List.replicate (blanks * t.width + spare * blanks / fields) ' ' ++ "  >".toList ++
      u.map (fun c => if Octets.isPrint c then c else '.') ++ ['<']
  else shown

/-- The lines for some octets. -/
def block (d : DumpPlan) (offset : Nat) (u : Octets) : Octets :=
  let margin := List.replicate (d.address 0).length ' '
  d.types.zipIdx.flatMap fun (t, i) =>
    (if i = 0 then d.address offset else margin) ++ d.values t u ++ ['\n']

/-- The lines for octets, cut to what a line shows.  The lines before are in reverse order; the one
    before may be repeated. -/
def linesFrom (d : DumpPlan) : Nat → Option Octets → Bool → List Octets → List Octets →
    List Octets × Nat
  | offset, _, _, done, [] => (done, offset)
  | offset, before, starred, done, u :: us =>
    let next := offset + u.length
    if !d.verbose && u.length = d.width && before = some u then
      linesFrom d next before true (if starred then done else ['*', '\n'] :: done) us
    else linesFrom d next (some u) false (d.block offset u :: done) us

/-- The lines for a text. -/
def lines (d : DumpPlan) (offset : Nat) (t : Octets) : Octets :=
  let (done, stop) := d.linesFrom offset none false [] (Octets.chunks d.width t)
  let last := if d.radix.isNone then [] else d.address stop ++ ['\n']
  done.reverse.flatten ++ last

/-- The strings in a text that have at least so many characters and a zero behind them; what was
    read of one is in reverse order. -/
def stringsFrom (d : DumpPlan) (least : Nat) : Nat → Octets → List Octets → Octets → List Octets
  | _, _, done, [] => done.reverse
  | offset, current, done, c :: t =>
    if c = '\x00' then
      if least ≤ current.length && !current.isEmpty then
        let front := d.address (offset - current.length)
        let line := front ++ (if front.isEmpty then [] else [' ']) ++ current.reverse ++ ['\n']
        stringsFrom d least (offset + 1) [] (line :: done) t
      else stringsFrom d least (offset + 1) [] done t
    else if Octets.isPrint c then stringsFrom d least (offset + 1) (c :: current) done t
    else stringsFrom d least (offset + 1) [] done t

end DumpPlan

namespace Tool

/-- Read up to so many octets of a descriptor, in at most so many blocks. -/
def readUpTo (fd : Nat) : Nat → Option Nat → List Octets → Prog Octets
  | 0, _, done => return done.reverse.flatten
  | n + 1, limit, done => do
    let size := match limit with
      | some m => min m Sys.blockSize
      | none => Sys.blockSize
    if size = 0 then return done.reverse.flatten
    match ← Sys.read fd size with
    | .ok [] | .error _ => return done.reverse.flatten
    | .ok t => readUpTo fd n (limit.map fun m => m - t.length) (t :: done)

/-- Read up to so many octets of files, one after the other; whether all could be read. -/
def readFiles (s : Setting) : List Octets → Option Nat → List Octets → Bool → Prog (Octets × Bool)
  | [], _, done, ok => return (done.reverse.flatten, ok)
  | path :: rest, limit, done, ok => do
    if limit = some 0 then return (done.reverse.flatten, ok)
    match ← Input.openAt path with
    | .error e =>
      s.complainOf path e
      readFiles s rest limit done false
    | .ok fd =>
      let t ← readUpTo fd Filter.blockLimit limit []
      Input.close fd
      readFiles s rest (limit.map fun m => m - t.length) (t :: done) ok

/-- A number that may be octal or hexadecimal, with a letter for its unit. -/
def offset? (t : Octets) : Option Nat :=
  match t with
  | '0' :: 'x' :: ds => Octets.natIn? 16 ds
  | '0' :: 'X' :: ds => Octets.natIn? 16 ds
  | '0' :: d :: ds =>
    let digits := (d :: ds).takeWhile Char.isDigit
    if digits.isEmpty then sized? t
    else match Octets.natIn? 8 digits, sized? ('1' :: (d :: ds).drop digits.length) with
      | some n, some unit => some (n * unit)
      | _, _ => none
  | t => sized? t

/-- The types that options ask for, in their order. -/
def dumpTypes? (p : Parsed) : Option (List DumpType) :=
  let found := p.given.mapM fun (key, v) =>
    match key with
    | "t" => DumpType.readAll? v
    | "a" => DumpType.readAll? ['a']
    | "b" => DumpType.readAll? "o1".toList
    | "c" => DumpType.readAll? ['c']
    | "d" => DumpType.readAll? "u2".toList
    | "D" => DumpType.readAll? "u4".toList
    | "f" => DumpType.readAll? "f4".toList
    | "e" | "F" => DumpType.readAll? "f8".toList
    | "h" | "x" => DumpType.readAll? "x2".toList
    | "H" | "X" => DumpType.readAll? "x4".toList
    | "i" => DumpType.readAll? "d4".toList
    | "I" | "l" | "L" => DumpType.readAll? "d8".toList
    | "o" | "B" => DumpType.readAll? "o2".toList
    | "O" => DumpType.readAll? "o4".toList
    | "s" => DumpType.readAll? "d2".toList
    | _ => some []
  found.map fun ts => if ts.flatten.isEmpty then [⟨.octal, 2, false⟩] else ts.flatten

/-- The base of addresses that a letter names. -/
def dumpRadix? (t : Octets) : Option (Option Nat) :=
  match t.head? with
  | some 'd' => some (some 10)
  | some 'o' => some (some 8)
  | some 'x' => some (some 16)
  | some 'n' => some none
  | _ => none

/-- Show the octets of files. -/
def od : Tool :=
  withOptions (OptionSpec.of "A:aBbcDdeFfHhIij:LlN:OoS:st:vw::Xx" [("skip-bytes", "j"),
    ("address-radix", "A"), ("read-bytes", "N"), ("format", "t"), ("output-duplicates", "v"),
    ("strings?", "S"), ("traditional", "traditional"), ("width", "w"), ("endian=", "endian")]) 1
    fun s p => do
  let number (key : String) (usual : Option Nat) : Option (Option Nat) := match p.value? key with
    | none => some usual
    | some t => (offset? t).map some
  -- an offset can stand behind the names of files
  let (names, offset) := match p.operands.reverse with
    | ('+' :: o) :: rest =>
      let isPlain := p.given.all fun e => !(["A", "j", "N", "t", "v", "w"].contains e.1)
      match if isPlain && rest.length ≤ 1 then Octets.natIn? 8 o else none with
      | some n => (rest.reverse, some n)
      | none => (p.operands, none)
    | _ => (p.operands, none)
  let width : Option (Option Nat) := match p.value? "w" with
    | none => some none
    | some [] => some (some 32)
    | some t => (sized? t).map some
  match dumpTypes? p, dumpRadix? ((p.value? "A").getD ['o']), number "j" offset, number "N" none,
      width with
  | some types, some radix, some skip, some limit, some width =>
    let unit := (types.map (·.size)).foldl Nat.lcm 1
    let width := match width with
      | some w => if w = 0 ∨ w % unit ≠ 0 then unit else w
      | none => if unit < 16 then unit * (16 / unit) else unit
    let skip := skip.getD 0
    let (t, ok) ← readFiles s (if names.isEmpty then [['-']] else names) (limit.map (skip + ·)) []
      true
    if t.length < skip then s.fail 1 "cannot skip past end of combined input"
    else
      let plan : DumpPlan := {
        types, width, radix, verbose := p.has "v"
        big := (p.value? "endian").any fun e => e.head? == some 'b' }
      let body := t.drop skip
      let least := match p.value? "S" with
        | some [] => some 3
        | some n => sized? n
        | none => none
      let out := match least with
        | some n => (plan.stringsFrom n skip [] [] body).flatten
        | none => plan.lines skip body
      return statusOf ((← Sys.print out) && ok)
  | _, _, _, _, _ => s.fail 1 "invalid argument"

end Tool

end FenceSync.Shell
