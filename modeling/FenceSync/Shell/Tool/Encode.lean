import FenceSync.Shell.Tool.Basic

namespace FenceSync.Shell

/-!
# Digits for octets

* `Encoding` writes octets with digits of a base that is a power of two.
* `Encoding.encode` and `Encoding.decode` convert; `encode85?` and `decode85` do so with digits of
  base 85, which is no power of two.
* `Tool.encode` and `Tool.basenc` do so with files.
-/

/-- A way to write octets: digits, of which each stands for some bits, in groups. -/
structure Encoding where
  digits : Octets
  /-- The bits of a digit. -/
  bits : Nat
  /-- How many digits stand together; those that are missing at the end are written as `=`. -/
  group : Nat
  /-- Small and capital letters are the same. -/
  folds : Bool
  /-- The first digit has the lowest bit. -/
  lowFirst : Bool

namespace Encoding

/-- The letters and digits in order. -/
def letters : Octets := "ABCDEFGHIJKLMNOPQRSTUVWXYZ".toList

/-- Digits of six bits. -/
def base64 : Encoding :=
  ⟨letters ++ letters.map Char.toLower ++ "0123456789+/".toList, 6, 4, false, false⟩

/-- Digits of six bits that can stand in names. -/
def base64url : Encoding :=
  ⟨letters ++ letters.map Char.toLower ++ "0123456789-_".toList, 6, 4, false, false⟩

/-- Digits of five bits. -/
def base32 : Encoding := ⟨letters ++ "234567".toList, 5, 8, false, false⟩

/-- Digits of five bits in their order. -/
def base32hex : Encoding := ⟨"0123456789ABCDEFGHIJKLMNOPQRSTUV".toList, 5, 8, false, false⟩

/-- Digits of four bits. -/
def base16 : Encoding := ⟨"0123456789ABCDEF".toList, 4, 2, true, false⟩

/-- Digits of one bit, the highest first. -/
def base2 : Encoding := ⟨['0', '1'], 1, 8, false, false⟩

/-- Digits of one bit, the lowest first. -/
def base2low : Encoding := { base2 with lowFirst := true }

/-- The encoding with a name. -/
def of? (name : String) : Option Encoding :=
  match name with
  | "base64" => some base64
  | "base64url" => some base64url
  | "base32" => some base32
  | "base32hex" => some base32hex
  | "base16" => some base16
  | "base2msbf" => some base2
  | "base2lsbf" => some base2low
  | _ => none

/-- How many octets a group of digits stands for. -/
def octets (e : Encoding) : Nat := e.group * e.bits / 8

/-- So many digits of a number, the lowest first. -/
def lowDigits (e : Encoding) : Nat → Nat → Octets
  | 0, _ => []
  | k + 1, n => e.digits.getD (n % Nat.pow 2 e.bits) '0' :: lowDigits e k (n / Nat.pow 2 e.bits)

/-- The digits of a group of octets. -/
def encodeGroup (e : Encoding) (t : Octets) : Octets :=
  let value := t.foldl (fun n c => n * 256 + c.toNat) 0 * Nat.pow 256 (e.octets - t.length)
  let low := e.lowDigits e.group value
  let all := if e.lowFirst then low else low.reverse
  let used := (8 * t.length + e.bits - 1) / e.bits
  all.take used ++ List.replicate (e.group - used) '='

/-- Octets as digits. -/
def encode (e : Encoding) (t : Octets) : Octets := (Octets.chunks e.octets t).flatMap e.encodeGroup

/-- The value of a digit. -/
def digit? (e : Encoding) (c : Char) : Option Nat :=
  e.digits.idxOf? (if e.folds then c.toUpper else c)

/-- The first octets of a number that has so many bits. -/
def firstOctets (bits n k : Nat) : Octets :=
  (List.range k).map fun i => Char.ofNat (n / Nat.pow 2 (bits - 8 * (i + 1)) % 256)

/-- The octets of a group of digits, and whether all is well.  Of a group with a fault, those are
    kept whose digits come before it. -/
def decodeGroup (e : Encoding) (t : Octets) : Octets × Bool :=
  let found := t.takeWhile fun c => (e.digit? c).isSome
  let values := found.filterMap e.digit?
  let values := if e.lowFirst then values.reverse else values
  let value := values.foldl (fun n v => n * Nat.pow 2 e.bits + v) 0
  let count := found.length * e.bits / 8
  let out := firstOctets (found.length * e.bits) value count
  let rest := t.drop found.length
  -- as many digits as the octets need, and no more
  let exact := (8 * count + e.bits - 1) / e.bits = found.length
  let padded := rest.all (· == '=') && found.length + rest.length = e.group
  if found.length = e.group then (out, true)
  else if padded && exact && count ≠ 0 && e.group ≠ 2 && e.bits ≠ 1 then (out, true)
  else if e.bits = 6 || e.bits = 4 then (out, false)
  else if t.length < e.group then ([], false)
  else (out, false)

/-- The octets that digits stand for, up to the first fault. -/
def decodeGroups (e : Encoding) : List Octets → List Octets → Octets × Bool
  | done, [] => (done.reverse.flatten, true)
  | done, g :: gs =>
    match e.decodeGroup g with
    | (out, true) => decodeGroups e (out :: done) gs
    | (out, false) => ((out :: done).reverse.flatten, false)

/-- The octets that digits stand for, up to the first fault; line feeds do not count, and nothing
    but digits if `lenient`. -/
def decode (e : Encoding) (lenient : Bool) (t : Octets) : Octets × Bool :=
  let kept := t.filter fun c =>
    c != '\n' && (!lenient || c == '=' || (e.digit? c).isSome)
  decodeGroups e [] (Octets.chunks e.group kept)

end Encoding

/-- Digits of base 85, five of which stand for four octets. -/
def digits85 : Octets :=
  "0123456789abcdefghijklmnopqrstuvwxyzABCDEFGHIJKLMNOPQRSTUVWXYZ".toList ++
    ".-:+=^!/*?&<>()[]\x7b\x7d@%$#".toList

/-- Five digits for each four octets; none if octets are left over. -/
def encode85? (t : Octets) : Option Octets :=
  if t.length % 4 ≠ 0 then none
  else some ((Octets.chunks 4 t).flatMap fun g =>
    let n := g.foldl (fun n c => n * 256 + c.toNat) 0
    (List.range 5).map fun i => digits85.getD (n / Nat.pow 85 (4 - i) % 85) '0')

/-- Four octets for each five digits, up to the first fault; line feeds do not count, and nothing
    but digits if `lenient`. -/
def decode85 (lenient : Bool) (t : Octets) : Octets × Bool :=
  let kept := t.filter fun c => c != '\n' && (!lenient || digits85.contains c)
  let groups := Octets.chunks 5 kept
  let value? (g : Octets) : Option Nat :=
    if g.length ≠ 5 then none
    else ((g.mapM digits85.idxOf?).map fun vs => vs.foldl (fun n v => n * 85 + v) 0).filter
      (· < 4294967296)
  let values := (groups.map value?).takeWhile Option.isSome
  (values.flatMap fun v => Encoding.firstOctets 32 (v.getD 0) 4, values.length == groups.length)

namespace Tool

/-- Convert a file to digits or back, in one of two ways. -/
def convert (s : Setting) (p : Parsed) (encode : Octets → Option Octets)
    (decode : Bool → Octets → Octets × Bool) : Prog Nat := do
  let width : Option Nat := match p.value? "w" with
    | none => some 76
    | some t => Octets.nat? t
  match p.operands.drop 1, width with
  | [], some width =>
    let path := p.operands.headD ['-']
    match ← Input.content path with
    | .error f =>
      s.complainOf path f
      return 1
    | .ok t =>
      if p.has "d" then
        let (out, ok) := decode (p.has "i") t
        let written ← Sys.print out
        if !ok then s.complain "invalid input"
        return statusOf (written && ok)
      else
        match encode t with
        | some out =>
          Sys.printStatus (if width = 0 then out
            else Octets.unlines (Octets.chunks width out))
        | none => s.fail 1 "invalid input"
  | _, _ => s.fail 1 "invalid argument"

/-- Convert a file to digits of one kind or back. -/
def runEncoding (s : Setting) (p : Parsed) (e : Encoding) : Prog Nat :=
  convert s p (fun t => some (e.encode t)) e.decode

/-- The options of programs that convert to digits. -/
def encodingOptions : List (String × String) :=
  [("decode", "d"), ("ignore-garbage", "i"), ("wrap", "w")]

/-- Convert a file to digits of one kind or back. -/
def encode (e : Encoding) : Tool :=
  withOptions (OptionSpec.of "diw:" encodingOptions) 1 fun s p => runEncoding s p e

/-- Convert a file to digits of a chosen kind or back. -/
def basenc : Tool :=
  let kinds := ["base64", "base64url", "base32", "base32hex", "base16", "base2msbf", "base2lsbf",
    "z85"]
  withOptions (OptionSpec.of "diw:" (encodingOptions ++ kinds.map fun k => (k, k))) 1 fun s p => do
  match p.last? kinds with
  | none => s.fail 1 "missing encoding type"
  | some kind => match Encoding.of? kind with
    | some e => runEncoding s p e
    | none => convert s p encode85? decode85

end Tool

end FenceSync.Shell
