import FenceSync.Shell.Octet

namespace FenceSync.Shell

/-!
# Digests

Short numbers for long texts.  All computing is with words of a fixed length, which are natural
numbers below a power of two.

* `Digest.md5`, `Digest.sha1`, `Digest.sha2` and `Digest.blake2b` are digests by words.
* `Digest.crc`, `Digest.rotatingSum` and `Digest.plainSum` are checksums.
-/

namespace Digest

/-! ### Words -/

/-- A number cut to a word of so many bits. -/
def cut (bits n : Nat) : Nat := n % Nat.pow 2 bits

/-- A word rotated to the right. -/
def rotateRight (bits k x : Nat) : Nat := (x >>> k) ||| cut bits (x <<< (bits - k))

/-- A word rotated to the left. -/
def rotateLeft (bits k x : Nat) : Nat := cut bits (x <<< k) ||| (x >>> (bits - k))

/-- The bits that a word does not have. -/
def complement (bits x : Nat) : Nat := (Nat.pow 2 bits - 1) ^^^ x

/-- The value of octets, the first one being the highest. -/
def bigValue (t : Octets) : Nat := t.foldl (fun n c => n * 256 + c.toNat) 0

/-- The value of octets, the first one being the lowest. -/
def littleValue (t : Octets) : Nat := t.foldr (fun c n => n * 256 + c.toNat) 0

/-- So many octets of a number, the lowest first. -/
def littleOctets : Nat → Nat → Octets
  | 0, _ => []
  | k + 1, n => Char.ofNat (n % 256) :: littleOctets k (n / 256)

/-- So many octets of a number, the highest first. -/
def bigOctets (k n : Nat) : Octets := (littleOctets k n).reverse

/-- A text with one bit, zeros and its length behind it, so that blocks are full. -/
def padded (block : Nat) (little : Bool) (t : Octets) : Octets :=
  let tail := block / 8
  let zeros := (block - (t.length + 1 + tail) % block) % block
  let length := 8 * t.length
  t ++ '\x80' :: List.replicate zeros '\x00' ++
    if little then littleOctets tail length else bigOctets tail length

/-! ### Constants -/

/-- The largest number whose power is at most a given number, of at most so many bits. -/
def root (power n : Nat) : Nat → Nat
  | 0 => 0
  | k + 1 =>
    let high := root power (n >>> power) k
    let low := 2 * high
    if Nat.pow (low + 1) power ≤ n then low + 1 else low

/-- The first bits behind the point of a root of a number. -/
def rootBits (bits power n : Nat) : Nat := cut bits (root power (n <<< (power * bits)) (bits + 16))

/-- The primes up to 409, of which there are 80. -/
def primes : List Nat :=
  (List.range 410).filter fun n => 2 ≤ n && (List.range 21).all fun d => d < 2 || n = d || n % d ≠ 0

/-! ### Digests of the first kind -/

/-- The constants of `md5`: the sines of whole numbers. -/
def sines : Array Nat := #[
  0xd76aa478, 0xe8c7b756, 0x242070db, 0xc1bdceee, 0xf57c0faf, 0x4787c62a, 0xa8304613, 0xfd469501,
  0x698098d8, 0x8b44f7af, 0xffff5bb1, 0x895cd7be, 0x6b901122, 0xfd987193, 0xa679438e, 0x49b40821,
  0xf61e2562, 0xc040b340, 0x265e5a51, 0xe9b6c7aa, 0xd62f105d, 0x02441453, 0xd8a1e681, 0xe7d3fbc8,
  0x21e1cde6, 0xc33707d6, 0xf4d50d87, 0x455a14ed, 0xa9e3e905, 0xfcefa3f8, 0x676f02d9, 0x8d2a4c8a,
  0xfffa3942, 0x8771f681, 0x6d9d6122, 0xfde5380c, 0xa4beea44, 0x4bdecfa9, 0xf6bb4b60, 0xbebfbc70,
  0x289b7ec6, 0xeaa127fa, 0xd4ef3085, 0x04881d05, 0xd9d4d039, 0xe6db99e5, 0x1fa27cf8, 0xc4ac5665,
  0xf4292244, 0x432aff97, 0xab9423a7, 0xfc93a039, 0x655b59c3, 0x8f0ccc92, 0xffeff47d, 0x85845dd1,
  0x6fa87e4f, 0xfe2ce6e0, 0xa3014314, 0x4e0811a1, 0xf7537e82, 0xbd3af235, 0x2ad7d2bb, 0xeb86d391]

/-- A round of `md5` with one of the words of a block. -/
def md5Round (words : Array Nat) (h : Nat × Nat × Nat × Nat) (i : Nat) : Nat × Nat × Nat × Nat :=
  let (a, b, c, d) := h
  let (f, g, shifts) : Nat × Nat × List Nat :=
    if i < 16 then ((b &&& c) ||| (complement 32 b &&& d), i, [7, 12, 17, 22])
    else if i < 32 then ((d &&& b) ||| (complement 32 d &&& c), (5 * i + 1) % 16, [5, 9, 14, 20])
    else if i < 48 then (b ^^^ c ^^^ d, (3 * i + 5) % 16, [4, 11, 16, 23])
    else (c ^^^ (b ||| complement 32 d), (7 * i) % 16, [6, 10, 15, 21])
  let x := cut 32 (a + f + sines.getD i 0 + words.getD g 0)
  (d, cut 32 (b + rotateLeft 32 (shifts.getD (i % 4) 0) x), b, c)

/-- The digest `md5`. -/
def md5 (t : Octets) : Octets :=
  let step (h : Nat × Nat × Nat × Nat) (block : Octets) : Nat × Nat × Nat × Nat :=
    let words := ((Octets.chunks 4 block).map littleValue).toArray
    let (a, b, c, d) := (List.range 64).foldl (md5Round words) h
    (cut 32 (h.1 + a), cut 32 (h.2.1 + b), cut 32 (h.2.2.1 + c), cut 32 (h.2.2.2 + d))
  let (a, b, c, d) := (Octets.chunks 64 (padded 64 true t)).foldl step
    (0x67452301, 0xefcdab89, 0x98badcfe, 0x10325476)
  [a, b, c, d].flatMap (littleOctets 4)

/-! ### Digests with a schedule -/

/-- Extend the words of a block by what the last ones give, so many times; the words are in reverse
    order. -/
def schedule (next : List Nat → Nat) : Nat → List Nat → List Nat
  | 0, ws => ws.reverse
  | n + 1, ws => schedule next n (next ws :: ws)

/-- The digest `sha1`. -/
def sha1 (t : Octets) : Octets :=
  let next (ws : List Nat) : Nat :=
    rotateLeft 32 1 (ws.getD 2 0 ^^^ ws.getD 7 0 ^^^ ws.getD 13 0 ^^^ ws.getD 15 0)
  let round (h : Nat × Nat × Nat × Nat × Nat) (e : Nat × Nat) : Nat × Nat × Nat × Nat × Nat :=
    let (a, b, c, d, f) := h
    let (w, i) := e
    let (g, k) :=
      if i < 20 then ((b &&& c) ||| (complement 32 b &&& d), 0x5a827999)
      else if i < 40 then (b ^^^ c ^^^ d, 0x6ed9eba1)
      else if i < 60 then ((b &&& c) ||| (b &&& d) ||| (c &&& d), 0x8f1bbcdc)
      else (b ^^^ c ^^^ d, 0xca62c1d6)
    (cut 32 (rotateLeft 32 5 a + g + f + k + w), a, rotateLeft 32 30 b, c, d)
  let step (h : List Nat) (block : Octets) : List Nat :=
    let ws := schedule next 64 ((Octets.chunks 4 block).map bigValue).reverse
    let start := (h.getD 0 0, h.getD 1 0, h.getD 2 0, h.getD 3 0, h.getD 4 0)
    let (a, b, c, d, f) := ws.zipIdx.foldl round start
    List.zipWith (fun x y => cut 32 (x + y)) h [a, b, c, d, f]
  ((Octets.chunks 64 (padded 64 false t)).foldl step
    [0x67452301, 0xefcdab89, 0x98badcfe, 0x10325476, 0xc3d2e1f0]).flatMap (bigOctets 4)

/-- How a digest of the second kind is made. -/
structure Sha2 where
  /-- The bits of a word. -/
  bits : Nat
  rounds : Nat
  initial : List Nat
  /-- Rotations of the mixing functions; the last number of the small ones is a shift. -/
  big0 : Nat × Nat × Nat
  big1 : Nat × Nat × Nat
  small0 : Nat × Nat × Nat
  small1 : Nat × Nat × Nat
  /-- The octets of the digest. -/
  size : Nat

namespace Sha2

/-- Square roots of the first or of the next eight primes. -/
def roots (bits : Nat) (first : Bool) : List Nat :=
  ((primes.drop (if first then 0 else 8)).take 8).map (rootBits bits 2)

/-- The digest with words of 32 bits. -/
def sha256 : Sha2 :=
  ⟨32, 64, roots 32 true, (2, 13, 22), (6, 11, 25), (7, 18, 3), (17, 19, 10), 32⟩

/-- The same, cut to 28 octets and with other initial words. -/
def sha224 : Sha2 := { sha256 with initial := (roots 64 false).map (cut 32), size := 28 }

/-- The digest with words of 64 bits. -/
def sha512 : Sha2 :=
  ⟨64, 80, roots 64 true, (28, 34, 39), (14, 18, 41), (1, 8, 7), (19, 61, 6), 64⟩

/-- The same, cut to 48 octets and with other initial words. -/
def sha384 : Sha2 := { sha512 with initial := roots 64 false, size := 48 }

/-- A word mixed with two rotations and a third one or a shift. -/
def mix (s : Sha2) (shifts : Bool) (k : Nat × Nat × Nat) (x : Nat) : Nat :=
  rotateRight s.bits k.1 x ^^^ rotateRight s.bits k.2.1 x ^^^
    if shifts then x >>> k.2.2 else rotateRight s.bits k.2.2 x

/-- The next word of a schedule. -/
def nextWord (s : Sha2) (ws : List Nat) : Nat :=
  cut s.bits (s.mix true s.small1 (ws.getD 1 0) + ws.getD 6 0 + s.mix true s.small0 (ws.getD 14 0) +
    ws.getD 15 0)

/-- A round with a word and a constant. -/
def round (s : Sha2) (h : List Nat) (e : Nat × Nat) : List Nat :=
  match h with
  | [a, b, c, d, e', f, g, i] =>
    let choice := (e' &&& f) ^^^ (complement s.bits e' &&& g)
    let x := i + s.mix false s.big1 e' + choice + e.1 + e.2
    let majority := (a &&& b) ^^^ (a &&& c) ^^^ (b &&& c)
    let y := s.mix false s.big0 a + majority
    [cut s.bits (x + y), a, b, c, cut s.bits (d + x), e', f, g]
  | h => h

/-- The digest of a text. -/
def digest (s : Sha2) (t : Octets) : Octets :=
  let octets := s.bits / 8
  let constants := (primes.take s.rounds).map (rootBits s.bits 3)
  let step (h : List Nat) (block : Octets) : List Nat :=
    let first := ((Octets.chunks octets block).map bigValue).reverse
    let ws := schedule s.nextWord (s.rounds - 16) first
    List.zipWith (fun x y => cut s.bits (x + y)) h ((ws.zip constants).foldl s.round h)
  let h := (Octets.chunks (16 * octets) (padded (16 * octets) false t)).foldl step s.initial
  (h.flatMap (bigOctets octets)).take s.size

end Sha2

/-! ### The digest of the third kind -/

/-- The orders in which the words of a block are mixed in. -/
def blakeOrders : List (List Nat) := [
  [0, 1, 2, 3, 4, 5, 6, 7, 8, 9, 10, 11, 12, 13, 14, 15],
  [14, 10, 4, 8, 9, 15, 13, 6, 1, 12, 0, 2, 11, 7, 5, 3],
  [11, 8, 12, 0, 5, 2, 15, 13, 10, 14, 3, 6, 7, 1, 9, 4],
  [7, 9, 3, 1, 13, 12, 11, 14, 2, 6, 5, 10, 4, 0, 15, 8],
  [9, 0, 5, 7, 2, 4, 10, 15, 14, 1, 11, 12, 6, 8, 3, 13],
  [2, 12, 6, 10, 0, 11, 8, 3, 4, 13, 7, 5, 15, 14, 1, 9],
  [12, 5, 1, 15, 14, 13, 4, 10, 0, 7, 6, 3, 9, 2, 8, 11],
  [13, 11, 7, 14, 12, 1, 3, 9, 5, 0, 15, 4, 8, 6, 2, 10],
  [6, 15, 14, 9, 11, 3, 0, 8, 12, 2, 13, 7, 1, 4, 10, 5],
  [10, 2, 8, 4, 7, 6, 1, 5, 15, 11, 9, 14, 3, 12, 13, 0]]

/-- Mix two words into four places. -/
def blakeMix (v : Array Nat) (p : Nat × Nat × Nat × Nat) (x y : Nat) : Array Nat :=
  let (a, b, c, d) := p
  let at' (i : Nat) : Nat := v.getD i 0
  let va := cut 64 (at' a + at' b + x)
  let vd := rotateRight 64 32 (at' d ^^^ va)
  let vc := cut 64 (at' c + vd)
  let vb := rotateRight 64 24 (at' b ^^^ vc)
  let va := cut 64 (va + vb + y)
  let vd := rotateRight 64 16 (vd ^^^ va)
  let vc := cut 64 (vc + vd)
  let vb := rotateRight 64 63 (vb ^^^ vc)
  (((v.setIfInBounds a va).setIfInBounds b vb).setIfInBounds c vc).setIfInBounds d vd

/-- The places of a round: columns, then diagonals. -/
def blakePlaces : List (Nat × Nat × Nat × Nat) := [
  (0, 4, 8, 12), (1, 5, 9, 13), (2, 6, 10, 14), (3, 7, 11, 15),
  (0, 5, 10, 15), (1, 6, 11, 12), (2, 7, 8, 13), (3, 4, 9, 14)]

/-- The digest `blake2b` of so many octets. -/
def blake2b (size : Nat) (t : Octets) : Octets :=
  let iv := Sha2.roots 64 true
  let start := match iv with
    | x :: rest => (x ^^^ 0x01010000 ^^^ size) :: rest
    | [] => []
  let step (e : List Nat × Nat) (block : Octets) : List Nat × Nat :=
    let (h, seen) := e
    let seen := seen + block.length
    let full := block ++ List.replicate (128 - block.length) '\x00'
    let ws := ((Octets.chunks 8 full).map littleValue).toArray
    let isLast := seen = t.length
    let tail := iv.zipIdx.map fun (x, i) =>
      if i = 4 then x ^^^ cut 64 seen else if i = 6 && isLast then complement 64 x else x
    let v := (List.range 12).foldl (fun v r =>
      let order := blakeOrders.getD (r % 10) []
      (blakePlaces.zipIdx).foldl (fun v (p, i) =>
        blakeMix v p (ws.getD (order.getD (2 * i) 0) 0) (ws.getD (order.getD (2 * i + 1) 0) 0)) v)
      (h ++ tail).toArray
    (h.zipIdx.map fun (x, i) => x ^^^ v.getD i 0 ^^^ v.getD (i + 8) 0, seen)
  let blocks := if t.isEmpty then [[]] else Octets.chunks 128 t
  ((blocks.foldl step (start, 0)).1.flatMap (littleOctets 8)).take size

/-! ### Checksums -/

/-- An octet put through the remainder of a division of polynomials. -/
def crcStep (crc : Nat) (octet : Nat) : Nat :=
  (List.range 8).foldl (fun r _ =>
    if r &&& 0x80000000 = 0 then cut 32 (r <<< 1) else cut 32 (r <<< 1) ^^^ 0x04c11db7)
    (crc ^^^ (octet <<< 24))

/-- The octets of a length, the lowest first, without zeros behind them. -/
def lengthOctets : Nat → Nat → List Nat
  | 0, _ => []
  | k + 1, n => if n = 0 then [] else n % 256 :: lengthOctets k (n / 256)

/-- The remainder of a text and its length as a polynomial. -/
def crc (t : Octets) : Nat :=
  let r := t.foldl (fun r c => crcStep r c.toNat) 0
  complement 32 ((lengthOctets 20 t.length).foldl crcStep r)

/-- A sum of 16 bits that is rotated before each addition. -/
def rotatingSum (t : Octets) : Nat :=
  t.foldl (fun s c => cut 16 ((s >>> 1) + ((s &&& 1) <<< 15) + c.toNat)) 0

/-- A sum of octets, folded to 16 bits. -/
def plainSum (t : Octets) : Nat :=
  let s := cut 32 (t.foldl (fun s c => s + c.toNat) 0)
  let r := s % 65536 + s / 65536
  r % 65536 + r / 65536

/-- Octets in hexadecimal digits. -/
def hex (t : Octets) : Octets :=
  t.flatMap fun c => Octets.padLeft 2 '0' (Nat.toDigits 16 c.toNat)

end Digest

end FenceSync.Shell
