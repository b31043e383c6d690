import FenceSync.Shell.Digest
import FenceSync.Shell.Tool.Basic

namespace FenceSync.Shell

/-!
# Programs that print digests

* `DigestKind` is a digest with its name.
* `Tool.digest` prints digests of files or compares them with a list.
* `Tool.cksum` and `Tool.sum` print checksums.
-/

/-- A digest with its name. -/
structure DigestKind where
  /-- The name in front of a digest. -/
  tag : String
  compute : Octets → Octets

namespace DigestKind

/-- A digest with the name that stands for it. -/
def of? (name : String) : Option DigestKind :=
  match name with
  | "md5" => some ⟨"MD5", Digest.md5⟩
  | "sha1" => some ⟨"SHA1", Digest.sha1⟩
  | "sha224" => some ⟨"SHA224", Digest.Sha2.sha224.digest⟩
  | "sha256" => some ⟨"SHA256", Digest.Sha2.sha256.digest⟩
  | "sha384" => some ⟨"SHA384", Digest.Sha2.sha384.digest⟩
  | "sha512" => some ⟨"SHA512", Digest.Sha2.sha512.digest⟩
  | "blake2b" => some ⟨"BLAKE2b", Digest.blake2b 64⟩
  | _ => none

/-- A digest of so many bits, if it can have them. -/
def ofBits? (name : String) (bits : Nat) : Option DigestKind :=
  if name ≠ "blake2b" ∨ bits % 8 ≠ 0 ∨ 512 < bits then none
  else if bits = 0 ∨ bits = 512 then of? name
  else some ⟨"BLAKE2b-" ++ Octets.toString (Octets.ofNat bits), Digest.blake2b (bits / 8)⟩

end DigestKind

namespace Tool

/-! ### Lists of digests -/

/-- A name with what would break a line written by escapes, and whether there was any. -/
def escapedName (t : Octets) : Octets × Bool :=
  (t.flatMap fun c => match c with
    | '\\' => ['\\', '\\']
    | '\n' => ['\\', 'n']
    | '\r' => ['\\', 'r']
    | c => [c], t.any fun c => c == '\\' || c == '\n' || c == '\r')

/-- The name behind its escapes. -/
def unescapedName : Octets → Octets
  | '\\' :: 'n' :: t => '\n' :: unescapedName t
  | '\\' :: 'r' :: t => '\r' :: unescapedName t
  | '\\' :: '\\' :: t => '\\' :: unescapedName t
  | c :: t => c :: unescapedName t
  | [] => []

/-- How digests are printed. -/
structure DigestStyle where
  kind : DigestKind
  tagged : Bool
  /-- A star marks names. -/
  starred : Bool
  /-- The digest itself. -/
  show' : Octets → Octets
  stop : Char

/-- A digest with the name of its file. -/
def DigestStyle.line (d : DigestStyle) (digest name : Octets) : Octets :=
  let (shown, escaped) := if d.stop = '\n' then escapedName name else (name, false)
  (if escaped then ['\\'] else []) ++
    (if d.tagged then d.kind.tag.toList ++ " (".toList ++ shown ++ ") = ".toList ++ d.show' digest
    else d.show' digest ++ ' ' :: (if d.starred then '*' else ' ') :: shown) ++ [d.stop]

/-- The digest and the name that a line of a list holds. -/
def listedDigest? (d : DigestStyle) (line : Octets) : Option (Octets × Octets) :=
  let t := Octets.dropBlanks line
  let (escaped, t) := match t with
    | '\\' :: t => (true, t)
    | t => (false, t)
  let nameOf (t : Octets) : Octets := if escaped then unescapedName t else t
  let size := 2 * (d.kind.compute []).length
  match Text.after? (d.kind.tag.toList ++ " (".toList) t with
  | some rest =>
    match (rest.reverse.span (· != ')')) with
    | (back, _ :: name) =>
      let hex := (Octets.dropBlanks ((Octets.dropBlanks back.reverse).drop 1)).map Char.toLower
      if hex.length = size && hex.all Octets.isHexDigit then some (hex, nameOf name.reverse)
      else none
    | _ => none
  | none =>
    let hex := t.takeWhile Octets.isHexDigit
    match t.drop hex.length with
    | c :: rest =>
      if hex.length ≠ size || !Octets.isBlank c then none
      else
        let name := match rest with
          | ' ' :: name => name
          | '*' :: name => name
          | name => name
        if name.isEmpty then none else some (hex.map Char.toLower, nameOf name)
    | [] => none

/-- What comparing lists led to. -/
structure DigestCount where
  fit : Nat
  differ : Nat
  missing : Nat
  misformed : Nat

/-- Compare digests with a list. -/
def checkDigests (s : Setting) (p : Parsed) (d : DigestStyle) (list : Octets) : Prog Bool := do
  let say (name : Octets) (word : String) : Prog Unit := do
    if !p.has "status" then
      let (shown, escaped) := escapedName name
      discard (Sys.print ((if escaped then ['\\'] else []) ++ shown ++ ": ".toList ++ word.toList ++
        ['\n']))
  let mut count : DigestCount := ⟨0, 0, 0, 0⟩
  for line in Octets.lines list do
    if line.head? = some '#' || line.isEmpty then pure ()
    else match listedDigest? d line with
      | none => count := { count with misformed := count.misformed + 1 }
      | some (hex, name) =>
        match ← Input.content name with
        | .error e =>
          if e = .notFound && p.has "ignore-missing" then pure ()
          else
            s.complainOf name e
            say name "FAILED open or read"
            count := { count with missing := count.missing + 1 }
        | .ok t =>
          if Digest.hex (d.kind.compute t) = hex then
            count := { count with fit := count.fit + 1 }
            if !p.has "quiet" then say name "OK"
          else
            count := { count with differ := count.differ + 1 }
            say name "FAILED"
  let hasNone := count.fit + count.differ + count.missing == 0
  if hasNone && (count.misformed ≠ 0 || p.has "ignore-missing") then
    s.complain "no properly formatted checksum lines found"
  if count.misformed ≠ 0 && !p.has "status" then s.complain "improperly formatted lines"
  if count.differ ≠ 0 && !p.has "status" then s.complain "computed checksums did NOT match"
  return count.fit ≠ 0 && count.differ = 0 && count.missing = 0 &&
    !(p.has "strict" && count.misformed ≠ 0)

/-- Print digests of files or compare them with lists. -/
def runDigests (s : Setting) (p : Parsed) (d : DigestStyle) : Prog Nat := do
  let mut ok := true
  for path in p.files do
    match ← Input.content path with
    | .error e =>
      s.complainOf path e
      ok := false
    | .ok t =>
      if p.has "c" then
        if !(← checkDigests s p d t) then ok := false
      else if p.has "raw" then discard (Sys.print (d.kind.compute t))
      else discard (Sys.print (d.line (d.kind.compute t) path))
  return statusOf ok

/-- The long options of programs that print digests. -/
def digestOptions : List (String × String) := [
  ("binary", "b"), ("check", "c"), ("tag", "tag"), ("text", "t"), ("zero", "z"),
  ("ignore-missing", "ignore-missing"), ("quiet", "quiet"), ("status", "status"),
  ("strict", "strict"), ("warn", "w")]

/-- Print digests of one kind. -/
def digest (name : String) : Tool :=
  let sized := name == "blake2b"
  withOptions (OptionSpec.of (if sized then "bctwzl:" else "bctwz")
    (digestOptions ++ if sized then [("length", "l")] else [])) 1 fun s p => do
  let kind := match p.value? "l" with
    | none => DigestKind.of? name
    | some t => (Octets.nat? t).bind (DigestKind.ofBits? name)
  match kind with
  | none => s.fail 1 "invalid length"
  | some kind =>
    let onlyChecking := ["ignore-missing", "quiet", "status", "strict", "w"].any p.has
    if (onlyChecking && !p.has "c") || (p.has "c" && ["tag", "b", "t", "z"].any p.has) then
      s.fail 1 "meaningless option"
    else runDigests s p {
      kind, tagged := p.has "tag", starred := p.last? ["b", "t"] == some "b", show' := Digest.hex
      stop := if p.has "z" then '\x00' else '\n' }

/-! ### Checksums -/

/-- What a checksum prints of a file; the text, its name, and whether one was given. -/
abbrev ChecksumLine := Octets → Option Octets → Octets

/-- How many blocks a text fills. -/
def blocks (size : Nat) (t : Octets) : Nat := (t.length + size - 1) / size

/-- A checksum with blocks and a name. -/
def checksumLine (sum count name : Octets) : Octets :=
  sum ++ ' ' :: count ++ (if name.isEmpty then [] else ' ' :: name) ++ ['\n']

/-- The remainder with the length. -/
def crcLine : ChecksumLine := fun t name =>
  checksumLine (Octets.ofNat (Digest.crc t)) (Octets.ofNat t.length) (name.getD [])

/-- The sum that is rotated with the number of blocks. -/
def rotatingLine : ChecksumLine := fun t name =>
  checksumLine (Octets.padLeft 5 '0' (Octets.ofNat (Digest.rotatingSum t)))
    (Octets.padLeft 5 ' ' (Octets.ofNat (blocks 1024 t))) (name.getD [])

/-- The plain sum with the number of blocks. -/
def plainLine : ChecksumLine := fun t name =>
  checksumLine (Octets.ofNat (Digest.plainSum t)) (Octets.ofNat (blocks 512 t)) (name.getD [])

/-- Print checksums of files. -/
def checksums (s : Setting) (p : Parsed) (line : ChecksumLine) (raw : Octets → Octets) :
    Prog Nat := do
  let mut ok := true
  for path in p.files do
    match ← Input.content path with
    | .error e =>
      s.complainOf path e
      ok := false
    | .ok t =>
      discard (Sys.print (if p.has "raw" then raw t
        else line t (if p.operands.isEmpty then none else some path)))
  return statusOf ok

/-- Print sums of files. -/
def sum : Tool := withOptions (OptionSpec.of "rs" [("sysv", "s")]) 1 fun s p => do
  if p.last? ["r", "s"] = some "s" then checksums s p plainLine fun _ => []
  else checksums s p rotatingLine fun _ => []

/-- Print checksums or digests of files. -/
def cksum (base64 : Octets → Octets) : Tool :=
  withOptions (OptionSpec.of "a:bctwzl:" (digestOptions ++ [("algorithm", "a"), ("length", "l"),
    ("untagged", "untagged"), ("raw", "raw"), ("base64", "base64"), ("debug", "debug")])) 1
    fun s p => do
  let name := Octets.toString ((p.value? "a").getD "crc".toList)
  match name with
  | "crc" => checksums s p crcLine fun t => Digest.bigOctets 4 (Digest.crc t)
  | "bsd" => checksums s p rotatingLine fun t => Digest.bigOctets 2 (Digest.rotatingSum t)
  | "sysv" => checksums s p plainLine fun t => Digest.bigOctets 2 (Digest.plainSum t)
  | name =>
    let kind := match p.value? "l" with
      | none => DigestKind.of? name
      | some t => (Octets.nat? t).bind (DigestKind.ofBits? name)
    match kind with
    | none => s.fail 1 "invalid algorithm"
    | some kind => runDigests s p {
        kind, tagged := p.last? ["untagged", "tag"] != some "untagged", starred := false
        show' := if p.has "base64" then base64 else Digest.hex
        stop := if p.has "z" then '\x00' else '\n' }

end Tool

end FenceSync.Shell
