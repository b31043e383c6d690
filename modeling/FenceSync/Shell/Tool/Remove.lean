import FenceSync.Shell.Permission
import FenceSync.Shell.Tool.Plain

namespace FenceSync.Shell

/-!
# Programs that make and remove

* `Tool.mkdir` and `Tool.mktemp` make what was not there before.
* `Tool.rm`, `Tool.rmdir` and `Tool.unlink` remove.
* `Names.quoted` writes a name so that it can be read in a message.
-/

namespace Names

/-- A control character by an escape. -/
def controlEscape (c : Char) : Octets :=
  match c with
  | '\x07' => ['\\', 'a']
  | '\x08' => ['\\', 'b']
  | '\t' => ['\\', 't']
  | '\n' => ['\\', 'n']
  | '\x0b' => ['\\', 'v']
  | '\x0c' => ['\\', 'f']
  | '\r' => ['\\', 'r']
  | c => '\\' :: Octets.padLeft 3 '0' (Nat.toDigits 8 c.toNat)

/-- The rest of a name between single quotes; control characters stand between quotes of their own,
    in which the text may be. -/
def quotedFrom : Bool → Octets → Octets
  | _, [] => ['\'']
  | escaped, c :: t =>
    if Octets.isControl c then
      (if escaped then [] else ['\'', '$', '\'']) ++ controlEscape c ++ quotedFrom true t
    else
      (if escaped then ['\'', '\''] else []) ++
        (if c = '\'' then ['\'', '\\', '\'', '\''] else [c]) ++ quotedFrom false t

/-- A name in single quotes, or in double quotes if it holds a single one. -/
def quoted (t : Octets) : Octets :=
  let plain := !t.any fun c =>
    c == '"' || c == '\\' || c == '$' || c == '\x60' || c == '!' || Octets.isControl c
  if t.contains '\'' && plain then '"' :: t ++ ['"'] else '\'' :: quotedFrom false t

end Names

namespace Tool

/-- Say what was done. -/
def tell (t : Octets) : Prog Unit := discard (Sys.print (t ++ ['\n']))

/-- Ask whether something is to be done. -/
def ask (s : Setting) (question : Octets) : Prog Bool := do
  discard (Sys.write 2 (s.name ++ ": ".toList ++ question ++ "? ".toList))
  match ← Sys.readThrough 0 '\n' with
  | .ok (c :: _) => return c == 'y' || c == 'Y'
  | _ => return false

/-- Do something for each of some arguments; whether all went well. -/
def forAll (args : List Octets) (f : Octets → Prog Bool) : Prog Nat := do
  let mut ok := true
  for a in args do
    if !(← f a) then ok := false
  return statusOf ok

/-- A complaint about a path. -/
def refuse (s : Setting) (path : Octets) (e : FileError) : Prog Bool := do
  s.complainOf path e
  return false

/-! ### Making -/

/-- Make a directory. -/
def makeDir (s : Setting) (path : Octets) (mode : Nat) : Prog Bool := do
  match ← Sys.find? false path with
  | .error e => refuse s path e
  | .ok ⟨_, some _⟩ => refuse s path .exists
  | .ok ⟨place, none⟩ =>
    Sys.create place .dir mode
    return true

/-- The paths of directories on the way to one, and that one itself. -/
def pathsTo (path : Octets) : List Octets :=
  let pieces := (Octets.fields '/' path).filter fun t => !t.isEmpty
  let root : Octets := if path.head? = some '/' then ['/'] else []
  (List.range pieces.length).map fun i => root ++ Octets.join ['/'] (pieces.take (i + 1))

/-- Make directories. -/
def mkdir : Tool :=
  withOptions (OptionSpec.of "m:pvZ" [("mode", "m"), ("parents", "p"), ("verbose", "v"),
    ("context?", "Z")]) 1 fun s p => do
  let mask ← Sys.mask
  let mode : Option (Option Nat) := match p.value? "m" with
    | none => some none
    | some t => (Permission.read? true mask 0o777 t).map some
  match mode with
  | none => s.fail 1 "invalid mode"
  | some mode =>
    if p.operands.isEmpty then s.fail 1 "missing operand"
    else forAll p.operands fun path => do
      let said (q : Octets) : Prog Unit :=
        if p.has "v" then tell ("mkdir: created directory ".toList ++ Names.quoted q) else pure ()
      let settle (q : Octets) : Prog Unit := do
        match mode, ← Sys.node? true q with
        | some m, some (place, _) => Sys.setMode place m
        | _, _ => pure ()
      if p.has "p" then
        let mut ok := true
        for q in pathsTo path do
          if ok && !(← Sys.isDir q) then
            if ← makeDir s q 0o777 then
              said q
              if q.length = (withoutSlashes path).length then settle q
            else ok := false
        if path.isEmpty then refuse s path .notFound else return ok
      else
        let ok ← makeDir s path 0o777
        if ok then
          said path
          settle path
        return ok

/-- Letters for a name that nobody has. -/
def freshLetters : Nat → Nat → Octets
  | 0, _ => []
  | k + 1, n =>
    let letters := "abcdefghijklmnopqrstuvwxyzABCDEFGHIJKLMNOPQRSTUVWXYZ0123456789".toList
    letters.getD (n % 62) 'a' :: freshLetters k (n / 62)

/-- Make a file or a directory with a new name. -/
def mktemp : Tool :=
  withOptions (OptionSpec.of "dp:qtuV" [("directory", "d"), ("tmpdir?", "tmpdir"), ("quiet", "q"),
    ("dry-run", "u"), ("suffix=", "suffix")]) 1 fun s p => do
  let template := p.operands.headD "tmp.XXXXXXXXXX".toList
  let suffix := (p.value? "suffix").getD []
  let usualDir := match s.env.get? "TMPDIR".toList with
    | some (c :: cs) => c :: cs
    | _ => "/tmp".toList
  let dir : Option Octets :=
    if p.has "p" || p.has "tmpdir" then
      some (match (p.value? "p").or (p.value? "tmpdir") with
        | some (c :: cs) => c :: cs
        | _ => usualDir)
    else if p.has "t" || p.operands.isEmpty then some usualDir
    else none
  let (front, tail) := if p.has "suffix" then (template, suffix)
    else
      let tail := (template.reverse.takeWhile (· != 'X')).reverse
      (template.take (template.length - tail.length), tail)
  let marks := (front.reverse.takeWhile (· == 'X')).length
  if 1 < p.operands.length || marks < 3 || tail.contains '/' then s.fail 1 "invalid template"
  else
    let seed ← Prog.look fun pid k => (k.clock + 7919 * pid) * 2654435761 % 839299365868340224
    let name := front.take (front.length - marks) ++ freshLetters marks seed ++ tail
    let path := match dir with
      | some d => Sys.under d name
      | none => name
    let ok ← if p.has "u" then pure true
      else match ← Sys.find? false path with
        | .ok ⟨place, none⟩ =>
          if p.has "d" then Sys.create place .dir 0o700
          else Sys.create place (.file []) 0o600
          pure true
        | .ok ⟨_, some _⟩ => pure false
        | .error e => refuse s path e
    if ok then tell path
    return statusOf ok

/-! ### Removing -/

/-- What a node is called. -/
def kindName (n : Node) : String :=
  match n with
  | .file [] => "regular empty file"
  | .file _ => "regular file"
  | .dir => "directory"
  | .link _ => "symbolic link"
  | _ => "character special file"

/-- How files are removed. -/
structure RemovalPlan where
  force : Bool
  asks : Bool
  recursive : Bool
  /-- Empty directories are removed. -/
  emptyDirs : Bool
  verbose : Bool

/-- Remove what stands at a place, of which a path was given, at most so many levels deep. -/
def removeAt (s : Setting) (r : RemovalPlan) : Nat → Octets → Place → Node → Prog Bool
  | 0, _, _, _ => return false
  | depth + 1, path, place, node => do
    let done (what : String) : Prog Unit :=
      if r.verbose then tell (what.toList ++ Names.quoted path) else pure ()
    let agreed (question : String) : Prog Bool :=
      if r.asks then ask s (question.toList ++ ' ' :: Names.quoted path) else return true
    match node with
    | .dir =>
      let names ← Sys.names place
      if !r.recursive then
        if r.emptyDirs && names.isEmpty then
          if ← agreed "remove directory" then
            Sys.remove place
            done "removed directory "
          return true
        else refuse s path .isDirectory
      else
        let enters ← if names.isEmpty then pure true else agreed "descend into directory"
        if !enters then return true
        else
          let mut ok := true
          for name in names do
            let inside := place ++ [Octets.toText name]
            match (← Sys.tree).node? inside with
            | some n => if !(← removeAt s r depth (Sys.under path name) inside n) then ok := false
            | none => pure ()
          if !(← Sys.names place).isEmpty then return ok
          else
            if ← agreed "remove directory" then
              Sys.remove place
              done "removed directory "
            return ok
    | n =>
      if ← agreed ("remove " ++ kindName n) then
        Sys.remove place
        done "removed "
      return true

/-- How deep directories are removed. -/
def removalDepth : Nat := 10000

/-- Remove files and directories. -/
def rm : Tool :=
  withOptions (OptionSpec.of "dfiIrRv" [("dir", "d"), ("force", "f"), ("interactive?", "ask"),
    ("one-file-system", "one"), ("preserve-root?", "preserve"), ("no-preserve-root", "nopreserve"),
    ("recursive", "r"), ("verbose", "v")]) 1 fun s p => do
  let asking := match p.last? ["f", "i", "I", "ask"] with
    | some "i" => true
    | some "ask" => (p.value? "ask").all fun t => t.isEmpty || t == "always".toList
    | _ => false
  let force := p.last? ["f", "i", "I", "ask"] == some "f"
  let recursive := p.has "r" || p.has "R"
  let r : RemovalPlan := ⟨force, asking, recursive, p.has "d", p.has "v"⟩
  if p.operands.isEmpty then
    if p.has "f" then return 0 else s.fail 1 "missing operand"
  else
    let once := p.last? ["f", "i", "I", "ask"] == some "I" && (3 < p.operands.length || recursive)
    let goes ← if once then ask s "remove arguments".toList else pure true
    if !goes then return 0
    else forAll p.operands fun path => do
      let base := lastName path
      if base = ['.'] ∨ base = ['.', '.'] then refuse s path .isDirectory
      else match ← Sys.find? false path with
        | .error .notFound => if force then return true else refuse s path .notFound
        | .error .notDirectory => if force then return true else refuse s path .notDirectory
        | .error e => refuse s path e
        | .ok ⟨_, none⟩ => if force then return true else refuse s path .notFound
        | .ok ⟨place, some n⟩ =>
          if place.isEmpty then refuse s path .isDirectory
          else if path.getLast? = some '/' && n != .dir then refuse s path .notDirectory
          else removeAt s r removalDepth (if n = .dir then withoutSlashes path else path) place n

/-- Remove one file. -/
def unlink : Tool := withOptions (OptionSpec.of "" []) 1 fun s p => do
  match p.operands with
  | [path] =>
    match ← Sys.find? false path with
    | .error e => return statusOf (← refuse s path e)
    | .ok ⟨_, none⟩ => return statusOf (← refuse s path .notFound)
    | .ok ⟨_, some .dir⟩ => return statusOf (← refuse s path .isDirectory)
    | .ok ⟨place, some _⟩ =>
      Sys.remove place
      return 0
  | _ => s.fail 1 "one operand is needed"

/-- Remove empty directories. -/
def rmdir : Tool :=
  withOptions (OptionSpec.of "pv" [("parents", "p"), ("verbose", "v"),
    ("ignore-fail-on-non-empty", "ignore")]) 1 fun s p => do
  let one (path : Octets) : Prog Bool := do
    if p.has "v" then tell ("rmdir: removing directory, ".toList ++ Names.quoted path)
    match ← Sys.find? false path with
    | .error e => refuse s path e
    | .ok ⟨_, none⟩ => refuse s path .notFound
    | .ok ⟨place, some .dir⟩ =>
      if lastName path = ['.'] then refuse s path .notEmpty
      else if !(← Sys.names place).isEmpty || place.isEmpty then
        if p.has "ignore" then return true else refuse s path .notEmpty
      else
        Sys.remove place
        return true
    | .ok ⟨_, some _⟩ => refuse s path .notDirectory
  if p.operands.isEmpty then s.fail 1 "missing operand"
  else forAll p.operands fun path => do
    if p.has "p" then
      let mut ok := true
      for q in (pathsTo (withoutSlashes path)).reverse do
        if ok then ok ← one q
      return ok
    else one path

end Tool

end FenceSync.Shell
