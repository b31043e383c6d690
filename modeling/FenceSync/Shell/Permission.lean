import FenceSync.Shell.Octet

namespace FenceSync.Shell

/-!
# Permissions

Who may do what with a file: twelve bits, of which three are read as one digit.

* `Permission.read?` reads a number, or clauses such as `u+x,go=r` that change permissions.
* `Permission.letters` writes permissions in letters.
-/

namespace Permission

/-- The permissions of the owner (`u`), the group (`g`), others (`o`) or everyone. -/
def scopeOf (c : Char) : Nat :=
  match c with
  | 'u' => 0o4700
  | 'g' => 0o2070
  | 'o' => 0o1007
  | _ => 0o7777

/-- Permissions that everyone gets who has some of them. -/
def spread (bits : Nat) : Nat :=
  (bits &&& 7 ||| (bits >>> 3) &&& 7 ||| (bits >>> 6) &&& 7) * 0o111

/-- The permissions that a letter stands for. -/
def bitsOf (isDir : Bool) (mode : Nat) (c : Char) : Nat :=
  match c with
  | 'r' => 0o444
  | 'w' => 0o222
  | 'x' => 0o111
  | 'X' => if isDir || mode &&& 0o111 != 0 then 0o111 else 0
  | 's' => 0o6000
  | 't' => 0o1000
  | 'u' => spread (mode &&& 0o700)
  | 'g' => spread (mode &&& 0o070)
  | 'o' => spread (mode &&& 0o007)
  | _ => 0

/-- Bits without others. -/
def without (mode bits : Nat) : Nat := mode - (mode &&& bits)

/-- Change permissions: add some, take some away, or set them. -/
def applyOp (op : Char) (scope : Option Nat) (kept bits mode : Nat) : Nat :=
  match op with
  | '+' => mode ||| without bits kept
  | '-' => without mode (without bits kept)
  | _ =>
    let preserved := (scope.map fun s => without 0o7777 s).getD 0 ||| kept
    (mode &&& preserved) ||| without bits kept

/-- Change permissions by operations for the same people, of which there are at most so many. -/
def changeFrom (isDir : Bool) (mask : Nat) (scope : Option Nat) : Nat → Nat → Octets → Option Nat
  | _, mode, [] => some mode
  | 0, _, _ => none
  | n + 1, mode, op :: t =>
    if op = '+' ∨ op = '-' ∨ op = '=' then
      let (letters, t) := match t with
        | 'u' :: t => (['u'], t)
        | 'g' :: t => (['g'], t)
        | 'o' :: t => (['o'], t)
        | t => (t.takeWhile "rwxXst".toList.contains, t.dropWhile "rwxXst".toList.contains)
      let bits := letters.foldl (fun m c => m ||| bitsOf isDir mode c) 0
      let limit := match scope with
        | some s => s
        | none => without 0o7777 mask
      -- a directory keeps its special bits unless they are named
      let kept := if isDir then without 0o6000 bits else 0
      changeFrom isDir mask scope n (applyOp op scope kept (bits &&& limit) mode) t
    else none

/-- Change permissions by a clause such as `u+x`. -/
def change (isDir : Bool) (mask mode : Nat) (clause : Octets) : Option Nat :=
  let who := clause.takeWhile "ugoa".toList.contains
  let scope := if who.isEmpty then none else some (who.foldl (fun m c => m ||| scopeOf c) 0)
  let ops := clause.drop who.length
  if ops.isEmpty then none else changeFrom isDir mask scope (ops.length + 1) mode ops

/-- Permissions from a number, or changed by clauses between commas. -/
def read? (isDir : Bool) (mask mode : Nat) (t : Octets) : Option Nat :=
  match Octets.natIn? 8 t with
  | some n =>
    if 0o7777 < n then none
    else some (if isDir && t.length < 5 then n ||| (mode &&& 0o6000) else n)
  | none => (Octets.fields ',' t).foldlM (change isDir mask) mode

/-- Three permissions in letters; a special bit shows in the last one. -/
def triple (bits : Nat) (special : Option Char) : Octets :=
  let last := match special with
    | some c => if bits &&& 1 = 0 then c.toUpper else c
    | none => if bits &&& 1 = 0 then '-' else 'x'
  [if bits &&& 4 = 0 then '-' else 'r', if bits &&& 2 = 0 then '-' else 'w', last]

/-- Permissions in letters. -/
def letters (mode : Nat) : Octets :=
  let special (bit : Nat) (c : Char) : Option Char := if mode &&& bit = 0 then none else some c
  triple ((mode >>> 6) &&& 7) (special 0o4000 's') ++
    triple ((mode >>> 3) &&& 7) (special 0o2000 's') ++
    triple (mode &&& 7) (special 0o1000 't')

end Permission

end FenceSync.Shell
