import FenceSync.Shell.Tool.Basic

namespace FenceSync.Shell

/-!
# Translating characters

* `CharList.ofOctets?` reads a list of characters with ranges, classes and repetitions.
* `Tool.tr` replaces, deletes and squeezes characters.
-/

/-- An entry in a list of characters. -/
inductive CharEntry where
  | one (c : Char)
  | range (first last : Char)
  | named (name : String)
  /-- So many times; as often as is needed, if that is not said. -/
  | repeated (c : Char) (count : Option Nat)
  deriving DecidableEq, Repr

/-- A list of characters with ranges, classes and repetitions. -/
abbrev CharList := List CharEntry

namespace CharList

/-- The characters of a text, in which a backslash stands for others; whether it did is kept. -/
def unescape : Nat → Octets → List (Char × Bool)
  | 0, _ => []
  | _ + 1, [] => []
  | n + 1, '\\' :: t =>
    match t with
    | [] => [('\\', false)]
    | c :: r =>
      let plain : Option Char := match c with
        | 'a' => some '\x07'
        | 'b' => some '\x08'
        | 'f' => some '\x0c'
        | 'n' => some '\n'
        | 'r' => some '\r'
        | 't' => some '\t'
        | 'v' => some '\x0b'
        | _ => none
      match plain with
      | some d => (d, true) :: unescape n r
      | none =>
        if '0' ≤ c ∧ c ≤ '7' then
          let ds := (t.take 3).takeWhile fun d => '0' ≤ d && d ≤ '7'
          let value := (Octets.natIn? 8 ds).getD 0
          -- three digits stand for an octet only if it is one
          let ds := if 255 < value then ds.take 2 else ds
          (Char.ofNat ((Octets.natIn? 8 ds).getD 0), true) :: unescape n (t.drop ds.length)
        else (c, true) :: unescape n r
  | n + 1, c :: t => (c, false) :: unescape n t

/-- The name between two marks behind an opening bracket. -/
def named? (mark : Char) (t : List (Char × Bool)) : Option (Octets × List (Char × Bool)) :=
  let name := t.takeWhile fun c => c != (mark, false)
  match t.drop name.length with
  | _ :: (']', false) :: rest => some (name.map (·.1), rest)
  | _ => none

/-- Read a repetition behind an opening bracket and its character and star. -/
def count? (t : List (Char × Bool)) : Option (Option Nat × List (Char × Bool)) :=
  let ds := t.takeWhile fun c => c.1.isDigit
  match t.drop ds.length with
  | (']', false) :: rest =>
    let digits := ds.map (·.1)
    let value := if digits.head? = some '0' then Octets.natIn? 8 digits else Octets.nat? digits
    if digits.isEmpty then some (none, rest)
    else value.map fun n => (if n = 0 then none else some n, rest)
  | _ => none

/-- Read entries in at most so many steps. -/
def read : Nat → List (Char × Bool) → Option CharList
  | 0, _ => none
  | _ + 1, [] => some []
  | n + 1, ('[', false) :: (':', false) :: t =>
    match named? ':' t with
    | some (name, rest) =>
      if (Octets.class? name).isSome then (read n rest).map (.named (Octets.toString name) :: ·)
      else none
    | none => range n '[' ((':', false) :: t)
  | n + 1, ('[', false) :: ('=', false) :: t =>
    match named? '=' t with
    | some ([c], rest) => (read n rest).map (.one c :: ·)
    | _ => range n '[' (('=', false) :: t)
  | n + 1, ('[', false) :: (c, q) :: ('*', false) :: t =>
    match count? t with
    | some (count, rest) => (read n rest).map (.repeated c count :: ·)
    | none => range n '[' ((c, q) :: ('*', false) :: t)
  | n + 1, (c, _) :: t => range n c t
where
  range (n : Nat) (c : Char) (t : List (Char × Bool)) : Option CharList :=
    match t with
    | ('-', false) :: (d, _) :: rest =>
      if d < c then none else (read n rest).map (.range c d :: ·)
    | t => (read n t).map (.one c :: ·)

/-- Read a list. -/
def ofOctets? (t : Octets) : Option CharList :=
  let cs := unescape (t.length + 1) t
  read (cs.length + 1) cs

/-- All octets in order. -/
def allOctets : List Char := (List.range 256).map Char.ofNat

/-- The characters of an entry. -/
def expandEntry (fill : Nat) : CharEntry → List Char
  | .one c => [c]
  | .range first last =>
    (List.range (last.toNat - first.toNat + 1)).map fun k => Char.ofNat (first.toNat + k)
  | .named name => allOctets.filter ((Octets.class? name.toList).getD fun _ => false)
  | .repeated c count => List.replicate (count.getD fill) c

/-- The characters of a list, filled up to a length where it says so. -/
def expand (length : Nat) (cs : CharList) : List Char :=
  let fixed := ((cs.map (expandEntry 0)).map List.length).foldl (· + ·) 0
  cs.flatMap (expandEntry (length - fixed))

end CharList

namespace Tool

/-- A table that tells for every octet whether it is in a list. -/
def membership (cs : List Char) : Array Bool :=
  cs.foldl (fun a c => a.set! c.toNat true) (Array.replicate 256 false)

/-- A text in which runs of one of some characters are shortened, given the character before; the
    text so far is in reverse order. -/
def squeeze (p : Char → Bool) : Option Char → Octets → Octets → Octets × Option Char
  | last, done, [] => (done.reverse, last)
  | last, done, c :: t =>
    if last = some c && p c then squeeze p last done t else squeeze p (some c) (c :: done) t

/-- The list of what replaces characters: classes of letters stand for each other. -/
def replacements (first second : CharList) (complement truncate : Bool) :
    Option (List (Char × Char)) :=
  let source := if complement then
      let cs := CharList.expand 0 first
      CharList.allOctets.filter fun c => !cs.contains c
    else CharList.expand 0 first
  let cases : Option (Char → Char) := match first, second with
    | [.named "lower"], [.named "upper"] => some Char.toUpper
    | [.named "upper"], [.named "lower"] => some Char.toLower
    | _, _ => none
  match cases with
  | some f => some (source.map fun c => (c, f c))
  | none =>
    let target := CharList.expand source.length second
    if target.isEmpty then if truncate || source.isEmpty then some [] else none
    else
      let fill := target.getLast?.getD ' '
      let target := if truncate then target
        else target ++ List.replicate (source.length - target.length) fill
      some (source.zip target)

/-- Replace, delete or squeeze characters. -/
def tr : Tool :=
  withOptions ((OptionSpec.of "cCdst" [("complement", "c"), ("delete", "d"),
    ("squeeze-repeats", "s"),
    ("truncate-set1", "t")]).ordered) 1 fun s p => do
  let complement := p.has "c" || p.has "C"
  let deletes := p.has "d"
  let squeezes := p.has "s"
  let given := p.operands
  let least := if deletes == squeezes then 2 else 1
  let most := if deletes && !squeezes then 1 else 2
  if given.length < least || most < given.length then s.fail 1 "wrong number of operands"
  else match given.mapM CharList.ofOctets? with
    | none => s.fail 1 "invalid list"
    | some sets =>
      let first := sets.headD []
      let second? := sets[1]?
      let chosen := CharList.expand 0 first
      let inFirst := membership (if complement then
        CharList.allOctets.filter fun c => !chosen.contains c else chosen)
      let isFirst (c : Char) : Bool := inFirst.getD c.toNat false
      let table? : Option (Array Char) :=
        match if deletes then none else second? with
        | none => some CharList.allOctets.toArray
        | some second =>
          (replacements first second complement (p.has "t")).map fun pairs =>
            pairs.foldl (fun a e => a.set! e.1.toNat e.2) CharList.allOctets.toArray
      match table? with
      | none => s.fail 1 "the second list must not be empty"
      | some table =>
        let squeezed := match second? with
          | some second => CharList.expand 256 second
          | none => []
        let inSecond := membership squeezed
        let isSqueezed (c : Char) : Bool :=
          if second?.isSome then inSecond.getD c.toNat false else isFirst c
        let f : Filter (Option Char) := ⟨fun last t =>
          let t := if deletes then t.filter fun c => !isFirst c
            else if second?.isSome then t.map fun c => table.getD c.toNat c
            else t
          if squeezes then squeeze isSqueezed last [] t else (t, last), fun _ => []⟩
        f.run '\n' s [['-']] none

end Tool

end FenceSync.Shell
