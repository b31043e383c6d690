import FenceSync.Shell.Octet

namespace FenceSync.Shell

/-!
# Names that hold numbers

Names are compared piece by piece: what is between numbers by its characters, and numbers by their
values, so that `a9` comes before `a10`.  Endings such as `.tar` decide only if the rest is the
same.

* `Version.compare` compares two texts.
* `Version.compareNames` compares names of files.
-/

namespace Version

/-- The rank of a character that is no digit; the end of a text is before all but a tilde. -/
def rank : Option Char → Int
  | none => -1
  | some c =>
    if c.isDigit then 0
    else if c.isAlpha then c.toNat
    else if c = '~' then -2
    else c.toNat + 256

/-- Go through what is in front of numbers; the first difference, or what is left of both texts. -/
def throughText : Nat → Octets → Octets → Except Ordering (Octets × Octets)
  | 0, a, b => .ok (a, b)
  | n + 1, a, b =>
    let inText (t : Octets) : Bool := t.head?.any fun c => !c.isDigit
    if inText a || inText b then
      let order := compare (rank a.head?) (rank b.head?)
      if order = .eq then throughText n (a.drop 1) (b.drop 1) else .error order
    else .ok (a, b)

/-- Compare texts of which a number of characters is left at most. -/
def compareFrom : Nat → Octets → Octets → Ordering
  | 0, _, _ => .eq
  | n + 1, a, b =>
    if a.isEmpty && b.isEmpty then .eq
    else match throughText (a.length + b.length) a b with
      | .error order => order
      | .ok (a, b) =>
        let a := a.dropWhile (· == '0')
        let b := b.dropWhile (· == '0')
        let x := a.takeWhile Char.isDigit
        let y := b.takeWhile Char.isDigit
        let order := (compare x.length y.length).then (compare x y)
        if order = .eq then compareFrom n (a.drop x.length) (b.drop y.length) else order

/-- Compare texts. -/
def compare (a b : Octets) : Ordering := compareFrom (a.length + b.length + 1) a b

/-- What follows an ending: a point, a letter or tilde, and letters, digits and tildes. -/
def afterEnding? (t : Octets) : Option Octets :=
  match t with
  | '.' :: c :: t =>
    if c.isAlpha || c == '~' then some (t.dropWhile fun c => c.isAlphanum || c == '~') else none
  | _ => none

/-- A text consists of endings, of which there are at most so many. -/
def isEndings : Nat → Octets → Bool
  | 0, t => t.isEmpty
  | n + 1, t => t.isEmpty || (afterEnding? t).any (isEndings n)

/-- A text without the endings behind its first character; those characters before the text are
    given in reverse order. -/
def withoutEndings : Octets → Octets → Octets
  | front, [] => front.reverse
  | front, c :: t =>
    if !front.isEmpty && isEndings (t.length + 1) (c :: t) then front.reverse
    else withoutEndings (c :: front) t

/-- Compare names of files. -/
def compareNames (a b : Octets) : Ordering :=
  let special (t : Octets) : Nat := match t with
    | [] => 0
    | ['.'] => 1
    | ['.', '.'] => 2
    | '.' :: _ => 3
    | _ => 4
  if special a < 3 ∨ special b < 3 ∨ special a ≠ special b then Ord.compare (special a) (special b)
  else (compare (withoutEndings [] a) (withoutEndings [] b)).then (compare a b)

end Version

end FenceSync.Shell
