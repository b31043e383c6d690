import FenceSync.Shell.Script

namespace FenceSync.Shell

/-!
# Braces in words

A word such as `a{b,c}` stands for several words, and so does a sequence such as `{1..3}`.

* `cutBraces` cuts what is between braces at its commas.
* `sequence?` lists what lies between two numbers or letters.
* `Word.alternatives` are the words that a word stands for.
-/

/-- A character of a word that may belong to a brace, or another part. -/
inductive BraceItem where
  | char (c : Char)
  | part (p : Part)
  deriving Inhabited

namespace BraceItem

/-- The items of a word. -/
def ofWord (w : Word) : List BraceItem := w.flatMap fun p => match p with
  | .bare t => t.map .char
  | p => [.part p]

/-- The word of some items; a bare text and the parts so far are in reverse order. -/
def toWordFrom : Word → Octets → List BraceItem → Word
  | done, t, [] => (if t.isEmpty then done else .bare t.reverse :: done).reverse
  | done, t, .char c :: is => toWordFrom done (c :: t) is
  | done, t, .part p :: is =>
    toWordFrom (p :: if t.isEmpty then done else .bare t.reverse :: done) [] is

/-- The word of some items. -/
def toWord (is : List BraceItem) : Word := toWordFrom [] [] is

/-- Put an item in front of the first of some pieces. -/
def consFirst (i : BraceItem) : List (List BraceItem) → List (List BraceItem)
  | [] => [[i]]
  | is :: rest => (i :: is) :: rest

/-- The pieces up to the brace that closes, and what follows it; `depth` more braces are open. -/
def cutBraces : Nat → List BraceItem → Option (List (List BraceItem) × List BraceItem)
  | _, [] => none
  | depth, i :: is =>
    let go (depth : Nat) := (cutBraces depth is).map fun r => (consFirst i r.1, r.2)
    match i, depth with
    | .char '\x7d', 0 => some ([[]], is)
    | .char '\x7d', depth + 1 => go depth
    | .char '\x7b', depth => go (depth + 1)
    | .char ',', 0 => (cutBraces 0 is).map fun r => ([] :: r.1, r.2)
    | _, depth => go depth

/-- The text of items that are characters. -/
def text? (is : List BraceItem) : Option Octets :=
  is.mapM fun i => match i with
    | .char c => some c
    | .part _ => none

/-- The numbers from one to another, whichever is larger. -/
def between (first last : Int) (step : Nat) : List Int :=
  let count := (last - first).natAbs / max step 1 + 1
  (List.range count).map fun k =>
    if first ≤ last then first + (k * max step 1 : Nat) else first - (k * max step 1 : Nat)

/-- A numeral has a zero in front of further digits. -/
def isPadded (t : Octets) : Bool :=
  match (Octets.cutSign t).2 with
  | '0' :: _ :: _ => true
  | _ => false

/-- A numeral with zeros in front, so that it has a given width. -/
def padded (width : Nat) (n : Int) : Octets :=
  if n < 0 then '-' :: Octets.padLeft (width - 1) '0' (Octets.ofNat n.natAbs)
  else Octets.padLeft width '0' (Octets.ofNat n.natAbs)

/-- What a sequence between two ends lists. -/
def sequenceOf? (a b : Octets) (step : Nat) : Option (List Octets) :=
  match Octets.int? a, Octets.int? b, a, b with
  | some first, some last, _, _ =>
    let width := if isPadded a || isPadded b then max a.length b.length else 0
    some ((between first last step).map (padded width))
  | _, _, [c], [d] =>
    if c.isAlpha ∧ d.isAlpha then
      some ((between c.toNat d.toNat step).map fun n => [Char.ofNat n.toNat])
    else none
  | _, _, _, _ => none

/-- What a sequence such as `1..3` or `a..e` lists. -/
def sequence? (t : Octets) : Option (List Octets) :=
  match Text.splitOn ['.', '.'] t with
  | [a, b] => sequenceOf? a b 1
  | [a, b, step] => (Octets.int? step).bind fun n => sequenceOf? a b n.natAbs
  | _ => none

/-- What some items stand for, with at most so many items read. -/
def alternatives : Nat → List BraceItem → List (List BraceItem)
  | 0, is => [is]
  | _, [] => [[]]
  | n + 1, i :: is =>
    let literal := (alternatives n is).map (i :: ·)
    match i, cutBraces 0 is with
    | .char '\x7b', some (pieces, rest) =>
      let choices : Option (List (List BraceItem)) := match pieces with
        | [piece] => ((text? piece).bind sequence?).map fun ts => ts.map fun t => t.map .char
        | pieces => some (pieces.flatMap (alternatives n))
      match choices with
      | some cs =>
        let ends := alternatives n rest
        cs.flatMap fun front => ends.map (front ++ ·)
      | none => literal
    | _, _ => literal

end BraceItem

/-- The words that a word stands for. -/
def Word.alternatives (w : Word) : List Word :=
  let opens := w.any fun p => match p with
    | .bare t => t.contains '\x7b'
    | _ => false
  if opens then
    let is := BraceItem.ofWord w
    (BraceItem.alternatives (is.length + 1) is).map BraceItem.toWord
  else [w]

end FenceSync.Shell
