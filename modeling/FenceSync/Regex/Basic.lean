import FenceSync.Character.Set

namespace FenceSync

/-!
# Regular expressions

* `Regex` is an expression, and `Regex.spots` lists where a match can end, the preferred ends first.
* `Regex.occursIn` looks for a match anywhere in a text; `Regex.longestAt` and `Regex.search?` find
  the longest match, with what its groups hold.
-/

/-! ### Expressions -/

/-- A place where a word may start or end. -/
inductive WordPlace where
  /-- Between a word and something else. -/
  | edge
  /-- Anywhere but there. -/
  | inside
  | start
  | stop
  /-- No word goes on from before. -/
  | startHalf
  /-- No word goes on behind. -/
  | stopHalf
  deriving DecidableEq, Repr, Inhabited

/-- A character of a word belongs to it on the left, and one on the right. -/
def WordPlace.fits (left right : Bool) : WordPlace → Bool
  | .edge => left != right
  | .inside => left == right
  | .start => !left && right
  | .stop => left && !right
  | .startHalf => !left
  | .stopHalf => !right

/-- A regular expression. -/
inductive Regex where
  | empty
  /-- One character of a set. -/
  | one (s : CharSet)
  | textStart
  | textEnd
  /-- The start of a line; with `returns`, lines may also end with a carriage return. -/
  | lineStart (returns : Bool)
  | lineEnd (returns : Bool)
  /-- A place that the words of some characters determine. -/
  | atWord (place : WordPlace) (letters : CharSet)
  | seq (r s : Regex)
  | either (r s : Regex)
  /-- At least and at most so many times. -/
  | repeated (r : Regex) (least : Nat) (most : Option Nat)
  | group (n : Nat) (r : Regex)
  /-- What a group holds, once more. -/
  | again (n : Nat)
  deriving DecidableEq, Repr, Inhabited

/-- A place in a text. -/
structure Spot where
  /-- How many characters lie before it. -/
  pos : Nat
  before : Option Char
  rest : Text
  /-- The text of the groups so far, the last one first. -/
  found : List (Nat × Text)
  deriving DecidableEq, Repr, Inhabited

namespace Spot

/-- The start of a text. -/
def start (t : Text) : Spot := ⟨0, none, t, []⟩

/-- One character on, if it belongs to a set. -/
def step (p : Spot) (s : CharSet) : List Spot :=
  match p.rest with
  | c :: t => if s.holds c then [⟨p.pos + 1, some c, t, p.found⟩] else []
  | [] => []

/-- Behind a given text, if it comes next. -/
def behind (p : Spot) (t : Text) : List Spot :=
  match Text.after? t p.rest with
  | some rest => [⟨p.pos + t.length, t.getLast?.or p.before, rest, p.found⟩]
  | none => []

/-- The same place with the same findings. -/
def same (p q : Spot) : Bool := p.pos == q.pos && p.found == q.found

/-- Each place once. -/
def distinct : List Spot → List Spot
  | [] => []
  | p :: ps => p :: (distinct ps).filter fun q => !p.same q

/-- A line starts at the place. -/
def startsLine (p : Spot) (returns : Bool) : Bool :=
  p.before.all fun c => c == '\n' || (returns && c == '\r' && p.rest.head? != some '\n')

/-- A line ends at the place. -/
def endsLine (p : Spot) (returns : Bool) : Bool :=
  p.rest.head?.all fun c =>
    (c == '\n' && !(returns && p.before == some '\r')) || (returns && c == '\r')

/-- What a group holds. -/
def held (p : Spot) (n : Nat) : Option Text := p.found.lookup n

end Spot

namespace Regex

/-- The place itself under a condition. -/
def stay (p : Spot) (b : Bool) : List Spot := if b then [p] else []

/-- Where repetitions of a step can end, round by round and the last round first, in at most so many
    rounds.  `seen` are places that further rounds need not come back to. -/
def repeatSpots (step : Spot → List Spot) :
    Nat → Nat → Option Nat → List Spot → List Spot → List Spot
  | 0, least, _, _, ps => if least == 0 then ps else []
  | rounds + 1, least, most, seen, ps =>
    if ps.isEmpty then []
    else
      let here := if least == 0 then ps else []
      if most == some 0 then here
      else
        let next := Spot.distinct (ps.flatMap fun p =>
          (step p).filter fun q => least != 0 || q.pos != p.pos)
        if least != 0 && next.length == ps.length && (next.zip ps).all fun (p, q) => p.same q then
          -- the rounds that are still due change nothing
          repeatSpots step rounds 0 (most.map (· - least)) seen ps
        else
          let seen := here ++ seen
          let fresh := next.filter fun q => !seen.any q.same
          repeatSpots step rounds (least - 1) (most.map (· - 1)) seen fresh ++ here

/-- Where a match that starts at a place can end, the preferred ends first. -/
def spots : Regex → Spot → List Spot
  | .empty, p => [p]
  | .one s, p => p.step s
  | .textStart, p => stay p p.before.isNone
  | .textEnd, p => stay p p.rest.isEmpty
  | .lineStart returns, p => stay p (p.startsLine returns)
  | .lineEnd returns, p => stay p (p.endsLine returns)
  | .atWord place letters, p =>
    stay p (place.fits (p.before.any letters.holds) (p.rest.head?.any letters.holds))
  | .seq r s, p => Spot.distinct ((r.spots p).flatMap s.spots)
  | .either r s, p => Spot.distinct (r.spots p ++ s.spots p)
  | .repeated r least most, p => repeatSpots r.spots (p.rest.length + least + 1) least most [] [p]
  | .group n r, p =>
    (r.spots p).map fun q =>
      { q with found := (n, p.rest.take (q.pos - p.pos)) :: q.found.filter fun f => f.1 != n }
  | .again n, p =>
    match p.held n with
    | some t => p.behind t
    | none => []

/-- Expressions one behind the other. -/
def sequence (rs : List Regex) : Regex := rs.foldr .seq .empty

/-- Any of some expressions. -/
def oneOf : List Regex → Regex
  | [] => .empty
  | [r] => r
  | r :: rs => .either r (oneOf rs)

/-- The expression without its groups, where nothing refers to them. -/
def withoutGroups : Regex → Regex
  | .seq r s => .seq r.withoutGroups s.withoutGroups
  | .either r s => .either r.withoutGroups s.withoutGroups
  | .repeated r least most => .repeated r.withoutGroups least most
  | .group _ r => r.withoutGroups
  | r => r

/-! ### Use -/

/-- The places of a text in order. -/
def places (p : Spot) : Text → List Spot
  | [] => [p]
  | c :: t => p :: places ⟨p.pos + 1, some c, t, []⟩ t

/-- There is a match somewhere in a text. -/
def occursIn (r : Regex) (t : Text) : Bool :=
  (places (Spot.start t) t).any fun p => !(r.withoutGroups.spots p).isEmpty

/-- The end of the longest match that starts at a place. -/
def longestAt (r : Regex) (p : Spot) : Option Spot :=
  (r.spots p).foldl (fun best q => match best with
    | some b => if b.pos < q.pos then some q else best
    | none => some q) none

/-- The longest one of the first matches in a text: its start and its end. -/
def search? (r : Regex) (t : Text) : Option (Spot × Spot) :=
  (places (Spot.start t) t).findSome? fun p => (r.longestAt p).map fun q => (p, q)

end Regex

end FenceSync
