import FenceSync.Regex.Basic

namespace FenceSync

/-!
# Basic and extended regular expressions

The two ways in which commands write expressions: in basic ones, groups, bounds and alternatives
have a backslash, in extended ones they have none.

* `PosixToken` is what stands in an expression, and `PosixToken.scan?` reads it.
* `Regex.ofTokens?` puts tokens together.
* `Regex.basic?` and `Regex.extended?` read a text.
-/

/-- What stands in an expression. -/
inductive PosixToken where
  | one (s : CharSet)
  | opening
  | closing
  | bar
  /-- At least and at most so many times. -/
  | times (least : Nat) (most : Option Nat)
  /-- A place rather than a character. -/
  | place (r : Regex)
  | again (n : Nat)
  deriving DecidableEq, Repr

namespace PosixToken

/-! ### Sets -/

/-- The classes by name. -/
def classes : List (String × CharSet) :=
  CharSet.asciiClasses.filter fun c => c.1 != "ascii" && c.1 != "word"

/-- Read the members of a set up to its closing bracket, in at most so many steps; the set so far
    is given. -/
def members : Nat → Bool → CharSet → Text → Option (CharSet × Text)
  | 0, _, _, _ => none
  | _ + 1, _, _, [] => none
  | n + 1, first, s, c :: t =>
    if c = ']' ∧ !first then some (s, t)
    else if c = '[' ∧ t.head? = some ':' then
      let name := (t.drop 1).takeWhile (· != ':')
      match classes.lookup (String.ofList name), t.drop (name.length + 1) with
      | some set, ':' :: ']' :: rest => members n false (.union s set) rest
      | _, _ => none
    else
      -- a character that stands between marks is just that character
      let plain : Text → Option (Char × Text) := fun u => match u with
        | '[' :: '.' :: d :: '.' :: ']' :: r => some (d, r)
        | '[' :: '=' :: d :: '=' :: ']' :: r => some (d, r)
        | d :: r => some (d, r)
        | [] => none
      match plain (c :: t) with
      | none => none
      | some (lo, '-' :: ']' :: r) => members n false (.union s (.only lo)) ('-' :: ']' :: r)
      | some (lo, '-' :: r) =>
        match plain r with
        | some (hi, r) => if hi < lo then none else members n false (.union s (.range lo hi)) r
        | none => none
      | some (lo, r) => members n false (.union s (.only lo)) r

/-- Read a set behind its opening bracket. -/
def set? (t : Text) : Option (CharSet × Text) :=
  match t with
  | '^' :: r => (members (r.length + 1) true .nothing r).map fun (s, rest) => (.compl s, rest)
  | r => members (r.length + 1) true .nothing r

/-! ### Bounds -/

/-- Read bounds behind their opening brace, up to what closes them. -/
def bounds? (close t : Text) : Option ((Nat × Option Nat) × Text) :=
  let number (t : Text) : Option Nat × Text :=
    let ds := t.takeWhile Char.isDigit
    ((String.ofList ds).toNat?, t.drop ds.length)
  let (least, t) := number t
  let (most, t, comma) : Option Nat × Text × Bool := match t with
    | ',' :: r =>
      let (m, r) := number r
      (m, r, true)
    | t => (least, t, false)
  if least.isNone && !comma then none
  else (Text.after? close t).map fun rest => ((least.getD 0, most), rest)

/-! ### Reading -/

/-- What a backslash and a character mean in both kinds of expressions. -/
def escape? (c : Char) : Option PosixToken :=
  let blank := CharSet.union (.only ' ') (.range '\t' '\r')
  match c with
  | 'w' => some (.one .word)
  | 'W' => some (.one (.compl .word))
  | 's' => some (.one blank)
  | 'S' => some (.one (.compl blank))
  | 'b' => some (.place (.atWord .edge .word))
  | 'B' => some (.place (.atWord .inside .word))
  | '<' => some (.place (.atWord .start .word))
  | '>' => some (.place (.atWord .stop .word))
  | '\x60' => some (.place .textStart)
  | '\'' => some (.place .textEnd)
  | c => if '1' ≤ c ∧ c ≤ '9' then some (.again (c.toNat - 48)) else none

/-- An expression can start behind the tokens read so far, of which the last one is given. -/
def atStart (last : Option PosixToken) : Bool :=
  match last with
  | none | some .opening | some .bar | some (.place .textStart) => true
  | _ => false

/-- Read tokens in at most so many steps; those so far are in reverse order. -/
def scanFrom (isBasic : Bool) : Nat → List PosixToken → Text → Option (List PosixToken)
  | 0, _, _ => none
  | _ + 1, done, [] => some done.reverse
  | n + 1, done, '\\' :: t =>
    match t with
    | [] => none
    | c :: r =>
      let next (k : PosixToken) (r : Text) := scanFrom isBasic n (k :: done) r
      match escape? c with
      | some k => next k r
      | none =>
        if !isBasic then next (.one (.only c)) r
        else match c with
          | '(' => next .opening r
          | ')' => next .closing r
          | '|' => next .bar r
          | '+' => next (.times 1 none) r
          | '?' => next (.times 0 (some 1)) r
          | '\x7b' =>
            match bounds? ['\\', '\x7d'] r with
            | some ((least, most), r) => next (.times least most) r
            | none => none
          | c => next (.one (.only c)) r
  | n + 1, done, c :: t =>
    let next (k : PosixToken) (r : Text) := scanFrom isBasic n (k :: done) r
    let literal := next (.one (.only c)) t
    let start := atStart done.head?
    match c with
    | '.' => next (.one .all) t
    | '[' =>
      match set? t with
      | some (s, r) => next (.one s) r
      | none => none
    | '*' => if start then literal else next (.times 0 none) t
    | '^' =>
      if !isBasic || (start && done.head? != some (.place .textStart)) then
        next (.place .textStart) t
      else literal
    | '$' =>
      let last := t.isEmpty || ['\\', ')'].isPrefixOf t || ['\\', '|'].isPrefixOf t
      if !isBasic || last then next (.place .textEnd) t else literal
    | _ =>
      if isBasic then literal
      else match c with
        | '(' => next .opening t
        | ')' => if done.countP (· == .opening) = done.countP (· == .closing) then literal
          else next .closing t
        | '|' => next .bar t
        | '+' => if start then literal else next (.times 1 none) t
        | '?' => if start then literal else next (.times 0 (some 1)) t
        | '\x7b' =>
          match if start then none else bounds? ['\x7d'] t with
          | some ((least, most), r) => next (.times least most) r
          | none => literal
        | _ => literal

/-- Read tokens. -/
def scan? (isBasic : Bool) (t : Text) : Option (List PosixToken) :=
  scanFrom isBasic (t.length + 1) [] t

end PosixToken

namespace Regex

/-- An expression as far as its tokens are put together: the pieces of the current branch and the
    branches before it, the last ones first. -/
structure Draft where
  pieces : List Regex
  branches : List Regex

namespace Draft

/-- Nothing yet. -/
def start : Draft := ⟨[], []⟩

/-- The branch is complete. -/
def close (d : Draft) : Draft := ⟨[], sequence d.pieces.reverse :: d.branches⟩

/-- All branches together. -/
def whole (d : Draft) : Regex := oneOf d.close.branches.reverse

end Draft

/-- Put tokens together, given open groups by their numbers, and the number of the next group. -/
def ofTokensFrom : List (Nat × Draft) → Draft → Nat → List PosixToken → Option Regex
  | [], d, _, [] => some d.whole
  | _ :: _, _, _, [] => none
  | groups, d, k, .one s :: ts => ofTokensFrom groups { d with pieces := .one s :: d.pieces } k ts
  | groups, d, k, .place r :: ts => ofTokensFrom groups { d with pieces := r :: d.pieces } k ts
  | groups, d, k, .again n :: ts =>
    ofTokensFrom groups { d with pieces := .again n :: d.pieces } k ts
  | groups, d, k, .bar :: ts => ofTokensFrom groups d.close k ts
  | groups, d, k, .times least most :: ts =>
    match d.pieces with
    | [] => ofTokensFrom groups d k ts
    | r :: rs => ofTokensFrom groups { d with pieces := .repeated r least most :: rs } k ts
  | groups, d, k, .opening :: ts => ofTokensFrom ((k, d) :: groups) .start (k + 1) ts
  | [], _, _, .closing :: _ => none
  | (n, outer) :: groups, d, k, .closing :: ts =>
    ofTokensFrom groups { outer with pieces := .group n d.whole :: outer.pieces } k ts

/-- Put tokens together. -/
def ofTokens? (ts : List PosixToken) : Option Regex := ofTokensFrom [] .start 1 ts

/-- Read a basic expression. -/
def basic? (t : Text) : Option Regex := (PosixToken.scan? true t).bind ofTokens?

/-- Read an extended expression. -/
def extended? (t : Text) : Option Regex := (PosixToken.scan? false t).bind ofTokens?

/-- How many groups a text of tokens opens. -/
def groupCount : Regex → Nat
  | .seq r s => max r.groupCount s.groupCount
  | .either r s => max r.groupCount s.groupCount
  | .repeated r _ _ => r.groupCount
  | .group n r => max n r.groupCount
  | _ => 0

end Regex

end FenceSync
