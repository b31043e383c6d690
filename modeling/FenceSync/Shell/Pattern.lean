import FenceSync.Shell.Octet

namespace FenceSync.Shell

/-!
# Patterns

In a pattern `?` stands for one character, `*` for any number of them, and `[…]` for one of some;
where they are enabled, `?(…)`, `*(…)`, `+(…)`, `@(…)` and `!(…)` stand for alternatives.  What is
quoted stands for itself.

* `Marked` is a text whose characters are quoted or not.
* `Pattern` is a part of a pattern; `Pattern.ofMarked` reads one.
* `Pattern.rests` says what can be left of a text behind a match, and `Pattern.accepts` matches a
  whole text.
-/

/-- A text whose characters are quoted or not. -/
abbrev Marked := List (Char × Bool)

namespace Marked

/-- A text of which everything is quoted, or nothing. -/
def of (isQuoted : Bool) (t : Octets) : Marked := t.map fun c => (c, isQuoted)

/-- The text without its marks. -/
def text (t : Marked) : Octets := t.map (·.1)

end Marked

/-- A member of a set of characters. -/
inductive PatternMember where
  | range (first last : Char)
  | named (name : String)
  deriving DecidableEq, Repr

/-- A part of a pattern. -/
inductive Pattern where
  | literal (c : Char)
  | any
  | many
  | oneOf (negated : Bool) (members : List PatternMember)
  /-- Alternatives, with the character that says how often. -/
  | group (kind : Char) (branches : List (List Pattern))
  deriving Repr, Inhabited

namespace Pattern

/-! ### Reading -/

/-- The inside of square brackets as far as it is read: members, the last one first. -/
structure SetDraft where
  members : List PatternMember
  /-- The last member is a single character that a range could start with. -/
  startsRange : Bool

/-- The name between two marks and the bracket behind the second one, and what follows. -/
def cutNamed (mark : Char) (t : Marked) : Option (Octets × Marked) :=
  let name := t.takeWhile fun c => c.1 != mark
  match t.drop name.length with
  | _ :: (']', _) :: rest => some (Marked.text name, rest)
  | _ => none

/-- Read members up to the closing bracket, in at most so many steps; `first` says that none was
    read yet. -/
def readMembers : Nat → Bool → SetDraft → Marked → Option (List PatternMember × Marked)
  | 0, _, _, _ => none
  | _ + 1, _, _, [] => none
  | n + 1, first, d, (c, quoted) :: t =>
    let single (c : Char) (t : Marked) :=
      readMembers n false ⟨.range c c :: d.members, true⟩ t
    if c = ']' ∧ !quoted ∧ !first then some (d.members.reverse, t)
    else if c = '[' ∧ !quoted then
      match t with
      | (':', false) :: r =>
        match cutNamed ':' r with
        | some (name, rest) =>
          if (Octets.class? name).isSome then
            readMembers n false ⟨.named (Octets.toString name) :: d.members, false⟩ rest
          else single c t
        | none => single c t
      | ('=', false) :: (e, _) :: ('=', _) :: (']', _) :: rest => single e rest
      | ('.', false) :: (e, _) :: ('.', _) :: (']', _) :: rest => single e rest
      | _ => single c t
    else if c = '-' ∧ !quoted ∧ d.startsRange then
      match d.members, t with
      | .range lo _ :: ms, (e, q) :: rest =>
        if e = ']' ∧ !q then some ((.range '-' '-' :: d.members).reverse, rest)
        else
          let (e, rest) := match e, q, rest with
            | '\\', false, (x, _) :: r => (x, r)
            | _, _, r => (e, r)
          readMembers n false ⟨.range lo e :: ms, false⟩ rest
      | _, _ => single c t
    else if c = '\\' ∧ !quoted then
      match t with
      | (e, _) :: rest => single e rest
      | [] => none
    else single c t

/-- Read a set behind its opening bracket, if it is closed. -/
def readSet (t : Marked) : Option (Pattern × Marked) :=
  let (negated, t) := match t with
    | ('!', false) :: r => (true, r)
    | ('^', false) :: r => (true, r)
    | r => (false, r)
  (readMembers (t.length + 1) true ⟨[], false⟩ t).map fun (ms, rest) => (.oneOf negated ms, rest)

/-- The branches between parentheses behind the opening one, and what follows; `depth` counts open
    parentheses, and branches and the text of the current one are in reverse order. -/
def cutBranches : Nat → List Marked → Marked → Marked → Option (List Marked × Marked)
  | _, _, _, [] => none
  | depth, done, current, (c, true) :: t => cutBranches depth done ((c, true) :: current) t
  | depth, done, current, (c, false) :: t =>
    if c = '(' then cutBranches (depth + 1) done ((c, false) :: current) t
    else if c = ')' then
      match depth with
      | 0 => some ((current.reverse :: done).reverse, t)
      | d + 1 => cutBranches d done ((c, false) :: current) t
    else if c = '|' ∧ depth = 0 then cutBranches depth (current.reverse :: done) [] t
    else cutBranches depth done ((c, false) :: current) t

/-- The characters that alternatives start with. -/
def groupKinds : List Char := ['?', '*', '+', '@', '!']

/-- Read a pattern, in at most so many steps; with `extended`, alternatives are read. -/
def read (extended : Bool) : Nat → Marked → List Pattern
  | 0, _ => []
  | _ + 1, [] => []
  | n + 1, (c, true) :: t => .literal c :: read extended n t
  | n + 1, (c, false) :: t =>
    let grouped? : Option (List Marked × Marked) :=
      if extended && groupKinds.contains c then
        match t with
        | ('(', false) :: r => cutBranches 0 [] [] r
        | _ => none
      else none
    match grouped? with
    | some (branches, rest) =>
      .group c (branches.map fun b => read extended n b) :: read extended n rest
    | none =>
      match c with
      | '?' => .any :: read extended n t
      | '*' => .many :: read extended n t
      | '[' =>
        match readSet t with
        | some (p, rest) => p :: read extended n rest
        | none => .literal '[' :: read extended n t
      | '\\' =>
        match t with
        | (e, _) :: rest => .literal e :: read extended n rest
        | [] => [.literal '\\']
      | c => .literal c :: read extended n t

/-- Read a pattern. -/
def ofMarked (extended : Bool) (t : Marked) : List Pattern := read extended (t.length + 1) t

/-- Some part of a text can stand for something else. -/
def isWild (extended : Bool) (t : Marked) : Bool :=
  (ofMarked extended t).any fun p => match p with
    | .literal _ => false
    | _ => true

/-! ### Matching -/

/-- A part that is left of a text, with its length. -/
abbrev Rest := Nat × Octets

/-- Put a rest into a list of them, longest first and each once. -/
def insertRest (r : Rest) : List Rest → List Rest
  | [] => [r]
  | s :: ss => if s.1 < r.1 then r :: s :: ss else if s.1 = r.1 then s :: ss
    else s :: insertRest r ss

/-- The rests of two lists together. -/
def unite (rs ss : List Rest) : List Rest := ss.foldl (fun ts s => insertRest s ts) rs

/-- All that can be left of a text, behind some rests in reverse order. -/
def allRestsFrom : List Rest → Nat → Octets → List Rest
  | done, _, [] => ((0, []) :: done).reverse
  | done, n, c :: t => allRestsFrom ((n, c :: t) :: done) (n - 1) t

/-- All that can be left of a text. -/
def allRests (n : Nat) (t : Octets) : List Rest := allRestsFrom [] n t

/-- A member of a set stands for a character. -/
def memberHolds (anyCase : Bool) (c : Char) : PatternMember → Bool
  | .range first last =>
    (first ≤ c && c ≤ last) ||
      (anyCase && ((first ≤ c.toLower && c.toLower ≤ last) ||
        (first ≤ c.toUpper && c.toUpper ≤ last)))
  | .named name =>
    match Octets.class? name.toList with
    | some p => p c || (anyCase && (p c.toLower || p c.toUpper))
    | none => false

/-- The rests behind one character that passes a test. -/
def stepOver (p : Char → Bool) (rs : List Rest) : List Rest :=
  rs.filterMap fun r => match r.2 with
    | c :: t => if p c then some (r.1 - 1, t) else none
    | [] => none

/-- Rests that a step leads to from some, any number of times; at most so many rounds. -/
def closure (step : List Rest → List Rest) : Nat → List Rest → List Rest → List Rest
  | 0, _, all => all
  | n + 1, fresh, all =>
    let next := (step fresh).filter fun r => !all.any fun s => s.1 == r.1
    if next.isEmpty then all else closure step n next (unite all next)

mutual

/-- What can be left behind a part of a pattern. -/
def rests (anyCase : Bool) : Pattern → List Rest → List Rest
  | .literal c, rs =>
    stepOver (fun d => d == c || (anyCase && d.toLower == c.toLower)) rs
  | .any, rs => stepOver (fun _ => true) rs
  | .many, rs =>
    match rs with
    | [] => []
    | r :: _ => allRests r.1 r.2
  | .oneOf negated ms, rs =>
    stepOver (fun c => negated != ms.any (memberHolds anyCase c)) rs
  | .group kind branches, rs =>
    let step := restsAny anyCase branches
    match kind with
    | '@' => step rs
    | '?' => unite rs (step rs)
    | '+' =>
      let once := step rs
      closure step (once.length + (once.head?.map (·.1)).getD 0 + 1) once once
    | '*' => closure step ((rs.head?.map (·.1)).getD 0 + 1) rs rs
    | _ =>
      rs.foldl (fun all r =>
        let matched := step [r]
        unite all ((allRests r.1 r.2).filter fun s => !matched.any fun m => m.1 == s.1)) []

/-- What can be left behind a pattern. -/
def restsAll (anyCase : Bool) : List Pattern → List Rest → List Rest
  | [], rs => rs
  | p :: ps, rs => restsAll anyCase ps (rests anyCase p rs)

/-- What can be left behind one of some patterns. -/
def restsAny (anyCase : Bool) : List (List Pattern) → List Rest → List Rest
  | [], _ => []
  | ps :: pss, rs => unite (restsAll anyCase ps rs) (restsAny anyCase pss rs)

end

/-- What can be left of a text behind a match at its start, the longest rest first. -/
def leftOf (anyCase : Bool) (ps : List Pattern) (t : Octets) : List Octets :=
  (restsAll anyCase ps [(t.length, t)]).map (·.2)

/-- The pattern matches the whole text. -/
def accepts (anyCase : Bool) (ps : List Pattern) (t : Octets) : Bool :=
  (restsAll anyCase ps [(t.length, t)]).any fun r => r.1 == 0

end Pattern

end FenceSync.Shell
