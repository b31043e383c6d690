import FenceSync.Regex.Bracket

namespace FenceSync

/-!
# Reading expressions

Alternatives between `|`, groups in parentheses, sets in brackets, repetitions, anchors, and flags
that hold to the end of their group.

* `RegexReader.step` reads the next part.
* `WrittenRegex.ofText?` reads a whole expression.
-/

/-- A part that has been read. -/
structure RegexPart where
  span : TextSpan
  regex : WrittenRegex
  /-- It can be repeated. -/
  repeatable : Bool

/-- Alternatives being read. -/
structure OpenBranches where
  /-- Where the first one starts. -/
  first : Nat
  /-- Those that are complete, the last one first. -/
  done : List WrittenRegex
  /-- Where the one being read starts. -/
  start : Nat
  /-- Its parts, the last one first. -/
  parts : List RegexPart

namespace OpenBranches

/-- Nothing is read yet. -/
def none (pos : Nat) : OpenBranches := ⟨pos, [], pos, []⟩

/-- The alternative being read, which is over at a place. -/
def branch (b : OpenBranches) (stop : Nat) : WrittenRegex :=
  match b.parts with
  | [] => .empty
  | [p] => p.regex
  | ps => .level ⟨b.start, stop⟩ (.sequence (ps.reverse.map (·.regex)))

/-- Start another alternative behind a bar at a place. -/
def bar (b : OpenBranches) (pos : Nat) : OpenBranches :=
  { b with done := b.branch pos :: b.done, start := pos + 1, parts := [] }

/-- All alternatives, which are over at a place. -/
def whole (b : OpenBranches) (stop : Nat) : WrittenRegex :=
  match b.done with
  | [] => b.branch stop
  | done => .level ⟨b.first, stop⟩ (.oneOf (b.branch stop :: done).reverse)

end OpenBranches

/-- A group that is open. -/
structure OpenGroup where
  /-- Where its parenthesis is. -/
  start : RegexSource
  settings : List FlagSetting
  /-- What stands around it. -/
  around : OpenBranches

/-- An expression as far as it is read. -/
structure RegexReader where
  source : RegexSource
  branches : OpenBranches
  groups : List OpenGroup
  /-- The names of groups. -/
  names : List (Text × TextSpan)

namespace RegexReader

/-- Nothing is read. -/
def ofText (t : Text) : RegexReader := ⟨⟨0, t, false⟩, .none 0, [], []⟩

/-- Add a part. -/
def push (r : RegexReader) (span : TextSpan) (part : WrittenRegex) (after : RegexSource) :
    RegexReader :=
  { r with
    source := after
    branches := { r.branches with parts := ⟨span, part, true⟩ :: r.branches.parts } }

/-! ### Groups -/

/-- The letters of flags. -/
def flagLetters : List (Char × RegexFlag) :=
  [('i', .anyCase), ('m', .byLine), ('s', .dotAll), ('U', .lazy), ('u', .wide), ('R', .returns),
    ('x', .verbose)]

/-- Flags as far as they are read. -/
structure FlagReader where
  /-- The flags with what they were written as. -/
  found : List (FlagSetting × TextSpan)
  /-- The hyphen in front of flags that are taken away. -/
  hyphen : Option TextSpan
  /-- No flag has followed the hyphen. -/
  dangling : Bool

/-- Read flags up to the colon or parenthesis behind them, in at most so many steps. -/
def readFlags (s : RegexSource) :
    Nat → FlagReader → Except RegexFault (FlagReader × RegexSource)
  | 0, _ => RegexFaultKind.flagEnd.at s.here
  | n + 1, f =>
    let goOn (f : FlagReader) : Except RegexFault (FlagReader × RegexSource) :=
      if s.step.atEnd then RegexFaultKind.flagEnd.at s.step.here else readFlags s.step n f
    match s.rest with
    | [] => RegexFaultKind.flagEnd.at s.here
    | c :: _ =>
      if c = ':' ∨ c = ')' then
        match f.hyphen, f.dangling with
        | some span, true => RegexFaultKind.flagDanglingNegation.at span
        | _, _ => .ok (f, s)
      else if c = '-' then
        match f.hyphen with
        | some earlier => .error ⟨.flagNegatedAgain, s.one, some earlier⟩
        | none => goOn { f with hyphen := some s.one, dangling := true }
      else match flagLetters.lookup c with
        | none => RegexFaultKind.flagUnknown.at s.one
        | some flag =>
          match f.found.find? fun p => p.1.flag == flag with
          | some (_, earlier) => .error ⟨.flagDuplicate, s.one, some earlier⟩
          | none =>
            goOn { f with
              found := f.found ++ [(⟨flag, f.hyphen.isNone⟩, s.one)], dangling := false }

/-- The last word on white space in some settings. -/
def verboseIn (settings : List FlagSetting) (usual : Bool) : Bool :=
  match settings.find? fun f => f.flag == .verbose with
  | some f => f.value
  | none => usual

/-- Open a group, which starts at `start`. -/
def openGroup (r : RegexReader) (start after : RegexSource) (settings : List FlagSetting) :
    RegexReader :=
  { r with
    source := { after with verbose := verboseIn settings after.verbose }
    branches := .none after.pos
    groups := ⟨start, settings, r.branches⟩ :: r.groups }

/-- A character of a group name. -/
def isNameChar (first : Bool) (c : Char) : Bool :=
  c == '_' || (if first then isAlphabetic c else isAlphanumeric c || ".[]".contains c)

/-- Read the name of a group, which starts at `start`. -/
def readName (r : RegexReader) (start s : RegexSource) : Except RegexFault RegexReader :=
  let name := s.rest.takeWhile (· ≠ '>')
  let good := match name with
    | [] => []
    | c :: cs => if isNameChar true c then c :: cs.takeWhile (isNameChar false) else []
  let stop := s.skip good.length
  let span := s.spanTo stop
  if good.length < name.length then RegexFaultKind.groupNameInvalid.at stop.one
  else if stop.atEnd then RegexFaultKind.groupNameEnd.at stop.here
  else if name = [] then RegexFaultKind.groupNameEmpty.at s.here
  else match r.names.lookup name with
    | some earlier => .error ⟨.groupNameDuplicate, span, some earlier⟩
    | none => .ok ({ r with names := (name, span) :: r.names }.openGroup start stop.step [])

/-- Read what an opening parenthesis starts. -/
def readGroup (r : RegexReader) : Except RegexFault RegexReader :=
  let start := r.source
  let s := start.next
  match s.rest with
  | '?' :: '=' :: _ | '?' :: '!' :: _ => RegexFaultKind.lookAround.at (start.spanTo (s.skip 2))
  | '?' :: '<' :: '=' :: _ | '?' :: '<' :: '!' :: _ =>
    RegexFaultKind.lookAround.at (start.spanTo (s.skip 3))
  | '?' :: 'P' :: '<' :: _ => r.readName start (s.skip 3)
  | '?' :: '<' :: _ => r.readName start (s.skip 2)
  | '?' :: t =>
    if t = [] then RegexFaultKind.groupUnclosed.at start.one
    else do
      let (f, stop) ← readFlags s.step t.length ⟨[], none, false⟩
      let settings := f.found.map (·.1)
      let after := stop.step
      if stop.rest.head? = some ':' then return r.openGroup start after settings
      else if settings = [] then RegexFaultKind.operandMissing.at s.here
      else
        let part : RegexPart := ⟨start.spanTo after, .flags settings, false⟩
        return { r with
          source := { after with verbose := verboseIn settings after.verbose }
          branches := { r.branches with parts := part :: r.branches.parts } }
  | _ => .ok (r.openGroup start s [])

/-- Close a group. -/
def closeGroup (r : RegexReader) : Except RegexFault RegexReader :=
  match r.groups with
  | [] => RegexFaultKind.groupUnopened.at r.source.one
  | g :: gs =>
    let after := { r.source.step with verbose := g.start.verbose }
    let span := g.start.spanTo after
    let inside := WrittenRegex.group g.settings (r.branches.whole r.source.pos)
    .ok ({ r with branches := g.around, groups := gs }.push span (.level span inside) after)

/-! ### Repetitions -/

/-- Repeat the last part up to a place. -/
def repeatLast (r : RegexReader) (least : Nat) (most : Option Nat) (after : RegexSource) :
    Except RegexFault RegexReader :=
  match r.branches.parts with
  | ⟨span, part, true⟩ :: ps =>
    let span : TextSpan := ⟨span.first, after.pos⟩
    .ok ({ r with branches := { r.branches with parts := ps } }.push span
      (.level span (.repeated part least most)) after)
  | _ => RegexFaultKind.operandMissing.at r.source.here

/-- Behind a question mark, if it comes next. -/
def skipLazy (s : RegexSource) : RegexSource := if s.rest.head? = some '?' then s.step else s

/-- Read a count. -/
def readCount (s : RegexSource) : Except RegexFault Nat × RegexSource :=
  let start := s.skipWhile isSpace
  let (digits, stop) := start.takeWhile Char.isDigit
  let count := match natOfDigits? digits with
    | some n =>
      if digits = [] then RegexFaultKind.countDecimal.at (start.spanTo stop)
      else if n < UInt32.size then .ok n
      else RegexFaultKind.decimalInvalid.at (start.spanTo stop)
    | none => RegexFaultKind.countDecimal.at (start.spanTo stop)
  (count, (stop.skipWhile isSpace).settle)

/-- Read a repetition with counts, whose brace comes next. -/
def readCounted (r : RegexReader) : Except RegexFault RegexReader := do
  let start := r.source
  let unclosed {α : Type} (s : RegexSource) : Except RegexFault α :=
    RegexFaultKind.countUnclosed.at (start.spanTo s)
  if !(r.branches.parts.head?.any fun p => p.repeatable) then
    RegexFaultKind.operandMissing.at start.here
  else if start.next.atEnd then unclosed start.next
  else
    let (least, s) := readCount start.next
    if s.atEnd then unclosed s
    else
      let (n, most, s) ←
        if s.rest.head? = some ',' then
          let t := s.next
          if t.atEnd then unclosed t
          else if t.rest.head? = some '\x7d' then do
            let n ← least
            pure (n, none, t)
          else do
            let n ← least
            let (most, u) := readCount t
            let m ← most
            pure (n, some m, u)
        else do
          let n ← least
          pure (n, some n, s)
      if s.rest.head? ≠ some '\x7d' then unclosed s
      else
        let after := skipLazy s.next
        if most.any (· < n) then RegexFaultKind.countInvalid.at (start.spanTo after)
        else r.repeatLast n most after

/-! ### Everything -/

/-- Read the next part, which starts with `c`. -/
def step (r : RegexReader) (c : Char) : Except RegexFault RegexReader :=
  let s := r.source
  let after := s.step
  match c with
  | '(' => r.readGroup
  | ')' => r.closeGroup
  | '|' => .ok { r with source := after, branches := r.branches.bar s.pos }
  | '[' => do
    let (span, set, after) ← SetReader.read s
    return r.push span (.set set) after
  | '?' => r.repeatLast 0 (some 1) (skipLazy after)
  | '*' => r.repeatLast 0 none (skipLazy after)
  | '+' => r.repeatLast 1 none (skipLazy after)
  | '\x7b' => r.readCounted
  | '\\' => do
    match ← RegexAtom.read s with
    | (.char c, after) => return r.push c.span (.char c) after
    | (.set span set, after) => return r.push span (.set set) after
    | (.place span place, after) => return r.push span place after
  | '.' => .ok (r.push s.one (.dot s.one) after)
  | '^' => .ok (r.push s.one .caret after)
  | '$' => .ok (r.push s.one .dollar after)
  | c => .ok (r.push s.one (.char ⟨c, false, s.one⟩) after)

/-- Read at most so many parts. -/
def readFrom : Nat → RegexReader → Except RegexFault RegexReader
  | 0, r => .ok r
  | n + 1, r =>
    let r := { r with source := r.source.settle }
    match r.source.rest with
    | [] => .ok r
    | c :: _ => do readFrom n (← r.step c)

end RegexReader

/-- How deep the parts of an expression may lie in each other. -/
def WrittenRegex.deepest : Nat := 250

/-- Read an expression. -/
def WrittenRegex.ofText? (t : Text) : Except RegexFault WrittenRegex := do
  let r ← RegexReader.readFrom (t.length + 1) (.ofText t)
  match r.groups with
  | [] =>
    let regex := r.branches.whole r.source.pos
    match regex.beyond? deepest with
    | some span => RegexFaultKind.at (.tooDeep deepest) span
    | none => return regex
  | g :: _ => RegexFaultKind.groupUnclosed.at g.start.one

end FenceSync
