import FenceSync.Regex.Source

namespace FenceSync

/-!
# Sets in brackets

What stands between square brackets: characters, ranges, named sets, further brackets, and
operations between two sets.

* `SetReader.read` reads a set up to its closing bracket.
-/

/-- A set being read. -/
structure OpenSet where
  /-- Where its bracket is. -/
  start : RegexSource
  /-- Where its members start. -/
  opened : RegexSource
  negated : Bool
  /-- What stands before the last operation. -/
  left : Option (SetOperation × TextSpan × WrittenSet)
  /-- The members behind it, the last one first. -/
  items : List (TextSpan × WrittenSet)

namespace OpenSet

/-- The members read so far as one set. -/
def members (o : OpenSet) (s : RegexSource) : TextSpan × WrittenSet :=
  match o.items.reverse with
  | [] => (s.here, .nothing)
  | [item] => item
  | item :: items =>
    let span : TextSpan := ⟨item.1.first, (items.getLast?.getD item).1.last⟩
    (span, .level span ((item :: items).foldr (fun i s => .both i.2 s) .nothing))

/-- Everything read so far between the brackets. -/
def value (o : OpenSet) (s : RegexSource) : TextSpan × WrittenSet :=
  let (span, right) := o.members s
  match o.left with
  | none => (span, right)
  | some (op, leftSpan, left) =>
    let span : TextSpan := ⟨leftSpan.first, span.last⟩
    (span, .level span (.combined op left right))

end OpenSet

/-- The sets being read, the innermost one first. -/
structure SetReader where
  source : RegexSource
  inner : OpenSet
  outer : List OpenSet

namespace SetReader

/-- Skip hyphens, which stand for themselves at the start of a set; `start` is its bracket. -/
def readHyphens (start : RegexSource) :
    Nat → List (TextSpan × WrittenSet) → RegexSource →
      Except RegexFault (List (TextSpan × WrittenSet) × RegexSource)
  | 0, items, s => .ok (items, s)
  | n + 1, items, s =>
    match s.rest with
    | '-' :: _ =>
      if s.next.atEnd then RegexFaultKind.classUnclosed.at start.here
      else readHyphens start n ((s.one, .char ⟨'-', false, s.one⟩) :: items) s.next
    | _ => .ok (items, s)

/-- Open a set, whose bracket comes next. -/
def openAt (s : RegexSource) (outer : List OpenSet) : Except RegexFault SetReader := do
  let goOn (t : RegexSource) : Except RegexFault Unit :=
    if t.atEnd then RegexFaultKind.classUnclosed.at (s.spanTo t) else .ok ()
  let t := s.next
  goOn t
  let negated := t.rest.head? == some '^'
  let t := if negated then t.next else t
  goOn t
  let (items, t) ← readHyphens s t.rest.length [] t
  if items.isEmpty && t.rest.head? == some ']' then
    let u := t.next
    goOn u
    return ⟨u, ⟨s, u, negated, none, [(t.one, .char ⟨']', false, t.one⟩)]⟩, outer⟩
  else return ⟨t, ⟨s, t, negated, none, items⟩, outer⟩

/-- The innermost set is not closed. -/
def unclosed {α : Type} (r : SetReader) : Except RegexFault α :=
  RegexFaultKind.classUnclosed.at (r.inner.start.spanTo r.inner.opened)

/-- Add a member. -/
def add (r : SetReader) (span : TextSpan) (s : WrittenSet) (after : RegexSource) : SetReader :=
  { r with source := after, inner := { r.inner with items := (span, s) :: r.inner.items } }

/-! ### Named sets -/

/-- A named set with its brackets and colons, if one comes next. -/
def readNamed? (s : RegexSource) : Option (TextSpan × WrittenSet × RegexSource) :=
  match s.rest with
  | '[' :: ':' :: t =>
    let (negated, t) := match t with
      | '^' :: t => (true, t)
      | t => (false, t)
    let name := String.ofList (t.takeWhile (· ≠ ':'))
    match t.dropWhile (· ≠ ':') with
    | ':' :: ']' :: after =>
      if (CharSet.asciiClasses.lookup name).isSome then
        let after := s.skip (s.rest.length - after.length)
        some (s.spanTo after, .named (s.spanTo after) negated name, after)
      else none
    | _ => none
  | _ => none

/-! ### Members -/

/-- Read one member. -/
def readAtom (s : RegexSource) : Except RegexFault (RegexAtom × RegexSource) :=
  match s.rest with
  | '\\' :: _ => RegexAtom.read s
  | c :: _ => .ok (.char ⟨c, false, s.one⟩, s.step)
  | [] => RegexFaultKind.classUnclosed.at s.here

/-- A member as a set. -/
def setOf : RegexAtom → Except RegexFault WrittenSet
  | .char c => .ok (.char c)
  | .set _ s => .ok s
  | .place span _ => RegexFaultKind.classEscape.at span

/-- A member as the end of a range. -/
def charOf : RegexAtom → Except RegexFault WrittenChar
  | .char c => .ok c
  | a => RegexFaultKind.classRangeLiteral.at a.span

/-- The character behind the next one; here a comment is looked into. -/
def peek (s : RegexSource) : Option Char :=
  let t := s.step.rest
  if !s.verbose then t.head?
  else match t.dropWhile isSpace with
    | '#' :: u => (u.dropWhile isSpace).head?
    | u => u.head?

/-- Read one member or a range. -/
def readMember (r : SetReader) : Except RegexFault SetReader := do
  let (a, s) ← readAtom r.source
  let s := s.settle
  match s.rest with
  | [] => r.unclosed
  | c :: _ =>
    let behind := peek s
    if c ≠ '-' ∨ behind = some ']' ∨ behind = some '-' then return r.add a.span (← setOf a) s
    else if s.next.atEnd then r.unclosed
    else
      let (b, t) ← readAtom s.next
      let span : TextSpan := ⟨a.span.first, b.span.last⟩
      let first ← charOf a
      let last ← charOf b
      if last.char < first.char then RegexFaultKind.classRange.at span
      else return r.add span (.range first last) t

/-! ### Everything in brackets -/

/-- Start the right side of an operation, whose two characters come next. -/
def operate (r : SetReader) (op : SetOperation) : SetReader :=
  let (span, left) := r.inner.value r.source
  { r with
    source := r.source.skip 2
    inner := { r.inner with left := some (op, span, left), items := [] } }

/-- Read until the outermost set is closed, in at most so many steps. -/
def readFrom : Nat → SetReader → Except RegexFault (TextSpan × WrittenSet × RegexSource)
  | 0, r => r.unclosed
  | n + 1, r =>
    let r := { r with source := r.source.settle }
    match r.source.rest with
    | [] => r.unclosed
    | '[' :: _ =>
      match readNamed? r.source with
      | some (span, s, after) => readFrom n (r.add span s after)
      | none => do readFrom n (← openAt r.source (r.inner :: r.outer))
    | ']' :: _ =>
      let after := r.source.step
      let span := r.inner.start.spanTo after
      let s := WrittenSet.bracketed span r.inner.negated (r.inner.value r.source).2
      match r.outer with
      | [] => .ok (span, s, after)
      | o :: os => readFrom n ⟨after, { o with items := (span, s) :: o.items }, os⟩
    | '&' :: '&' :: _ => readFrom n (r.operate .inter)
    | '-' :: '-' :: _ => readFrom n (r.operate .minus)
    | '~' :: '~' :: _ => readFrom n (r.operate .differ)
    | _ => do readFrom n (← r.readMember)

/-- Read a set, whose bracket comes next. -/
def read (s : RegexSource) : Except RegexFault (TextSpan × WrittenSet × RegexSource) := do
  readFrom (2 * s.rest.length + 2) (← openAt s [])

end SetReader

end FenceSync
