import FenceSync.Regex.Written

namespace FenceSync

/-!
# Reading characters of expressions

* `RegexSource` is a text as far as it is read; `RegexSource.next` goes on to what counts next.
* `RegexAtom.read` reads what starts with a backslash: a character, a set, or a place.
-/

/-- A text as far as it is read. -/
structure RegexSource where
  pos : Nat
  rest : Text
  /-- White space and comments do not count. -/
  verbose : Bool
  deriving DecidableEq, Repr, Inhabited

namespace RegexSource

/-- One character on. -/
def step (s : RegexSource) : RegexSource :=
  match s.rest with
  | [] => s
  | _ :: t => { s with pos := s.pos + 1, rest := t }

/-- Some characters on. -/
def skip (s : RegexSource) (n : Nat) : RegexSource := n.repeat step s

/-- Behind the characters of a class. -/
def skipWhile (s : RegexSource) (p : Char → Bool) : RegexSource :=
  s.skip (s.rest.takeWhile p).length

/-- Without white space and comments in front, for at most so many of them. -/
def skipNotes : Nat → RegexSource → RegexSource
  | 0, s => s
  | n + 1, s =>
    match s.rest with
    | c :: _ =>
      if isSpace c then skipNotes n s.step
      else if c = '#' then skipNotes n (s.skipWhile (· ≠ '\n'))
      else s
    | [] => s

/-- Without what does not count in front. -/
def settle (s : RegexSource) : RegexSource :=
  if s.verbose then s.skipNotes s.rest.length else s

/-- The next character that counts. -/
def next (s : RegexSource) : RegexSource := s.step.settle

/-- Nothing is left. -/
def atEnd (s : RegexSource) : Bool := s.rest.isEmpty

/-- The characters up to a place. -/
def spanTo (s t : RegexSource) : TextSpan := ⟨s.pos, t.pos⟩

/-- The next character. -/
def one (s : RegexSource) : TextSpan := ⟨s.pos, s.pos + 1⟩

/-- Nothing but the place. -/
def here (s : RegexSource) : TextSpan := ⟨s.pos, s.pos⟩

/-- The characters of a class in front that count, and what is left, in at most so many steps. -/
def collect (p : Char → Bool) : Nat → Text → RegexSource → Text × RegexSource
  | 0, found, s => (found.reverse, s)
  | n + 1, found, s =>
    match s.rest with
    | c :: _ => if p c then collect p n (c :: found) s.next else (found.reverse, s)
    | [] => (found.reverse, s)

/-- The characters of a class in front that count, and what is left. -/
def takeWhile (s : RegexSource) (p : Char → Bool) : Text × RegexSource :=
  s.collect p s.rest.length []

end RegexSource

/-- A fault that concerns some characters. -/
def RegexFaultKind.at {α : Type} (k : RegexFaultKind) (span : TextSpan) : Except RegexFault α :=
  .error ⟨k, span, none⟩

/-- What a backslash makes of the characters behind it. -/
inductive RegexAtom where
  | char (c : WrittenChar)
  | set (span : TextSpan) (s : WrittenSet)
  | place (span : TextSpan) (r : WrittenRegex)

namespace RegexAtom

/-- The characters of the atom. -/
def span : RegexAtom → TextSpan
  | .char c => c.span
  | .set span _ => span
  | .place span _ => span

/-! ### Numbers -/

/-- The character with a number. -/
def charOfCode? (n : Nat) : Option Char := if n.isValidChar then some (Char.ofNat n) else none

/-- Read so many hexadecimal digits. -/
def readDigits : Nat → Nat → RegexSource → Except RegexFault (Nat × RegexSource)
  | 0, n, s => .ok (n, s)
  | k + 1, n, s =>
    match s.rest with
    | [] => RegexFaultKind.escapeEnd.at s.here
    | c :: _ =>
      match hexValue? c with
      | none => RegexFaultKind.hexDigit.at s.one
      | some d => readDigits k (16 * n + d) s.next

/-- Read a number in braces, which come next; `start` is the backslash. -/
def readBraced (start s : RegexSource) : Except RegexFault (RegexAtom × RegexSource) :=
  let (digits, t) := s.next.takeWhile fun c => (hexValue? c).isSome
  match t.rest with
  | [] => RegexFaultKind.escapeEnd.at (s.spanTo t)
  | '\x7d' :: _ =>
    let after := t.next
    if digits = [] then RegexFaultKind.hexEmpty.at (s.spanTo after)
    else match charOfCode? (CharRanges.numberOf digits) with
      | some c => .ok (.char ⟨c, false, start.spanTo after⟩, after)
      | none => RegexFaultKind.hexInvalid.at (s.step.spanTo t)
  | _ => RegexFaultKind.hexDigit.at t.one

/-- Read the number behind `\x`, `\u` or `\U`, which has so many digits unless it is in braces. -/
def readNumber (start s : RegexSource) (digits : Nat) :
    Except RegexFault (RegexAtom × RegexSource) :=
  if s.rest.head? = some '\x7b' then readBraced start s
  else do
    let (n, after) ← readDigits digits 0 s
    match charOfCode? n with
    | some c => return (.char ⟨c, digits == 2, start.spanTo after⟩, after)
    | none => RegexFaultKind.hexInvalid.at (s.spanTo after)

/-! ### Properties -/

/-- Cut a text at the first occurrence of a separator. -/
def cut? (sep t : Text) : Option (Text × Text) :=
  match Text.splitOn sep t with
  | a :: b :: ts => some (a, Text.joinWith sep (b :: ts))
  | _ => none

/-- The question in braces, and whether the answer is turned around. -/
def queryOf (t : Text) : PropertyQuery × Bool :=
  match cut? ['!', '='] t with
  | some (name, value) => (.valued name value, true)
  | none =>
    match (cut? [':'] t).or (cut? ['='] t) with
    | some (name, value) => (.valued name value, false)
    | none => (.named t, false)

/-- Read a property; `start` is the backslash. -/
def readProperty (start s : RegexSource) (negated : Bool) :
    Except RegexFault (RegexAtom × RegexSource) :=
  let make (q : PropertyQuery) (turned : Bool) (after : RegexSource) :=
    .ok (.set (start.spanTo after) (.property (start.spanTo after) (negated != turned) q), after)
  match s.rest with
  | [] => RegexFaultKind.escapeEnd.at s.here
  | '\x7b' :: _ =>
    let (name, t) := s.next.takeWhile (· ≠ '\x7d')
    if t.atEnd then RegexFaultKind.escapeEnd.at t.here
    else
      let (q, turned) := queryOf name
      make q turned t.step
  | '\\' :: _ => RegexFaultKind.propertyLetter.at s.one
  | c :: _ => make (.named [c]) false s.step

/-! ### Places -/

/-- A character of a name of a place. -/
def isPlaceChar (c : Char) : Bool := c.isAlpha || c == '-'

/-- The places with names. -/
def placeNames : List (String × WordPlace) :=
  [("start", .start), ("end", .stop), ("start-half", .startHalf), ("end-half", .stopHalf)]

/-- Read the name of a place in braces, which come next, unless they hold something else; `start` is
    the backslash. -/
def readPlace? (start s : RegexSource) : Except RegexFault (Option (WordPlace × RegexSource)) :=
  let inner := s.next
  match inner.rest with
  | [] => RegexFaultKind.wordPlaceOpen.at (start.spanTo inner)
  | c :: _ =>
    if !isPlaceChar c then .ok none
    else
      let (name, t) := inner.takeWhile isPlaceChar
      if t.rest.head? ≠ some '\x7d' then RegexFaultKind.wordPlaceUnclosed.at (s.spanTo t)
      else match placeNames.lookup (String.ofList name) with
        | some p => .ok (some (p, t.step))
        | none => RegexFaultKind.wordPlaceUnknown.at (inner.spanTo t)

/-! ### Everything behind a backslash -/

/-- A character that a backslash leaves as it is. -/
def isEscapable (c : Char) : Bool :=
  c.toNat < 0x80 && !c.isAlphanum && c != '<' && c != '>'

/-- The characters with letters of their own. -/
def letterChars : List (Char × Char) :=
  [('a', '\x07'), ('f', '\x0c'), ('t', '\t'), ('n', '\n'), ('r', '\r'), ('v', '\x0b')]

/-- The sets with letters of their own; a capital letter turns the set around. -/
def letterSets : List (Char × ShortClass) := [('d', .digit), ('s', .space), ('w', .word)]

/-- The places with letters of their own. -/
def letterPlaces : List (Char × WrittenRegex) :=
  [('A', .textStart), ('z', .textEnd), ('B', .atWord .inside), ('<', .atWord .start),
    ('>', .atWord .stop)]

/-- Read an escape, which starts with a backslash. -/
def read (s : RegexSource) : Except RegexFault (RegexAtom × RegexSource) :=
  let mark := s.step
  match mark.rest with
  | [] => RegexFaultKind.escapeEnd.at (s.spanTo mark)
  | c :: _ =>
    let after := mark.step
    let span := s.spanTo after
    if c.isDigit then RegexFaultKind.backreference.at span
    else if isEscapable c then .ok (.char ⟨c, false, span⟩, after)
    else match letterChars.lookup c, letterSets.lookup c.toLower, letterPlaces.lookup c with
      | some d, _, _ => .ok (.char ⟨d, false, span⟩, after)
      | none, some kind, _ => .ok (.set span (.short span c.isUpper kind), after)
      | none, none, some r => .ok (.place span r, after)
      | none, none, none =>
        match c with
        | 'x' => readNumber s mark.next 2
        | 'u' => readNumber s mark.next 4
        | 'U' => readNumber s mark.next 8
        | 'p' => readProperty s mark.next false
        | 'P' => readProperty s mark.next true
        | 'b' =>
          let edge : Except RegexFault (RegexAtom × RegexSource) :=
            .ok (.place span (.atWord .edge), after)
          if after.rest.head? = some '\x7b' then do
            match ← readPlace? s after with
            | some (p, t) => return (.place (s.spanTo t) (.atWord p), t)
            | none => edge
          else edge
        | _ => RegexFaultKind.escapeUnknown.at span

end RegexAtom

end FenceSync
