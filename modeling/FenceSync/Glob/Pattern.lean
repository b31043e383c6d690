import FenceSync.Glob.Basic
import FenceSync.Text.Quoted

namespace FenceSync

/-!
# Written globs

In a written glob `?` stands for a character of a name, `*` for any number of them, `**` between
slashes for any directories, `[…]` for one of some characters, and `{…,…}` for alternatives; a
backslash takes the meaning from the next character.

* `GlobToken` is a part of a pattern, and `GlobToken.glob` what it matches.
* `ClassDraft` reads the inside of square brackets.
* `PatternDraft.step` extends a pattern with its next part.
* `readGlobTokens` reads the parts of a pattern.
-/

/-- Why a text is not a pattern. -/
inductive GlobFault where
  | unclosedClass
  | invalidRange (first last : Char)
  | unopenedGroup
  | unclosedGroup
  | danglingEscape
  deriving DecidableEq, Repr

/-- A fault in words. -/
def GlobFault.message : GlobFault → String
  | .unclosedClass => "unclosed character class; missing ']'"
  | .invalidRange first last =>
    "invalid range; '" ++ first.toString ++ "' > '" ++ last.toString ++ "'"
  | .unopenedGroup =>
    "unopened alternate group; missing '\x7b' (maybe escape '\x7d' with '[\x7d]'?)"
  | .unclosedGroup =>
    "unclosed alternate group; missing '\x7d' (maybe escape '\x7b' with '[\x7b]'?)"
  | .danglingEscape => "dangling '\\'"

/-- A fault with the pattern it lies in. -/
def GlobFault.messageIn (pattern : Text) (f : GlobFault) : String :=
  s!"error parsing glob '{String.ofList pattern}': {f.message}"

/-! ### Parts -/

/-- A part of a pattern. -/
inductive GlobToken where
  | literal (c : Char)
  /-- A question mark. -/
  | any
  /-- A star. -/
  | star
  /-- Two stars in front, with the slash behind them. -/
  | leadingDirs
  /-- Two stars between slashes. -/
  | innerDirs
  /-- Two stars at the end, with the slash before them. -/
  | inside
  | byteClass (c : ByteClass)
  /-- Alternatives, together; also as a regular expression. -/
  | group (g : Glob) (expression : Text)
  deriving DecidableEq, Repr

/-- What a part matches. -/
def GlobToken.glob : GlobToken → Glob
  | .literal c => Glob.char c
  | .any => .one .inSegment
  | .star => .many .inSegment
  | .leadingDirs => Glob.leadingDirs
  | .innerDirs => Glob.innerDirs
  | .inside => Glob.insideDir
  | .byteClass c => .one c
  | .group g _ => g

/-- What parts match together. -/
def Glob.ofTokens (ts : List GlobToken) : Glob := Glob.sequence (ts.map GlobToken.glob)

/-! ### Regular expressions -/

/-- The characters that have a meaning in regular expressions. -/
def metaCharacters : Text := "\\.+*?()|[]\x7b\x7d^$#&-~".toList

/-- A byte in a regular expression. -/
def byteExpression (b : UInt8) : Text :=
  if b < 0x80 then
    let c := Char.ofNat b.toNat
    if metaCharacters.contains c then ['\\', c] else [c]
  else "\\x".toList ++ hexNumeral b.toNat

/-- A range of bytes in a regular expression. -/
def rangeExpression (r : UInt8 × UInt8) : Text :=
  if r.1 = r.2 then byteExpression r.1
  else byteExpression r.1 ++ '-' :: byteExpression r.2

/-- A part as a regular expression. -/
def GlobToken.expression : GlobToken → Text
  | .literal c => (String.utf8EncodeChar c).flatMap byteExpression
  | .any => "[^/]".toList
  | .star => "[^/]*".toList
  | .leadingDirs => "(?:/?|.*/)".toList
  | .innerDirs => "(?:/|/.*/)".toList
  | .inside => "/.*".toList
  | .byteClass c =>
    '[' :: (if c.negated then ['^'] else []) ++ c.ranges.flatMap rangeExpression ++ [']']
  | .group _ e => e

/-- The regular expression for parts together. -/
def expressionOf (ts : List GlobToken) : Text := ts.flatMap GlobToken.expression

/-- Alternatives together; an empty alternative does not count. -/
def GlobToken.ofBranches (branches : List (List GlobToken)) : GlobToken :=
  .group (Glob.oneOf ((branches.map Glob.ofTokens).filter fun g => g ≠ .empty))
    (match (branches.map expressionOf).filter fun e => e ≠ [] with
      | [] => []
      | es => "(?:".toList ++ List.intercalate ['|'] es ++ [')'])

/-! ### Classes -/

/-- The inside of square brackets as far as it is read: ranges of characters, the last one first,
    and whether a hyphen has opened the last one. -/
structure ClassDraft where
  ranges : List (Char × Char)
  opened : Bool
  deriving DecidableEq, Repr

namespace ClassDraft

/-- Nothing is read. -/
def empty : ClassDraft := ⟨[], false⟩

/-- Read one more character. -/
def extend (d : ClassDraft) (c : Char) : Except GlobFault ClassDraft :=
  match d.ranges, d.opened with
  | (first, _) :: rs, true =>
    if c < first then .error (.invalidRange first c) else .ok ⟨(first, c) :: rs, false⟩
  | [], _ => .ok ⟨[(c, c)], false⟩
  | rs, false => if c = '-' then .ok ⟨rs, true⟩ else .ok ⟨(c, c) :: rs, false⟩

/-- The ranges, a hyphen at the end standing for itself. -/
def finish (d : ClassDraft) : List (Char × Char) :=
  (if d.opened then ('-', '-') :: d.ranges else d.ranges).reverse

end ClassDraft

/-- The bytes of a range: the range goes from the last byte of its first character to the first
    byte of its last one, and all other bytes of both stand alone. -/
def byteRanges (first last : Char) : List (UInt8 × UInt8) :=
  let alone (bs : Bytes) := bs.map fun b => (b, b)
  let f := String.utf8EncodeChar first
  if first = last then alone f
  else
    let l := String.utf8EncodeChar last
    alone f.dropLast ++ [(f.getLast?.getD 0, l.head?.getD 0)] ++ alone l.tail

/-- The inside of square brackets, and what follows them if they are closed.  A bracket that stands
    first does not close them. -/
def cutClass (t : Text) : Text × Option Text :=
  match t with
  | [] => ([], none)
  | c :: r =>
    match r.dropWhile (· ≠ ']') with
    | [] => (t, none)
    | _ :: rest => (c :: r.takeWhile (· ≠ ']'), some rest)

/-- Whether a class starts with a mark that negates it, and the rest of it. -/
def cutNegation : Text → Bool × Text
  | '!' :: t | '^' :: t => (true, t)
  | t => (false, t)

/-- The class behind an opening bracket, and what follows it if it is closed. -/
def readClass (t : Text) : Except GlobFault (ByteClass × Option Text) := do
  let (negated, t) := cutNegation t
  let (inside, rest) := cutClass t
  let draft ← inside.foldlM ClassDraft.extend .empty
  return (⟨negated, draft.finish.flatMap fun r => byteRanges r.1 r.2⟩, rest)

/-! ### Patterns -/

/-- Alternatives that are complete, and the parts of the one being read, the last one first. -/
structure Branches where
  done : List (List GlobToken)
  current : List GlobToken
  deriving DecidableEq, Repr

/-- A pattern as far as it is read. -/
structure PatternDraft where
  /-- The innermost open group, or the pattern itself. -/
  inner : Branches
  /-- The groups around it. -/
  outer : List Branches
  /-- The character before. -/
  previous : Option Char
  /-- A bracket was not closed, so that further brackets stand for themselves. -/
  literalBrackets : Bool
  deriving DecidableEq, Repr

namespace PatternDraft

/-- Nothing is read. -/
def empty : PatternDraft := ⟨⟨[], []⟩, [], none, false⟩

/-- Inside of a group. -/
def inGroup (d : PatternDraft) : Bool := !d.outer.isEmpty

/-- Append parts. -/
def push (d : PatternDraft) (ts : List GlobToken) : PatternDraft :=
  { d with inner := { d.inner with current := ts.reverse ++ d.inner.current } }

/-- Open a group. -/
def openGroup (d : PatternDraft) : PatternDraft :=
  { d with inner := ⟨[], []⟩, outer := d.inner :: d.outer }

/-- Go on to the next alternative. -/
def nextBranch (d : PatternDraft) : PatternDraft :=
  { d with inner := ⟨d.inner.done ++ [d.inner.current.reverse], []⟩ }

/-- Close a group. -/
def closeGroup (d : PatternDraft) : Except GlobFault PatternDraft :=
  match d.outer with
  | [] => .error .unopenedGroup
  | b :: bs =>
    .ok ({ d with inner := b, outer := bs }.push [.ofBranches d.nextBranch.inner.done])

/-- Replace the last part by two stars, which swallow the slash before them. -/
def pushDirs (d : PatternDraft) (t : GlobToken) : PatternDraft :=
  match d.inner.current with
  | .leadingDirs :: _ | .inside :: _ => d
  | _ :: ts => { d with inner := { d.inner with current := t :: ts } }
  | [] => d.push [t]

/-- Read what follows a first star; also what is left of the text. -/
def readStars (d : PatternDraft) (t : Text) : PatternDraft × Text :=
  match t with
  | '*' :: rest =>
    let twoStars := (d.push [.star, .star], rest)
    if d.inner.current.isEmpty then
      match rest with
      | [] => (d.push [.leadingDirs], rest)
      | '/' :: rest => (d.push [.leadingDirs], rest)
      | _ => twoStars
    else if d.previous ≠ some '/' ∧
        !(d.inGroup && (d.previous == some ',' || d.previous == some '\x7b')) then twoStars
    else
      match rest with
      | [] => (d.pushDirs .inside, rest)
      | '/' :: rest => (d.pushDirs .innerDirs, rest)
      | c :: _ =>
        if d.inGroup ∧ (c = ',' ∨ c = '\x7d') then (d.pushDirs .inside, rest) else twoStars
  | t => (d.push [.star], t)

/-- Read the next part, which starts with `c`; also what is left of the text.  With `lenient`, a
    bracket that is not closed stands for itself. -/
def step (lenient : Bool) (d : PatternDraft) (c : Char) (t : Text) :
    Except GlobFault (PatternDraft × Text) :=
  match c with
  | '?' => .ok (d.push [.any], t)
  | '*' => .ok (d.readStars t)
  | '\x7b' => .ok (d.openGroup, t)
  | '\x7d' => (d.closeGroup).map (·, t)
  | ',' => .ok (if d.inGroup then d.nextBranch else d.push [.literal ','], t)
  | '\\' =>
    match t with
    | [] => .error .danglingEscape
    | e :: rest => .ok (d.push [.literal e], rest)
  | '[' =>
    if d.literalBrackets then .ok (d.push [.literal '['], t)
    else do
      match ← readClass t with
      | (cls, some rest) => return (d.push [.byteClass cls], rest)
      | (_, none) =>
        if lenient then return ({ d with literalBrackets := true }.push [.literal '['], t)
        else throw .unclosedClass
  | c => .ok (d.push [.literal c], t)

/-- Read at most so many parts. -/
def readFrom (lenient : Bool) : Nat → PatternDraft → Text → Except GlobFault PatternDraft
  | _, d, [] => .ok d
  | 0, d, _ :: _ => .ok d
  | n + 1, d, c :: t => do
    let (next, rest) ← d.step lenient c t
    let consumed := (c :: t).take (t.length + 1 - rest.length)
    readFrom lenient n { next with previous := consumed.getLast? } rest

/-- The parts, if all groups are closed. -/
def finish (d : PatternDraft) : Except GlobFault (List GlobToken) :=
  if d.inGroup then .error .unclosedGroup else .ok d.inner.current.reverse

end PatternDraft

/-- Read the parts of a pattern.  With `lenient`, a bracket that is not closed stands for itself. -/
def readGlobTokens (lenient : Bool) (t : Text) : Except GlobFault (List GlobToken) := do
  (← PatternDraft.readFrom lenient t.length .empty t).finish

end FenceSync
