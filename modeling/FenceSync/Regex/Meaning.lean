import FenceSync.Regex.Reader
import FenceSync.Regex.Weight

namespace FenceSync

/-!
# What written expressions mean

Flags decide how the parts of a written expression are compared.  Without the flag for wide
characters an expression speaks of the characters of ASCII, and it must not stand for parts of
others.

* `WrittenSet.meaning?` and `WrittenRegex.meaning?` give the parts their meaning.
* `Regex.ofText?` reads an expression, and `RegexRefusal` says why it could not.
-/

/-- How an expression is compared. -/
structure RegexFlags where
  anyCase : Bool
  byLine : Bool
  dotAll : Bool
  wide : Bool
  returns : Bool
  deriving DecidableEq, Repr

namespace RegexFlags

/-- What holds where nothing is said. -/
def usual : RegexFlags := ⟨false, false, false, true, false⟩

/-- Change a flag. -/
def set (f : RegexFlags) (s : FlagSetting) : RegexFlags :=
  match s.flag with
  | .anyCase => { f with anyCase := s.value }
  | .byLine => { f with byLine := s.value }
  | .dotAll => { f with dotAll := s.value }
  | .wide => { f with wide := s.value }
  | .returns => { f with returns := s.value }
  | .lazy | .verbose => f

/-- The set with the other forms of its letters, if they do not matter. -/
def fold (f : RegexFlags) (s : CharSet) : CharSet :=
  if !f.anyCase then s else if f.wide then .anyCase s else .anyAsciiCase s

/-- The set or what is not in it. -/
def turn (f : RegexFlags) (span : TextSpan) (negated : Bool) (s : CharSet) :
    Except RegexFault CharSet :=
  if !negated then .ok s
  else if f.wide then .ok (.compl s)
  else RegexFaultKind.brokenCharacter.at span

end RegexFlags

/-! ### Sets -/

/-- A character by itself. -/
def WrittenChar.meaning? (c : WrittenChar) (f : RegexFlags) : Except RegexFault CharSet :=
  if !f.wide && c.asOctet && 0x80 ≤ c.char.toNat then RegexFaultKind.brokenCharacter.at c.span
  else .ok (f.fold (.only c.char))

/-- A character can be a member of a set. -/
def WrittenChar.asMember (c : WrittenChar) (f : RegexFlags) : Except RegexFault Unit := do
  let _ ← c.meaning? f
  if !f.wide && 0x80 ≤ c.char.toNat then RegexFaultKind.beyondAscii.at c.span else .ok ()

/-- What a letter behind a backslash stands for. -/
def ShortClass.meaning (f : RegexFlags) : ShortClass → CharSet
  | .digit => if f.wide then .digit else .asciiClass "digit"
  | .space => if f.wide then .space else .asciiClass "space"
  | .word => if f.wide then .word else .asciiClass "word"

/-- The fault of a question without an answer. -/
def PropertyFault.asRegexFault : PropertyFault → RegexFaultKind
  | .unknownName => .propertyName
  | .unknownValue => .propertyValue

/-- The characters of a written set. -/
def WrittenSet.meaning? (f : RegexFlags) : WrittenSet → Except RegexFault CharSet
  | .nothing => .ok .nothing
  | .char c => do
    c.asMember f
    return f.fold (.only c.char)
  | .range a b => do
    a.asMember f
    b.asMember f
    return f.fold (.range a.char b.char)
  | .named span negated name => f.turn span negated (f.fold (.asciiClass name))
  | .short span negated kind => f.turn span negated (kind.meaning f)
  | .property span negated query =>
    if !f.wide then RegexFaultKind.beyondAscii.at span
    else match CharSet.ofQuery query with
      | .ok s => f.turn span negated (f.fold s)
      | .error e => e.asRegexFault.at span
  | .both s t => do return .union (← s.meaning? f) (← t.meaning? f)
  | .combined op s t => do
    let left ← s.meaning? f
    let right ← t.meaning? f
    return op.apply left right
  | .bracketed span negated s => do f.turn span negated (← s.meaning? f)
  | .level _ s => s.meaning? f

/-! ### Expressions -/

/-- What a written expression means under some flags, with the flags behind it. -/
def WrittenRegex.meaning? :
    WrittenRegex → RegexFlags → Except RegexFault (Regex × RegexFlags)
  | .empty, f => .ok (.empty, f)
  | .flags settings, f => .ok (.empty, settings.foldl RegexFlags.set f)
  | .char c, f => do return (.one (← c.meaning? f), f)
  | .dot span, f =>
    let ends := if f.returns then ['\r', '\n'] else ['\n']
    if !f.wide then RegexFaultKind.brokenCharacter.at span
    else .ok (.one (if f.dotAll then .all else .allBut ends), f)
  | .caret, f => .ok (if f.byLine then .lineStart f.returns else .textStart, f)
  | .dollar, f => .ok (if f.byLine then .lineEnd f.returns else .textEnd, f)
  | .textStart, f => .ok (.textStart, f)
  | .textEnd, f => .ok (.textEnd, f)
  | .atWord place, f => .ok (.atWord place (ShortClass.word.meaning f), f)
  | .set s, f => do return (.one (← s.meaning? f), f)
  | .repeated r least most, f => do
    let (r, f) ← r.meaning? f
    return (.repeated r least most, f)
  | .group settings r, f => do
    let (r, _) ← r.meaning? (settings.foldl RegexFlags.set f)
    return (r, f)
  | .seq r s, f => do
    let (r, f) ← r.meaning? f
    let (s, f) ← s.meaning? f
    return (.seq r s, f)
  | .either r s, f => do
    let (r, f) ← r.meaning? f
    let (s, f) ← s.meaning? f
    return (.either r s, f)
  | .level _ r, f => r.meaning? f

/-! ### Reading -/

/-- Why an expression is not accepted. -/
inductive RegexRefusal where
  | fault (f : RegexFault)
  | tooHeavy
  deriving DecidableEq, Repr

/-- A refusal in words, for the text of the expression. -/
def RegexRefusal.messageIn (t : Text) : RegexRefusal → String
  | .fault f => f.messageIn t
  | .tooHeavy => s!"Compiled regex exceeds size limit of {Regex.heaviest} bytes."

/-- Read an expression. -/
def Regex.ofText? (t : Text) : Except RegexRefusal Regex :=
  match (WrittenRegex.ofText? t).bind fun w => w.meaning? .usual with
  | .error f => .error (.fault f)
  | .ok (r, _) => if r.isTooHeavy then .error .tooHeavy else .ok r

end FenceSync
