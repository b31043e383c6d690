import FenceSync.Text.Split

namespace FenceSync

/-!
# Faults in written expressions

* `RegexFault` says what is wrong in the text of an expression, and where.
* `RegexFault.messageIn` shows it: the text with marks below the characters that the fault concerns.
-/

/-- Some characters of a text: the first one, and the one behind the last. -/
structure TextSpan where
  first : Nat
  last : Nat
  deriving DecidableEq, Repr, Inhabited

/-- Why a text is no expression. -/
inductive RegexFaultKind where
  | classEscape
  | classRange
  | classRangeLiteral
  | classUnclosed
  | decimalInvalid
  | hexEmpty
  | hexInvalid
  | hexDigit
  | escapeEnd
  | escapeUnknown
  | flagDanglingNegation
  | flagDuplicate
  | flagNegatedAgain
  | flagEnd
  | flagUnknown
  | groupNameDuplicate
  | groupNameEmpty
  | groupNameInvalid
  | groupNameEnd
  | groupUnclosed
  | groupUnopened
  | tooDeep (levels : Nat)
  | countInvalid
  | countDecimal
  | countUnclosed
  | operandMissing
  | propertyLetter
  | propertyName
  | propertyValue
  | wordPlaceOpen
  | wordPlaceUnclosed
  | wordPlaceUnknown
  | backreference
  | lookAround
  /-- It speaks of more than ASCII where only ASCII is read. -/
  | beyondAscii
  /-- It stands for parts of characters. -/
  | brokenCharacter
  deriving DecidableEq, Repr

/-- A fault in words. -/
def RegexFaultKind.message : RegexFaultKind → String
  | .classEscape => "invalid escape sequence found in character class"
  | .classRange => "invalid character class range, the start must be <= the end"
  | .classRangeLiteral => "invalid range boundary, must be a literal"
  | .classUnclosed => "unclosed character class"
  | .decimalInvalid => "decimal literal invalid"
  | .hexEmpty => "hexadecimal literal empty"
  | .hexInvalid => "hexadecimal literal is not a Unicode scalar value"
  | .hexDigit => "invalid hexadecimal digit"
  | .escapeEnd => "incomplete escape sequence, reached end of pattern prematurely"
  | .escapeUnknown => "unrecognized escape sequence"
  | .flagDanglingNegation => "dangling flag negation operator"
  | .flagDuplicate => "duplicate flag"
  | .flagNegatedAgain => "flag negation operator repeated"
  | .flagEnd => "expected flag but got end of regex"
  | .flagUnknown => "unrecognized flag"
  | .groupNameDuplicate => "duplicate capture group name"
  | .groupNameEmpty => "empty capture group name"
  | .groupNameInvalid => "invalid capture group character"
  | .groupNameEnd => "unclosed capture group name"
  | .groupUnclosed => "unclosed group"
  | .groupUnopened => "unopened group"
  | .tooDeep levels =>
    s!"exceed the maximum number of nested parentheses/brackets ({levels})"
  | .countInvalid => "invalid repetition count range, the start must be <= the end"
  | .countDecimal => "repetition quantifier expects a valid decimal"
  | .countUnclosed => "unclosed counted repetition"
  | .operandMissing => "repetition operator missing expression"
  | .propertyLetter => "invalid Unicode character class"
  | .propertyName => "Unicode property not found"
  | .propertyValue => "Unicode property value not found"
  | .wordPlaceOpen =>
    "found either the beginning of a special word boundary or a bounded repetition on a \\b " ++
      "with an opening brace, but no closing brace"
  | .wordPlaceUnclosed =>
    "special word boundary assertion is either unclosed or contains an invalid character"
  | .wordPlaceUnknown =>
    "unrecognized special word boundary assertion, valid choices are: start, end, start-half " ++
      "or end-half"
  | .backreference => "backreferences are not supported"
  | .lookAround => "look-around, including look-ahead and look-behind, is not supported"
  | .beyondAscii => "Unicode not allowed here"
  | .brokenCharacter => "pattern can match invalid UTF-8"

/-- A fault with the characters it concerns, and with those before them that they clash with. -/
structure RegexFault where
  kind : RegexFaultKind
  span : TextSpan
  earlier : Option TextSpan
  deriving DecidableEq, Repr

namespace RegexFault

/-- The characters that the fault concerns, in order. -/
def spans (f : RegexFault) : List TextSpan := f.earlier.toList ++ [f.span]

/-! ### Lines -/

/-- The lines of a text without what ends them. -/
def linesOf (t : Text) : List Text :=
  match (Text.splitOn ['\n'] t).reverse with
  | last :: before =>
    let ended := before.reverse.map fun l => if l.getLast? = some '\r' then l.dropLast else l
    ended ++ if last = [] then [] else [last]
  | [] => []

/-- The line and the column of a place in a text, both counted from 1. -/
def placeIn (t : Text) (pos : Nat) : Nat × Nat :=
  let before := t.take pos
  (before.count '\n' + 1, (before.reverse.takeWhile (· ≠ '\n')).length + 1)

/-! ### Marks -/

/-- Marks below columns that are counted from 0, when so many columns are done. -/
def marksFrom : Nat → List (Nat × Nat) → Text
  | _, [] => []
  | done, (first, last) :: columns =>
    let width := max 1 (last - first)
    List.replicate (first - done) ' ' ++ List.replicate width '^' ++
      marksFrom (max done first + width) columns

/-- A text of one line with its marks. -/
def shownLine (t : Text) (f : RegexFault) : Text :=
  "    ".toList ++ t ++ ['\n'] ++ List.replicate 4 ' ' ++
    marksFrom 0 (f.spans.map fun s => (s.first, s.last)) ++ ['\n']

/-- A text of several lines with their numbers, and with marks below the lines they are in. -/
def shownLines (t : Text) (f : RegexFault) : Text :=
  let lines := linesOf t
  let count := lines.length + (if t.getLast? = some '\n' then 1 else 0)
  let width := (toString count).length
  let spans := f.spans.map fun s => (placeIn t s.first, placeIn t s.last)
  lines.zipIdx.flatMap fun (l, i) =>
    let number := (toString (i + 1)).toList
    let columns := (spans.filter fun s => s.1.1 == i + 1 && s.2.1 == i + 1).map fun s =>
      (s.1.2 - 1, s.2.2 - 1)
    let marks := if columns = [] then []
      else List.replicate (width + 2) ' ' ++ marksFrom 0 columns ++ ['\n']
    List.replicate (width - number.length) ' ' ++ number ++ [':', ' '] ++ l ++ ['\n'] ++ marks

/-- The spans over several lines, in words. -/
def notes (t : Text) (f : RegexFault) : List String :=
  (f.spans.map fun s => (placeIn t s.first, placeIn t s.last)).filterMap fun (a, b) =>
    if a.1 = b.1 then none
    else some s!"on line {a.1} (column {a.2}) through line {b.1} (column {b.2 - 1})"

/-- A fault below its text. -/
def messageIn (t : Text) (f : RegexFault) : String :=
  let body :=
    if t.contains '\n' then
      let rule := String.ofList (List.replicate 79 '~') ++ "\n"
      let notes := match f.notes t with
        | [] => ""
        | ns => "\n".intercalate ns ++ "\n"
      rule ++ String.ofList (f.shownLines t) ++ rule ++ notes
    else String.ofList (f.shownLine t)
  "regex parse error:\n" ++ body ++ "error: " ++ f.kind.message

end RegexFault

end FenceSync
