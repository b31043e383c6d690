import FenceSync.Text.Digit
import FenceSync.Text.Split

namespace FenceSync

/-!
# Directives

A directive says what a block embeds: a file, a range of its lines, or the output of a command.

* `Directive` is what a directive text means, and `Directive.text` its usual spelling.
* `Directive.file?` and `Directive.command?` read the two forms; `Directive.ofText?` tries the file
  form first, so that a text without white space inside is never taken for a command while it
  reads as a file.
* `LineRange.within` is the part of a file that a range selects.
-/

/-- Lines counted from zero: `start` is the first one, `stop` the one behind the last. -/
structure LineRange where
  start : Nat
  stop : Nat
  deriving DecidableEq, Repr

/-- What to embed. -/
inductive Directive where
  /-- A file, or some of its lines. -/
  | file (path : Text) (range : Option LineRange)
  /-- The output of a command. -/
  | command (line : Text)
  deriving DecidableEq, Repr

/-! ### Ranges -/

/-- The lines selected from `count` lines: all of them for an empty or inverted range, else the
    range cut at the end of the file. -/
def LineRange.within (r : LineRange) (count : Nat) : LineRange :=
  if r.stop ≤ r.start then ⟨0, count⟩
  else
    let stop := min r.stop count
    ⟨min r.start stop, stop⟩

/-- The lines that an optional range selects. -/
def selectedLines (range : Option LineRange) (count : Nat) : LineRange :=
  match range with
  | none => ⟨0, count⟩
  | some r => r.within count

/-- A selection never leaves the file. -/
theorem selectedLines_le (range : Option LineRange) (count : Nat) :
    (selectedLines range count).start ≤ (selectedLines range count).stop ∧
      (selectedLines range count).stop ≤ count := by
  cases range with
  | none => simp [selectedLines]
  | some r =>
    simp only [selectedLines, LineRange.within]
    split <;> grind

/-- Cut a list to a range of its elements. -/
def LineRange.slice {α : Type} (r : LineRange) (xs : List α) : List α :=
  (xs.take r.stop).drop r.start

/-! ### Spelling -/

/-- The bound of a range, `L` and a numeral. -/
def lineBound (n : Nat) : Text := 'L' :: Text.ofNat n

/-- The usual spelling of a directive. -/
def Directive.text : Directive → Text
  | .file path none => path
  | .file path (some r) => path ++ '#' :: lineBound r.start ++ '-' :: lineBound r.stop
  | .command line => '$' :: ' ' :: line

/-! ### Reading -/

/-- The largest bound of a range is below this. -/
def boundLimit : Nat := UInt64.size

/-- A bound from its digits: ASCII digits of a number below the limit. -/
def boundOfDigits? (digits : Text) : Option Nat :=
  match natOfDigits? digits with
  | some n => if n < boundLimit then some n else none
  | none => none

/-- The digits of a bound, behind an `L` that may be missing, and what follows them. -/
def cutBound? (t : Text) : Option (Text × Text) :=
  let u := (Text.after? ['L'] t).getD t
  let digits := u.takeWhile isDigit
  if digits = [] then none else some (digits, u.dropWhile isDigit)

/-- The digits of both bounds in a text such as `L2-L10`. -/
def cutBounds? (t : Text) : Option (Text × Text) :=
  match cutBound? t with
  | some (first, '-' :: rest) =>
    match cutBound? rest with
    | some (second, []) => some (first, second)
    | _ => none
  | _ => none

/-- A path and the digits of two bounds, if the text ends in a range and the path is not empty. -/
def cutRange? (t : Text) : Option (Text × Text × Text) :=
  match t.reverse.dropWhile (· ≠ '#') with
  | '#' :: c :: path =>
    match cutBounds? (t.reverse.takeWhile (· ≠ '#')).reverse with
    | some (first, second) => some ((c :: path).reverse, first, second)
    | none => none
  | _ => none

/-- Read a file directive: one word, with a range at its end or without. -/
def Directive.file? (text : Text) : Option Directive :=
  let t := Text.trim text
  if t = [] ∨ t.any isSpace then none
  else match cutRange? t with
    | none => some (.file t none)
    | some (path, first, second) =>
      match boundOfDigits? first, boundOfDigits? second with
      | some start, some stop => some (.file path (some ⟨start, stop⟩))
      | _, _ => none

/-- Read a command directive: a dollar sign, then the command.  If only white space follows, the
    last character of it is the command. -/
def Directive.command? (text : Text) : Option Directive :=
  match Text.trimStart text with
  | '$' :: rest =>
    if Text.isBlank rest then rest.getLast?.map fun c => .command [c]
    else some (.command (Text.trim rest))
  | _ => none

/-- Read a directive. -/
def Directive.ofText? (text : Text) : Option Directive :=
  (Directive.file? text).or (Directive.command? text)

end FenceSync
