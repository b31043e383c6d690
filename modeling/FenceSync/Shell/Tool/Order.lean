import FenceSync.Shell.Quantity
import FenceSync.Shell.Tool.Basic
import FenceSync.Shell.Version

namespace FenceSync.Shell

/-!
# Sorting

* `SortKind` is a way to compare pieces of lines, and `SortKey` the piece that is compared.
* `SortKey.read?` reads a description of a piece.
* `SortOrder.compare` compares lines by several pieces.
* `Tool.sort` puts lines in order, merges files that are in order, or checks one.
-/

/-! ### Ways to compare -/

/-- What pieces are compared as. -/
inductive SortKind where
  | text
  | numbers
  /-- Numbers with exponents, infinities and the like. -/
  | generalNumbers
  /-- Numbers with letters for units. -/
  | humanNumbers
  | months
  | versions
  | shuffled
  deriving DecidableEq, Repr

/-- How pieces are compared. -/
structure SortManner where
  kinds : List SortKind
  /-- Only letters, digits and blanks count. -/
  dictionary : Bool
  /-- Only characters that can be shown count. -/
  shown : Bool
  /-- Letters count as large ones. -/
  folded : Bool
  blanksInFront : Bool
  blanksAtEnd : Bool
  reverse : Bool
  deriving DecidableEq, Repr

namespace SortManner

/-- Compare texts. -/
def plain : SortManner := ⟨[], false, false, false, false, false, false⟩

/-- The manner that a letter adds; blanks in front count at the places that are given. -/
def add? (m : SortManner) (front back : Bool) (c : Char) : Option SortManner :=
  match c with
  | 'b' => some { m with
      blanksInFront := m.blanksInFront || front, blanksAtEnd := m.blanksAtEnd || back }
  | 'd' => some { m with dictionary := true }
  | 'f' => some { m with folded := true }
  | 'g' => some { m with kinds := .generalNumbers :: m.kinds.erase .generalNumbers }
  | 'h' => some { m with kinds := .humanNumbers :: m.kinds.erase .humanNumbers }
  | 'i' => some { m with shown := true }
  | 'M' => some { m with kinds := .months :: m.kinds.erase .months }
  | 'n' => some { m with kinds := .numbers :: m.kinds.erase .numbers }
  | 'R' => some { m with kinds := .shuffled :: m.kinds.erase .shuffled }
  | 'r' => some { m with reverse := true }
  | 'V' => some { m with kinds := .versions :: m.kinds.erase .versions }
  | _ => none

/-- Nothing but the direction is set. -/
def isPlain (m : SortManner) : Bool := { m with reverse := false } == plain

/-- The parts of a manner fit together. -/
def isSound (m : SortManner) : Bool :=
  let number := m.kinds.filter fun k => k != .versions && k != .shuffled
  let others := m.kinds.length != number.length || m.dictionary || m.shown
  number.length + (if others then 1 else 0) ≤ 1

/-- What pieces are compared as. -/
def kind (m : SortManner) : SortKind :=
  let order : List SortKind :=
    [.numbers, .generalNumbers, .humanNumbers, .months, .shuffled, .versions]
  (order.find? m.kinds.contains).getD .text

/-- The characters that count. -/
def reduce (m : SortManner) (t : Octets) : Octets :=
  let t := if m.dictionary then
    t.filter fun c => c.isAlphanum || Octets.isBlank c || c == '\n' else t
  let t := if m.shown then t.filter Octets.isPrint else t
  if m.folded then t.map Char.toUpper else t

end SortManner

/-- A blank, or the end of a line within a record. -/
def isGap (c : Char) : Bool := Octets.isBlank c || c == '\n'

/-- A number in units of a power of ten: its value, and the power. -/
def decimalAt (t : Octets) : Int × Nat :=
  let (negative, t) := match t with
    | '-' :: t => (true, t)
    | t => (false, t)
  let front := t.takeWhile Char.isDigit
  let back := match t.drop front.length with
    | '.' :: t => t.takeWhile Char.isDigit
    | _ => []
  (Octets.signed negative ((Octets.nat? (front ++ back)).getD 0), back.length)

/-- Compare decimal numbers. -/
def compareDecimals (a b : Int × Nat) : Ordering :=
  compare (a.1 * (Nat.pow 10 b.2 : Nat)) (b.1 * (Nat.pow 10 a.2 : Nat))

/-- The order of a unit behind a number; smaller for negative numbers. -/
def unitOrder (t : Octets) : Int :=
  let (negative, t) := match t with
    | '-' :: t => (true, t)
    | t => (false, t)
  let front := t.takeWhile Char.isDigit
  let t := t.drop front.length
  let (back, t) := match t with
    | '.' :: t => (t.takeWhile Char.isDigit, t.dropWhile Char.isDigit)
    | t => ([], t)
  if (front ++ back).all (· == '0') then 0
  else
    let order : Nat := match t.head? with
      | some 'k' => 1
      | some c => match "KMGTPEZYRQ".toList.idxOf? c with
        | some n => n + 1
        | none => 0
      | none => 0
    Octets.signed negative order

/-- The names of months. -/
def monthNames : List String :=
  ["JAN", "FEB", "MAR", "APR", "MAY", "JUN", "JUL", "AUG", "SEP", "OCT", "NOV", "DEC"]

/-- The number of the month whose name a text starts with, or zero. -/
def monthOf (t : Octets) : Nat :=
  match monthNames.idxOf? (Octets.toString ((t.take 3).map Char.toUpper)) with
  | some n => n + 1
  | none => 0

/-- What a piece is compared by. -/
inductive SortValue where
  | text (t : Octets)
  | decimal (order : Int) (n : Int × Nat)
  | quantity (q : Option Quantity)
  | month (n : Nat)
  | version (t : Octets)

namespace SortValue

/-- What a piece is compared by. -/
def of (k : SortKind) (t : Octets) : SortValue :=
  match k with
  | .text | .shuffled => .text t
  | .numbers => .decimal 0 (decimalAt (t.dropWhile isGap))
  | .humanNumbers =>
    let t := t.dropWhile isGap
    .decimal (unitOrder t) (decimalAt t)
  | .generalNumbers => .quantity ((Quantity.read? t).map fun e => Precision.extended.round e.1)
  | .months => .month (monthOf (t.dropWhile isGap))
  | .versions => .version t

/-- Compare values of one kind. -/
def compare (a b : SortValue) : Ordering :=
  match a, b with
  | .text s, .text t => Ord.compare s t
  | .decimal i m, .decimal j n => (Ord.compare i j).then (compareDecimals m n)
  | .quantity p, .quantity q =>
    match p, q with
    | none, none => .eq
    | none, some _ => .lt
    | some _, none => .gt
    | some p, some q => if p.less q then .lt else if q.less p then .gt else .eq
  | .month m, .month n => Ord.compare m n
  | .version s, .version t => Version.compareNames s t
  | _, _ => .eq

end SortValue

/-! ### Pieces -/

/-- A place in a line: so many fields and then so many characters are before it. -/
structure SortPlace where
  fields : Nat
  chars : Nat
  deriving DecidableEq, Repr

/-- A piece of a line, and how it is compared. -/
structure SortKey where
  start : SortPlace
  /-- The last character; the end of the field if its number is zero. -/
  stop : Option SortPlace
  manner : SortManner
  deriving Repr

namespace SortKey

/-- Skip one field, with the separator behind it. -/
def skipField (sep : Option Char) (t : Octets) : Octets :=
  match sep with
  | some s => (t.dropWhile (· != s)).drop 1
  | none => (t.dropWhile isGap).dropWhile fun c => !isGap c

/-- Skip fields. -/
def skipFields (sep : Option Char) : Nat → Octets → Octets
  | 0, t => t
  | _, [] => []
  | n + 1, t => skipFields sep n (skipField sep t)

/-- How much of a line is in front of the end of a piece. -/
def stopOf (sep : Option Char) (m : SortManner) (p : SortPlace) (line : Octets) : Nat :=
  if p.chars = 0 then
    let t := skipFields sep p.fields line
    let inside := match sep with
      | some s => t.dropWhile (· != s)
      | none => skipField none t
    line.length - inside.length
  else
    let t := skipFields sep p.fields line
    let t := if m.blanksAtEnd then t.dropWhile isGap else t
    line.length - (t.drop p.chars).length

/-- The piece of a line. -/
def piece (sep : Option Char) (k : SortKey) (line : Octets) : Octets :=
  let t := skipFields sep k.start.fields line
  let t := if k.manner.blanksInFront then t.dropWhile isGap else t
  let t := t.drop k.start.chars
  match k.stop with
  | none => t
  | some p => t.take (stopOf sep k.manner p line - (line.length - t.length))

/-- What a line is compared by. -/
def value (sep : Option Char) (k : SortKey) (line : Octets) : SortValue :=
  .of k.manner.kind (k.manner.reduce (k.piece sep line))

/-- Add the manners of letters up to a comma. -/
def readLetters (front back : Bool) : SortManner → Octets → SortManner × Octets
  | m, [] => (m, [])
  | m, c :: t => match m.add? front back c with
    | some m => readLetters front back m t
    | none => (m, c :: t)

/-- Read a number. -/
def readNat? (t : Octets) : Option (Nat × Octets) :=
  let ds := t.takeWhile Char.isDigit
  (Octets.nat? ds).map fun n => (n, t.drop ds.length)

/-- Read a number behind a point. -/
def readChars? (usual : Nat) (t : Octets) : Option (Nat × Octets) :=
  match t with
  | '.' :: t => readNat? t
  | t => some (usual, t)

/-- Read a description such as `2.3n,4`, in which fields and characters are counted from one. -/
def read? (t : Octets) : Option SortKey := do
  let (first, t) ← readNat? t
  let (char, t) ← readChars? 1 t
  if first = 0 ∨ char = 0 then none
  else
    let start : SortPlace := ⟨first - 1, char - 1⟩
    let (m, t) := readLetters true false .plain t
    match t with
    | [] => some ⟨start, none, m⟩
    | ',' :: t =>
      let (last, t) ← readNat? t
      let (char, t) ← readChars? 0 t
      let (m, t) := readLetters false true m t
      if last = 0 ∨ !t.isEmpty then none else some ⟨start, some ⟨last - 1, char⟩, m⟩
    | _ => none

/-- Read two arguments of the old kind, in which fields are counted from zero and the piece ends
    before the second place. -/
def readOld? (a : Octets) (b : Option Octets) : Option SortKey := do
  let (first, t) ← readNat? a
  let (char, t) ← readChars? 0 t
  let (m, t) := readLetters true false .plain t
  if !t.isEmpty then none
  else match b with
    | none => some ⟨⟨first, char⟩, none, m⟩
    | some b =>
      let (last, t) ← readNat? b
      let (chars, t) ← readChars? 0 t
      let (m, t) := readLetters false true m t
      if !t.isEmpty then none
      else some ⟨⟨first, char⟩, some ⟨if chars = 0 then last - 1 else last, chars⟩, m⟩

end SortKey

/-! ### Lines -/

/-- How lines are compared. -/
structure SortOrder where
  keys : List SortKey
  separator : Option Char
  /-- Lines that are the same by all keys are not compared any further. -/
  stable : Bool
  reverse : Bool

/-- A line with what it is compared by. -/
structure SortLine where
  text : Octets
  values : List SortValue

namespace SortOrder

/-- A line with what it is compared by. -/
def line (o : SortOrder) (t : Octets) : SortLine := ⟨t, o.keys.map fun k => k.value o.separator t⟩

/-- An order in the other direction. -/
def turned (b : Bool) (o : Ordering) : Ordering := if b then o.swap else o

/-- Compare values by keys. -/
def compareValues : List SortKey → List SortValue → List SortValue → Ordering
  | k :: ks, a :: as, b :: bs =>
    match turned k.manner.reverse (a.compare b) with
    | .eq => compareValues ks as bs
    | o => o
  | _, _, _ => .eq

/-- Compare lines. -/
def compare (o : SortOrder) (a b : SortLine) : Ordering :=
  match compareValues o.keys a.values b.values with
  | .eq =>
    if o.stable && !o.keys.isEmpty then .eq
    else turned o.reverse (Ord.compare a.text b.text)
  | d => d

/-- Lines in order. -/
def sort (o : SortOrder) (ls : List SortLine) : List SortLine :=
  ls.mergeSort fun a b => o.compare a b != .gt

/-- Leave out lines that are the same as the last one that was kept; lines that are kept are in
    reverse order. -/
def distinct (o : SortOrder) : List SortLine → List SortLine → List SortLine
  | done, [] => done.reverse
  | [], l :: ls => distinct o [l] ls
  | last :: done, l :: ls =>
    if o.compare last l = .eq then distinct o (last :: done) ls
    else distinct o (l :: last :: done) ls

/-- Lines are in order; with `strict`, no two are the same. -/
def isSorted (o : SortOrder) (strict : Bool) : List SortLine → Bool
  | a :: b :: ls =>
    match o.compare a b with
    | .gt => false
    | .eq => !strict && isSorted o strict (b :: ls)
    | .lt => isSorted o strict (b :: ls)
  | _ => true

/-- Take the line that comes first from the fronts of several files, at most so many times; lines
    taken so far are in reverse order. -/
def mergeFrom (o : SortOrder) : Nat → List SortLine → List (List SortLine) → List SortLine
  | 0, done, _ => done.reverse
  | n + 1, done, files =>
    let heads := (files.zipIdx).filterMap fun (f, i) => f.head?.map fun l => (l, i)
    match heads with
    | [] => done.reverse
    | h :: hs =>
      let (l, i) := hs.foldl (fun best e => if o.compare e.1 best.1 = .lt then e else best) h
      mergeFrom o n (l :: done) (files.modify i (List.drop 1))

/-- Merge files. -/
def merge (o : SortOrder) (files : List (List SortLine)) : List SortLine :=
  mergeFrom o ((files.map List.length).foldl (· + ·) 0) [] files

end SortOrder

namespace Tool

/-- Put arguments of the old kind, such as `+1 -2`, into the new form. -/
def sortArgs : List Octets → List Octets
  | a :: b :: rest =>
    if a = ['-', '-'] then a :: b :: rest
    else match a, b with
      | '+' :: d :: x, '-' :: e :: y =>
        if d.isDigit && e.isDigit then
          "--old".toList :: (d :: x ++ ['\x00'] ++ e :: y) :: sortArgs rest
        else if d.isDigit then "--old".toList :: (d :: x) :: sortArgs (b :: rest)
        else a :: sortArgs (b :: rest)
      | '+' :: d :: x, _ =>
        if d.isDigit then "--old".toList :: (d :: x) :: sortArgs (b :: rest)
        else a :: sortArgs (b :: rest)
      | _, _ =>
        -- the argument of an option is not looked at
        if a.length = 2 && ["-k", "-o", "-t", "-S", "-T"].contains (Octets.toString a) then
          a :: b :: sortArgs rest
        else a :: sortArgs (b :: rest)
  | ['+' :: d :: x] => if d.isDigit then ["--old".toList, d :: x] else ['+' :: d :: x]
  | args => args

/-- The options of `sort`. -/
def sortOptions : OptionSpec :=
  .of "bcCdfghik:mMno:rRsS:t:T:uVyz" [("ignore-leading-blanks", "b"), ("check?", "check"),
    ("dictionary-order", "d"), ("ignore-case", "f"), ("general-numeric-sort", "g"),
    ("human-numeric-sort", "h"), ("ignore-nonprinting", "i"), ("key", "k"), ("merge", "m"),
    ("month-sort", "M"), ("numeric-sort", "n"), ("output", "o"), ("reverse", "r"),
    ("random-sort", "R"), ("stable", "s"), ("buffer-size", "S"), ("field-separator", "t"),
    ("temporary-directory", "T"), ("unique", "u"), ("version-sort", "V"), ("zero-terminated", "z"),
    ("sort=", "sort"), ("parallel=", "parallel"), ("batch-size=", "batch"),
    ("compress-program=", "compress"), ("random-source=", "source"), ("files0-from=", "files0"),
    ("debug", "debug"), ("old=", "old")]

/-- The manner that a word names. -/
def sortWord? (t : Octets) : Option Char :=
  [("general-numeric", 'g'), ("human-numeric", 'h'), ("month", 'M'), ("numeric", 'n'),
    ("random", 'R'), ("version", 'V')].lookup (Octets.toString t)

/-- The separator of fields that arguments give; none if they do not fit. -/
def sortSeparator? (ts : List Octets) : Option (Option Char) :=
  match ts.eraseDups with
  | [] => some none
  | [[c]] => some (some c)
  | [['\\', '0']] => some (some '\x00')
  | _ => none

/-- The keys that arguments give. -/
def sortKeys? (p : Parsed) : Option (List SortKey) :=
  (p.given.filter fun e => e.1 == "k" || e.1 == "old").mapM fun (key, t) =>
    if key = "k" then SortKey.read? t
    else match t.span (· != '\x00') with
      | (a, _ :: b) => SortKey.readOld? a (some b)
      | (a, []) => SortKey.readOld? a none

/-- How lines are compared by given options. -/
def sortOrder? (p : Parsed) : Option SortOrder := do
  let manner ← p.given.foldlM (fun (m : SortManner) (key, t) =>
    if key = "sort" then (sortWord? t).bind (m.add? true true)
    else match key.toList with
      | [c] => some ((m.add? true true c).getD m)
      | _ => some m) SortManner.plain
  let keys ← sortKeys? p
  let separator ← sortSeparator? (p.values "t")
  let keys := keys.map fun k =>
    if k.manner.isPlain && !k.manner.reverse then { k with manner } else k
  let keys := if keys.isEmpty && !manner.isPlain then [⟨⟨0, 0⟩, none, manner⟩] else keys
  if keys.all (·.manner.isSound) && manner.isSound then
    some ⟨keys, separator, p.has "s" || p.has "u", manner.reverse⟩
  else none

/-- Put lines in order. -/
def sort : Tool := fun s args =>
  withOptions sortOptions 2 (fun s p => do
    let stop := if p.has "z" then '\x00' else '\n'
    let quiet := p.has "C" ||
      (p.value? "check").any fun t => t == "quiet".toList || t == "silent".toList
    let checks := p.has "c" || p.has "C" || p.has "check"
    match sortOrder? p with
    | none => s.fail 2 "invalid option"
    | some order =>
      if (checks && (1 < p.operands.length || p.has "o")) ||
          1 < (p.values "o").eraseDups.length then s.fail 2 "extra operand"
      else
        let (found, ok) ← Input.contents s p.files
        if !ok then return 2
        else
          let files := found.map fun e => (Octets.records stop e.2).map order.line
          if checks then
            if order.isSorted (p.has "u") files.flatten then return 0
            else
              if !quiet then s.complain "disorder"
              return 1
          else
            let sorted := if p.has "m" then order.merge files else order.sort files.flatten
            let kept := if p.has "u" then order.distinct [] sorted else sorted
            let text := kept.flatMap fun l => l.text ++ [stop]
            match p.value? "o" with
            | none => return if ← Sys.print text then 0 else 2
            | some path =>
              match ← Sys.writeFile path .write text with
              | .ok () => return 0
              | .error e =>
                s.complainOf path e
                return 2) s (sortArgs args)

end Tool

end FenceSync.Shell
