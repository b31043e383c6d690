import FenceSync.Shell.Octet

namespace FenceSync.Shell

/-!
# Dates and times

A moment is a number of nanoseconds since the start of the year 1970; a civil time takes it apart by
the calendar.

* `Civil.ofSeconds` and `Civil.toSeconds` convert.
* `Zone.read?` reads the rules of a zone: its distance from universal time, and when that changes in
  summer.
* `Moment.format` writes a moment by a format with `%` conversions.
-/

/-! ### Civil times -/

/-- A time taken apart; months and days are counted from one. -/
structure Civil where
  year : Int
  month : Int
  day : Int
  hour : Int
  minute : Int
  second : Int
  deriving DecidableEq, Repr, Inhabited

namespace Civil

/-- The days from the start of 1970 to a date; months and days may be out of range. -/
def daysTo (year month day : Int) : Int :=
  let y := year + Int.fdiv (month - 1) 12
  let m := Int.fmod (month - 1) 12 + 1
  -- years start in March, so that a leap day is the last one
  let y := if m ≤ 2 then y - 1 else y
  let era := Int.fdiv y 400
  let ofEra := y - era * 400
  let ofYear := (153 * (m + if m > 2 then -3 else 9) + 2) / 5 + day - 1
  era * 146097 + (ofEra * 365 + ofEra / 4 - ofEra / 100 + ofYear) - 719468

/-- The year, the month and the day that is so many days from the start of 1970. -/
def dateAt (days : Int) : Int × Int × Int :=
  let z := days + 719468
  let era := Int.fdiv z 146097
  let ofEra := z - era * 146097
  let y := (ofEra - ofEra / 1460 + ofEra / 36524 - ofEra / 146096) / 365
  let ofYear := ofEra - (365 * y + y / 4 - y / 100)
  let mp := (5 * ofYear + 2) / 153
  let d := ofYear - (153 * mp + 2) / 5 + 1
  let m := if mp < 10 then mp + 3 else mp - 9
  (y + era * 400 + if m ≤ 2 then 1 else 0, m, d)

/-- The time that is so many seconds from the start of 1970. -/
def ofSeconds (n : Int) : Civil :=
  let days := Int.fdiv n 86400
  let rest := Int.fmod n 86400
  let (year, month, day) := dateAt days
  ⟨year, month, day, rest / 3600, rest / 60 % 60, rest % 60⟩

/-- The seconds from the start of 1970; all parts may be out of range. -/
def toSeconds (c : Civil) : Int :=
  daysTo c.year c.month c.day * 86400 + c.hour * 3600 + c.minute * 60 + c.second

/-- The day of the week; Sunday is zero. -/
def weekday (c : Civil) : Int := Int.fmod (daysTo c.year c.month c.day + 4) 7

/-- The day of the year, counted from zero. -/
def yearDay (c : Civil) : Int := daysTo c.year c.month c.day - daysTo c.year 1 1

/-- The year and the number of the week, which starts on Monday and belongs to the year of its
    Thursday. -/
def week (c : Civil) : Int × Int :=
  let thursday := daysTo c.year c.month c.day - Int.fmod (c.weekday + 6) 7 + 3
  let year := (dateAt thursday).1
  (year, (thursday - daysTo year 1 1) / 7 + 1)

end Civil

/-! ### Zones -/

/-- A fixed distance from universal time, in seconds to the east, with a name. -/
structure Offset where
  name : Octets
  east : Int
  deriving DecidableEq, Repr

/-- The distance as a sign, hours and minutes, with a separator between them. -/
def Offset.shown (z : Offset) (sep : Octets) : Octets :=
  let n := z.east.natAbs
  let two (k : Nat) : Octets := Octets.padLeft 2 '0' (Octets.ofNat k)
  (if z.east < 0 then '-' else '+') :: two (n / 3600) ++ sep ++ two (n / 60 % 60)

/-- A day that each year has. -/
inductive YearDay where
  /-- A day counted from zero. -/
  | counted (n : Nat)
  /-- A day counted from one, where leap days do not count. -/
  | common (n : Nat)
  /-- A day of the week in a week of a month; the fifth week is the last one. -/
  | inMonth (month week day : Nat)
  deriving DecidableEq, Repr

/-- The days from the start of 1970 to the day in a year. -/
def YearDay.inYear (d : YearDay) (year : Int) : Int :=
  match d with
  | .counted n => Civil.daysTo year 1 1 + n
  | .common n =>
    let leap := Civil.daysTo year 3 1 - Civil.daysTo year 2 1 = 29
    Civil.daysTo year 1 n + if leap ∧ 60 ≤ n then 1 else 0
  | .inMonth month week day =>
    let first := Civil.daysTo year month 1
    let next := Civil.daysTo year (month + 1) 1
    let start := first + Int.fmod ((day : Int) - (first + 4)) 7
    let found := start + 7 * ((week : Int) - 1)
    if found < next then found else found - 7

/-- A time of each year, in seconds of its day. -/
structure YearTime where
  day : YearDay
  second : Int
  deriving DecidableEq, Repr

/-- The seconds from the start of 1970 to the time in a year. -/
def YearTime.inYear (t : YearTime) (year : Int) : Int := t.day.inYear year * 86400 + t.second

/-- The part of the year in which another distance counts. -/
structure Summer where
  offset : Offset
  /-- Where it starts, in usual time. -/
  start : YearTime
  /-- Where it stops, in summer time. -/
  stop : YearTime
  deriving DecidableEq, Repr

/-- A zone: its usual distance from universal time, and that in summer. -/
structure Zone where
  usual : Offset
  summer : Option Summer
  deriving DecidableEq, Repr

namespace Zone

/-- Universal time. -/
def universal : Zone := ⟨⟨"UTC".toList, 0⟩, none⟩

/-- The distance at a time in seconds since 1970. -/
def offsetAt (z : Zone) (seconds : Int) : Offset :=
  match z.summer with
  | none => z.usual
  | some s =>
    let year := (Civil.ofSeconds (seconds + z.usual.east)).year
    let start := s.start.inYear year - z.usual.east
    let stop := s.stop.inYear year - s.offset.east
    let isSummer := if start < stop then decide (start ≤ seconds ∧ seconds < stop)
      else decide (seconds < stop ∨ start ≤ seconds)
    if isSummer then s.offset else z.usual

/-- The time in seconds since 1970 that clocks of the zone show in a way; those seconds are what it
    would be in universal time. -/
def toUniversal (z : Zone) (shown : Int) : Int :=
  let usual := shown - z.usual.east
  match z.summer with
  | none => usual
  | some s =>
    let other := shown - s.offset.east
    if z.offsetAt usual = z.usual then usual else other

/-- Hours, minutes and seconds with colons between them, as seconds, and what follows. -/
def readSpan? (t : Octets) : Option (Int × Octets) :=
  let (sign, r) : Int × Octets := match t with
    | '-' :: r => (-1, r)
    | '+' :: r => (1, r)
    | r => (1, r)
  let part (t : Octets) : Option (Nat × Octets) :=
    let ds := t.takeWhile Char.isDigit
    (Octets.nat? ds).map fun n => (n, t.drop ds.length)
  match part r with
  | none => none
  | some (h, r) =>
    match r with
    | ':' :: r' => match part r' with
      | none => some (sign * (h * 3600), r)
      | some (m, r') => match r' with
        | ':' :: r'' => match part r'' with
          | some (s, r'') => some (sign * (h * 3600 + m * 60 + s : Nat), r'')
          | none => some (sign * (h * 3600 + m * 60 : Nat), r')
        | _ => some (sign * (h * 3600 + m * 60 : Nat), r')
    | _ => some (sign * (h * 3600), r)

/-- Read a name, which may stand in angle brackets, and what follows. -/
def readName? (t : Octets) : Option (Octets × Octets) :=
  let (name, rest) : Octets × Octets := match t with
    | '<' :: r => (r.takeWhile (· != '>'), (r.dropWhile (· != '>')).drop 1)
    | t => (t.takeWhile Char.isAlpha, t.dropWhile Char.isAlpha)
  if name.length < 3 then none else some (name, rest)

/-- Read a time of each year. -/
def readYearTime? (t : Octets) : Option YearTime :=
  let (day, rest) := (t.takeWhile (· != '/'), (t.dropWhile (· != '/')).drop 1)
  let second : Option Int := if rest.isEmpty then some 7200 else (readSpan? rest).map (·.1)
  let found : Option YearDay := match day with
    | 'J' :: r => (Octets.nat? r).map .common
    | 'M' :: r => match (Octets.fields '.' r).map Octets.nat? with
      | [some m, some w, some d] =>
        if 1 ≤ m ∧ m ≤ 12 ∧ 1 ≤ w ∧ w ≤ 5 ∧ d < 7 then some (.inMonth m w d) else none
      | _ => none
    | r => (Octets.nat? r).map .counted
  match found, second with
  | some d, some s => some ⟨d, s⟩
  | _, _ => none

/-- Summer where nothing is said: from the second Sunday of March to the first one of November. -/
def usualSummer : YearTime × YearTime := (⟨.inMonth 3 2 0, 7200⟩, ⟨.inMonth 11 1 0, 7200⟩)

/-- Read the rules of a zone, such as `JST-9` or `CET-1CEST,M3.5.0,M10.5.0/3`. -/
def read? (t : Octets) : Option Zone := do
  let (name, rest) ← readName? t
  let (west, rest) ← readSpan? rest
  let usual : Offset := ⟨name, -west⟩
  if rest.isEmpty then return ⟨usual, none⟩
  let (name, rest) ← readName? rest
  let (west', rest) := (readSpan? rest).getD (west - 3600, rest)
  let (start, stop) ← match rest with
    | [] => some usualSummer
    | ',' :: r => match Octets.fields ',' r with
      | [a, b] => match readYearTime? a, readYearTime? b with
        | some a, some b => some (a, b)
        | _, _ => none
      | _ => none
    | _ => none
  return ⟨usual, some ⟨⟨name, -west'⟩, start, stop⟩⟩

/-- The zone that an environment names; universal time with the start of the name if that is not
    known. -/
def ofText (t : Option Octets) : Zone :=
  match t with
  | none => universal
  | some t =>
    let t := if t.head? = some ':' then t.drop 1 else t
    if t.isEmpty then universal
    else (read? t).getD ⟨⟨((readName? t).map (·.1)).getD [], 0⟩, none⟩

end Zone

/-! ### Writing -/

namespace Moment

/-- The days of the week. -/
def dayNames : List String :=
  ["Sunday", "Monday", "Tuesday", "Wednesday", "Thursday", "Friday", "Saturday"]

/-- The months. -/
def monthNames : List String :=
  ["January", "February", "March", "April", "May", "June", "July", "August", "September", "October",
    "November", "December"]

/-- How a conversion is written. -/
structure Manner where
  pad : Option Char
  capital : Bool
  swapped : Bool
  width : Option Nat
  deriving Repr

/-- A number padded to a width, with zeros or blanks, or as the manner says. -/
def number (m : Manner) (usual : Char) (width : Nat) (n : Int) : Octets :=
  let width := (m.width).getD width
  let ds := Octets.ofNat n.natAbs
  let sign : Octets := if n < 0 then ['-'] else []
  match m.pad.getD usual with
  | '-' => sign ++ ds
  | '_' => Octets.padLeft width ' ' (sign ++ ds)
  | _ => sign ++ Octets.padLeft (width - sign.length) '0' ds

/-- A text padded to a width and recased as the manner says. -/
def text (m : Manner) (t : Octets) : Octets :=
  let t := if m.capital then t.map Char.toUpper else t
  match m.width with
  | some w => Octets.padLeft w (if m.pad = some '0' then '0' else ' ') t
  | none => t

/-- What a conversion gives of a moment; none if there is no such conversion. -/
def convert (zone : Offset) (nanos : Int) (c : Civil) (m : Manner) (letter : Char) :
    Option Octets :=
  let seconds := Int.fdiv nanos 1000000000
  let name (names : List String) (i : Int) (short : Bool) : Octets :=
    let t := (names.getD i.toNat "").toList
    let t := text { m with width := none } (if short then t.take 3 else t)
    text { m with capital := m.capital || m.swapped } t
  let hour12 := if c.hour % 12 = 0 then 12 else c.hour % 12
  let two := number m '0' 2
  let plainTwo := number ⟨none, false, false, none⟩ '0' 2
  let whole (t : Octets) : Option Octets := some (text m t)
  let clock := plainTwo c.hour ++ ':' :: plainTwo c.minute ++ ':' :: plainTwo c.second
  let year := number ⟨none, false, false, none⟩ '0' 4 c.year
  let half : Octets := if c.hour < 12 then ['A', 'M'] else ['P', 'M']
  match letter with
  | '%' => some ['%']
  | 'n' => some ['\n']
  | 't' => some ['\t']
  | 'a' => some (name dayNames c.weekday true)
  | 'A' => some (name dayNames c.weekday false)
  | 'b' | 'h' => some (name monthNames (c.month - 1) true)
  | 'B' => some (name monthNames (c.month - 1) false)
  | 'c' => whole (((dayNames.getD c.weekday.toNat "").toList.take 3) ++ ' ' ::
      ((monthNames.getD (c.month - 1).toNat "").toList.take 3) ++ ' ' ::
      number ⟨some '_', false, false, none⟩ '_' 2 c.day ++ ' ' :: clock ++ ' ' :: year)
  | 'C' => some (number m '0' 2 (Int.fdiv c.year 100))
  | 'd' => some (two c.day)
  | 'D' | 'x' => whole (plainTwo c.month ++ '/' :: plainTwo c.day ++ '/' ::
      plainTwo (Int.fmod c.year 100))
  | 'e' => some (number m '_' 2 c.day)
  | 'F' =>
    let sign := if 9999 < c.year then ['+'] else []
    whole (sign ++ year ++ '-' :: plainTwo c.month ++ '-' :: plainTwo c.day)
  | 'g' => some (two (Int.fmod c.week.1 100))
  | 'G' => some (number m '0' 4 c.week.1)
  | 'H' => some (two c.hour)
  | 'I' => some (two hour12)
  | 'j' => some (number m '0' 3 (c.yearDay + 1))
  | 'k' => some (number m '_' 2 c.hour)
  | 'l' => some (number m '_' 2 hour12)
  | 'm' => some (two c.month)
  | 'M' => some (two c.minute)
  | 'N' =>
    let digits := Octets.padLeft 9 '0' (Octets.ofInt (Int.fmod nanos 1000000000))
    let kept := match m.width with
      | some w => (digits ++ List.replicate (w - 9) '0').take w
      | none => digits
    some (if m.pad = some '-' then (kept.reverse.dropWhile (· == '0')).reverse else kept)
  | 'p' => whole (if m.swapped then half.map Char.toLower else half)
  | 'P' => whole (half.map Char.toLower)
  | 'q' => some (number m '0' 1 ((c.month - 1) / 3 + 1))
  | 'r' => whole (plainTwo hour12 ++ ':' :: plainTwo c.minute ++ ':' :: plainTwo c.second ++
      ' ' :: half)
  | 'R' => whole (plainTwo c.hour ++ ':' :: plainTwo c.minute)
  | 's' => some (number m '0' 1 seconds)
  | 'S' => some (two c.second)
  | 'T' | 'X' => whole clock
  | 'u' => some (number m '0' 1 (if c.weekday = 0 then 7 else c.weekday))
  | 'U' => some (two ((c.yearDay + 7 - c.weekday) / 7))
  | 'V' => some (two c.week.2)
  | 'w' => some (number m '0' 1 c.weekday)
  | 'W' => some (two ((c.yearDay + 7 - Int.fmod (c.weekday + 6) 7) / 7))
  | 'y' => some (two (Int.fmod c.year 100))
  | 'Y' => some (number m '0' 4 c.year)
  | 'z' => whole (zone.shown [])
  | 'Z' => whole (if m.swapped then zone.name.map Char.toLower else zone.name)
  | _ => none

/-- Read flags and a width, in at most so many steps. -/
def readManner : Nat → Manner → Octets → Manner × Octets
  | 0, m, t => (m, t)
  | n + 1, m, t =>
    match t with
    | '_' :: r => readManner n { m with pad := some '_' } r
    | '-' :: r => readManner n { m with pad := some '-' } r
    | '0' :: r => readManner n { m with pad := some '0' } r
    | '^' :: r => readManner n { m with capital := true } r
    | '#' :: r => readManner n { m with swapped := true } r
    | t =>
      let ds := t.takeWhile Char.isDigit
      ({ m with width := Octets.nat? ds }, t.drop ds.length)

/-- Write a moment by a format, in at most so many steps; what was written is in reverse order. -/
def formatFrom (zone : Offset) (nanos : Int) (c : Civil) : Nat → Octets → Octets → Octets
  | 0, done, _ => done.reverse
  | _ + 1, done, [] => done.reverse
  | n + 1, done, '%' :: t =>
    let (m, r) := readManner t.length ⟨none, false, false, none⟩ t
    let r := match r with
      | 'E' :: r => r
      | 'O' :: r => r
      | r => r
    match r with
    | ':' :: 'z' :: rest => formatFrom zone nanos c n ((zone.shown [':']).reverse ++ done) rest
    | ':' :: ':' :: 'z' :: rest =>
      formatFrom zone nanos c n ((zone.shown [':'] ++ ":00".toList).reverse ++ done) rest
    | letter :: rest =>
      match convert zone nanos c m letter with
      | some u => formatFrom zone nanos c n (u.reverse ++ done) rest
      | none => formatFrom zone nanos c n ('%' :: done) t
    | [] => formatFrom zone nanos c n ('%' :: done) t
  | n + 1, done, c' :: t => formatFrom zone nanos c n (c' :: done) t

/-- Write a moment, in nanoseconds since 1970, by a format. -/
def format (zone : Zone) (nanos : Int) (f : Octets) : Octets :=
  let seconds := Int.fdiv nanos 1000000000
  let offset := zone.offsetAt seconds
  formatFrom offset nanos (Civil.ofSeconds (seconds + offset.east)) (f.length + 1) [] f

end Moment

end FenceSync.Shell
