import FenceSync.Shell.Calendar

namespace FenceSync.Shell

/-!
# What people write for a moment

A phrase such as `2024-01-31 10:00 UTC 2 days ago` is cut into tokens, and these are read item by
item: dates, times, zones, days of the week, and what is added.

* `TimePhrase.tokens` cuts.
* `TimePhrase.item?` reads one item.
* `TimePhrase.read?` gives the moment that a phrase stands for, seen from another one.
-/

namespace TimePhrase

/-! ### Tokens -/

/-- What an amount is counted in. -/
inductive TimeUnit where
  | year
  | month
  | day
  | second
  deriving DecidableEq, Repr

/-- A token. -/
inductive Token where
  /-- A number, which is negative or not if it has a sign, and how many digits it has. -/
  | number (sign : Option Bool) (value digits : Nat)
  /-- A number with a fraction, in nanoseconds. -/
  | decimal (sign : Option Bool) (value : Nat) (nanos : Int)
  | month (n : Int)
  | weekday (n : Int)
  | halfDay (isLate : Bool)
  /-- A zone with its seconds to the east; summer time is one hour more. -/
  | zone (east : Int)
  | localZone
  | summer
  /-- So many times a unit. -/
  | span (u : TimeUnit) (n : Int)
  | ordinal (n : Int)
  | shift (days : Int)
  /-- What was said before goes in a direction. -/
  | direction (n : Int)
  /-- The letter between date and time, which is also a zone. -/
  | letter
  | mark (c : Char)
  deriving DecidableEq, Repr

/-- Zones with their hours to the east, in minutes. -/
def zones : List (String × Int) := [
  ("gmt", 0), ("ut", 0), ("utc", 0), ("wet", 0), ("west", 60), ("bst", 60), ("art", -180),
  ("brt", -180), ("brst", -120), ("nst", -210), ("ndt", -150), ("ast", -240), ("adt", -180),
  ("clt", -240), ("clst", -180), ("est", -300), ("edt", -240), ("cst", -360), ("cdt", -300),
  ("mst", -420), ("mdt", -360), ("pst", -480), ("pdt", -420), ("akst", -540), ("akdt", -480),
  ("hst", -600), ("hast", -600), ("hadt", -540), ("sst", -720), ("wat", 60), ("cet", 60),
  ("cest", 120), ("met", 60), ("mez", 60), ("mest", 120), ("mesz", 120), ("eet", 120),
  ("eest", 180), ("cat", 120), ("sast", 120), ("eat", 180), ("msk", 180), ("msd", 240),
  ("ist", 330), ("sgt", 480), ("kst", 540), ("jst", 540), ("gst", 600), ("nzst", 720),
  ("nzdt", 780)]

/-- Units. -/
def units : List (String × Token) := [
  ("year", .span .year 1), ("month", .span .month 1), ("fortnight", .span .day 14),
  ("week", .span .day 7), ("day", .span .day 1), ("hour", .span .second 3600),
  ("minute", .span .second 60), ("min", .span .second 60), ("second", .span .second 1),
  ("sec", .span .second 1)]

/-- Words that tell an amount or a direction. -/
def relations : List (String × Token) := [
  ("tomorrow", .shift 1), ("yesterday", .shift (-1)), ("today", .shift 0), ("now", .shift 0),
  ("last", .ordinal (-1)), ("this", .ordinal 0), ("next", .ordinal 1), ("first", .ordinal 1),
  ("third", .ordinal 3), ("fourth", .ordinal 4), ("fifth", .ordinal 5), ("sixth", .ordinal 6),
  ("seventh", .ordinal 7), ("eighth", .ordinal 8), ("ninth", .ordinal 9), ("tenth", .ordinal 10),
  ("eleventh", .ordinal 11), ("twelfth", .ordinal 12), ("ago", .direction (-1)),
  ("hence", .direction 1)]

/-- The zone of a letter. -/
def letterZone? (c : Char) : Option Token :=
  if c = 't' then some .letter
  else if c = 'j' then none
  else if 'a' ≤ c ∧ c ≤ 'i' then some (.zone (3600 * (c.toNat - 96 : Nat)))
  else if 'k' ≤ c ∧ c ≤ 'm' then some (.zone (3600 * (c.toNat - 97 : Nat)))
  else if 'n' ≤ c ∧ c ≤ 'y' then some (.zone (-3600 * (c.toNat - 109 : Nat)))
  else if c = 'z' then some (.zone 0)
  else none

/-- The place of a name among others, of which three letters are enough. -/
def nameIndex? (names : List String) (w : Octets) : Option Int :=
  let short := w.length = 3 ∨ (w.length = 4 ∧ w[3]? = some '.')
  (names.findIdx? fun s =>
    let t := s.toList.map Char.toLower
    if short then t.take 3 == w.take 3 else t == w).map fun n => (n : Int)

/-- The token of a word in small letters, where a zone may have two names. -/
def word? (zone : Zone) (w : Octets) : Option Token :=
  let name := Octets.toString w
  let small (t : Octets) : Octets := t.map Char.toLower
  let zoneNamed? (name : String) : Option Token := (zones.lookup name).map fun m => .zone (m * 60)
  let extraDays : List (String × Int) :=
    [("tues", 2), ("wednes", 3), ("thur", 4), ("thurs", 4)]
  if name = "am" || name = "a.m." then some (.halfDay false)
  else if name = "pm" || name = "p.m." then some (.halfDay true)
  else match nameIndex? Moment.monthNames w with
  | some n => some (.month (n + 1))
  | none =>
  if name = "sept" then some (.month 9)
  else match (nameIndex? Moment.dayNames w).or (extraDays.lookup name) with
  | some n => some (.weekday n)
  | none =>
  if ["gmt", "ut", "utc"].contains name then some (.zone 0)
  else if small zone.usual.name = w then some .localZone
  else match (zone.summer).map fun s => small s.offset.name == w with
  | some true => some (.zone (((zone.summer).map (·.offset.east)).getD 0))
  | _ =>
  let single := if w.getLast? = some 's' then Octets.toString w.dropLast else name
  let plain := (zoneNamed? name).or ((units.lookup name).or ((units.lookup single).or
    (relations.lookup name)))
  if name = "dst" then some .summer
  else plain.or <| match w with
    | [c] => letterZone? c
    | w => zoneNamed? (Octets.toString (w.filter (· != '.')))

/-- A fraction of a second in nanoseconds. -/
def fraction (t : Octets) : Int :=
  (((Octets.nat? ((t ++ List.replicate 9 '0').take 9)).getD 0 : Nat) : Int)

/-- Pass over a comment in parentheses, which can nest. -/
def skipComment : Nat → Octets → Octets
  | _, [] => []
  | depth, c :: t =>
    if c = '(' then skipComment (depth + 1) t
    else if c = ')' then if depth ≤ 1 then t else skipComment (depth - 1) t
    else skipComment depth t

/-- Signs and the blanks behind each: the last sign, and what follows. -/
def readSigns : Option Bool → Octets → Option Bool × Octets
  | sign, [] => (sign, [])
  | sign, c :: t =>
    if c = '-' then readSigns (some true) t
    else if c = '+' then readSigns (some false) t
    else if sign.isSome ∧ Octets.isSpace c then readSigns sign t
    else (sign, c :: t)

/-- The tokens of a phrase, in at most so many steps; none if there is a word without a meaning. -/
def tokensFrom (zone : Zone) : Nat → Octets → Option (List Token)
  | 0, _ => none
  | n + 1, t =>
    match t.dropWhile Octets.isSpace with
    | [] => some []
    | c :: r =>
      if c = '(' then tokensFrom zone n (skipComment 1 r)
      else if c = '+' ∨ c = '-' ∨ c.isDigit then
        let (sign, t) := readSigns none (c :: r)
        let ds := t.takeWhile Char.isDigit
        let rest := t.drop ds.length
        match Octets.nat? ds with
        -- a sign without digits counts for nothing
        | none => tokensFrom zone n t
        | some v =>
          match rest with
          | p :: f :: _ =>
            if (p = '.' ∨ p = ',') ∧ f.isDigit then
              let fs := (rest.drop 1).takeWhile Char.isDigit
              (tokensFrom zone n (rest.drop (fs.length + 1))).map
                (Token.decimal sign v (fraction fs) :: ·)
            else (tokensFrom zone n rest).map (Token.number sign v ds.length :: ·)
          | rest => (tokensFrom zone n rest).map (Token.number sign v ds.length :: ·)
      else if c.isAlpha then
        let w := (c :: r).takeWhile fun c => c.isAlpha || c == '.'
        match word? zone (w.map Char.toLower) with
        | some k => (tokensFrom zone n ((c :: r).drop w.length)).map (k :: ·)
        | none => none
      else (tokensFrom zone n r).map (Token.mark c :: ·)

/-- The tokens of a phrase. -/
def tokens (zone : Zone) (t : Octets) : Option (List Token) := tokensFrom zone (t.length + 1) t

/-! ### Items -/

/-- What was found in a phrase. -/
structure Draft where
  year : Option Int
  /-- The year was written with its digits. -/
  yearDigits : Nat
  monthDay : Option (Int × Int)
  /-- The hour, the minute, the nanoseconds, and the half of the day. -/
  time : Option (Nat × Nat × Int × Option Bool)
  /-- A day of the week, and which one. -/
  weekday : Option (Int × Int)
  /-- The zone; the own one is none. -/
  zone : Option (Option Int)
  years : Int
  months : Int
  days : Int
  nanos : Int
  /-- Something is to be added. -/
  relative : Bool
  deriving Repr

/-- Nothing. -/
def Draft.empty : Draft := ⟨none, 0, none, none, none, none, 0, 0, 0, 0, false⟩

/-- Add so many of a unit. -/
def Draft.add (d : Draft) (u : TimeUnit) (n : Int) : Draft :=
  let d := { d with relative := true }
  match u with
  | .year => { d with years := d.years + n }
  | .month => { d with months := d.months + n }
  | .day => { d with days := d.days + n }
  | .second => { d with nanos := d.nanos + n * 1000000000 }

/-- A date is given; there may be only one. -/
def Draft.setDate? (d : Draft) (year : Option (Int × Nat)) (month day : Int) : Option Draft :=
  if d.monthDay.isSome then none
  else
    let d := { d with monthDay := some (month, day) }
    match year with
    | some (y, digits) => some { d with year := some y, yearDigits := digits }
    | none => some d

/-- A time is given; there may be only one. -/
def Draft.setTime? (d : Draft) (hour minute : Nat) (nanos : Int) (half : Option Bool) :
    Option Draft :=
  if d.time.isSome then none else some { d with time := some (hour, minute, nanos, half) }

/-- A zone is given; there may be only one. -/
def Draft.setZone? (d : Draft) (east : Option Int) : Option Draft :=
  if d.zone.isSome then none else some { d with zone := some east }

/-- A day of the week is given; there may be only one. -/
def Draft.setWeekday? (d : Draft) (n ordinal : Int) : Option Draft :=
  if d.weekday.isSome then none else some { d with weekday := some (n, ordinal) }

/-- A number with a sign. -/
def signed (negative : Bool) (n : Nat) : Int := if negative then -(n : Int) else n

/-- A distance from universal time: hours, or hours and minutes as one number or with a colon, which
    may follow. -/
def readDistance? (negative : Bool) (value digits : Nat) (rest : List Token) :
    Option (Int × List Token) :=
  let (minutes, rest) : Int × List Token := match rest with
    | .mark ':' :: .number none m _ :: rest =>
      (signed negative (value * 60 + m), rest)
    | rest =>
      let v := if digits ≤ 2 then value * 100 else value
      (signed negative (v / 100 * 60 + v % 100), rest)
  if 24 * 60 < minutes.natAbs then none else some (minutes * 60, rest)

/-- What follows a time: a half of the day, or a distance from universal time. -/
def finishTime? (d : Draft) (hour minute : Nat) (nanos : Int) (rest : List Token) :
    Option (Draft × List Token) :=
  match rest with
  | .halfDay late :: rest => (d.setTime? hour minute nanos (some late)).map fun d => (d, rest)
  | .number (some negative) v k :: rest => do
    let (east, rest) ← readDistance? negative v k rest
    let d ← d.setTime? hour minute nanos none
    return (← d.setZone? (some east), rest)
  | rest => (d.setTime? hour minute nanos none).map fun d => (d, rest)

/-- A time that starts with hours and a colon. -/
def readTime? (d : Draft) (hour : Nat) (rest : List Token) : Option (Draft × List Token) :=
  match rest with
  | .number none m _ :: .mark ':' :: .number none s _ :: rest =>
    if s < 60 then finishTime? d hour m (s * 1000000000 : Nat) rest else none
  | .number none m _ :: .mark ':' :: .decimal none s f :: rest =>
    if s < 60 then finishTime? d hour m ((s * 1000000000 : Nat) + f) rest else none
  | .number none m _ :: rest => finishTime? d hour m 0 rest
  | _ => none

/-- A number that stands for itself: a year, a date in one number, or a time. -/
def readPlain? (d : Draft) (v digits : Nat) : Option Draft :=
  if d.monthDay.isSome && d.yearDigits = 0 && !d.relative && (d.time.isSome || 2 < digits) then
    some { d with year := some v, yearDigits := digits }
  else if 4 < digits then
    d.setDate? (some ((v / 10000 : Nat), digits - 4)) (v / 100 % 100 : Nat) (v % 100 : Nat)
  else if digits ≤ 2 then d.setTime? v 0 0 none
  else d.setTime? (v / 100) (v % 100) 0 none

/-- An amount of a unit, which may be turned to the other direction. -/
def addSpan (d : Draft) (u : TimeUnit) (n : Int) (rest : List Token) : Draft × List Token :=
  match rest with
  | .direction k :: rest => (d.add u (n * k), rest)
  | rest => (d.add u n, rest)

/-- What starts with a number without a sign. -/
def readNumber? (d : Draft) (v k : Nat) (rest : List Token) : Option (Draft × List Token) :=
  let year (n digits : Nat) : Option (Int × Nat) := some ((n : Int), digits)
  match rest with
  | .mark ':' :: rest => readTime? d v rest
  | .halfDay late :: rest => (d.setTime? v 0 0 (some late)).map fun d => (d, rest)
  | .mark '/' :: .number none b _ :: .mark '/' :: .number none c k' :: rest =>
    (if 4 ≤ k then d.setDate? (year v k) b c else d.setDate? (year c k') v b).map fun d => (d, rest)
  | .mark '/' :: .number none b _ :: rest => (d.setDate? none v b).map fun d => (d, rest)
  | .month m :: .number (some true) y k' :: rest =>
    (d.setDate? (year y k') m v).map fun d => (d, rest)
  | .month m :: .number none y k' :: rest => (d.setDate? (year y k') m v).map fun d => (d, rest)
  | .month m :: rest => (d.setDate? none m v).map fun d => (d, rest)
  | .weekday n :: rest => (d.setWeekday? n v).map fun d => (d, rest)
  | .span u n :: rest => some (addSpan d u (v * n) rest)
  | .number (some true) b _ :: .number (some true) c _ :: rest => do
    let d ← d.setDate? (year v k) b c
    match rest with
    | .letter :: .number none h _ :: .mark ':' :: rest => readTime? d h rest
    | .letter :: .number none h _ :: .number (some negative) z k' :: rest =>
      finishTime? d h 0 0 (.number (some negative) z k' :: rest)
    | .letter :: _ => none
    | rest => return (d, rest)
  | .number (some negative) b _ :: .span u n :: rest =>
    (readPlain? d v k).map fun d => addSpan d u (signed negative b * n) rest
  | .number (some negative) b k' :: rest =>
    finishTime? d v 0 0 (.number (some negative) b k' :: rest)
  | rest => (readPlain? d v k).map fun d => (d, rest)

/-- What follows a zone. -/
def finishZone? (d : Draft) (east : Int) (rest : List Token) : Option (Draft × List Token) :=
  match rest with
  | .number (some negative) v _ :: .span u n :: rest => do
    let d ← d.setZone? (some east)
    return addSpan d u (signed negative v * n) rest
  | .number (some negative) v k :: rest => do
    let (more, rest) ← readDistance? negative v k rest
    return (← d.setZone? (some (east + more)), rest)
  | .summer :: rest => (d.setZone? (some (east + 3600))).map fun d => (d, rest)
  | rest => (d.setZone? (some east)).map fun d => (d, rest)

/-- Read an item. -/
def item? (d : Draft) (ts : List Token) : Option (Draft × List Token) :=
  match ts with
  | .number none v k :: rest => readNumber? d v k rest
  | .number (some negative) v _ :: .span u n :: rest =>
    some (addSpan d u (signed negative v * n) rest)
  | .decimal sign v f :: .span .second 1 :: rest =>
    let nanos := (v * 1000000000 : Nat) + f
    let n := if sign = some true then -nanos else nanos
    let (n, rest) : Int × List Token := match rest with
      | .direction k :: rest => (n * k, rest)
      | rest => (n, rest)
    some ({ d with nanos := d.nanos + n, relative := true }, rest)
  | .span u n :: rest => some (addSpan d u n rest)
  | .ordinal v :: .span u n :: rest => some (addSpan d u (v * n) rest)
  | .ordinal v :: .weekday n :: rest => (d.setWeekday? n v).map fun d => (d, rest)
  | .weekday n :: .mark ',' :: rest => (d.setWeekday? n 0).map fun d => (d, rest)
  | .weekday n :: rest => (d.setWeekday? n 0).map fun d => (d, rest)
  | .shift n :: rest => some (d.add .day n, rest)
  | .month m :: .number (some true) day _ :: .number (some true) y k :: rest =>
    (d.setDate? (some ((y : Int), k)) m day).map fun d => (d, rest)
  | .month m :: .number none day _ :: .mark ',' :: .number none y k :: rest =>
    (d.setDate? (some ((y : Int), k)) m day).map fun d => (d, rest)
  | .month _ :: .number none _ _ :: .mark ',' :: _ => none
  | .month m :: .number none day _ :: rest => (d.setDate? none m day).map fun d => (d, rest)
  | .letter :: rest => finishZone? d (-7 * 3600) rest
  | .zone east :: rest => finishZone? d east rest
  | .localZone :: .summer :: rest => (d.setZone? none).map fun d => (d, rest)
  | .localZone :: rest => (d.setZone? none).map fun d => (d, rest)
  | _ => none

/-- Read items, at most so many. -/
def itemsFrom : Nat → Draft → List Token → Option Draft
  | _, d, [] => some d
  | 0, _, _ => none
  | n + 1, d, ts => match item? d ts with
    | some (d, rest) => itemsFrom n d rest
    | none => none

/-! ### Moments -/

/-- The hour of a day, of which a half may be told. -/
def hourOf? (hour : Nat) : Option Bool → Option Nat
  | none => if hour < 24 then some hour else none
  | some late =>
    if 1 ≤ hour ∧ hour ≤ 12 then some (hour % 12 + if late then 12 else 0) else none

/-- The moment that a draft stands for, seen from another one. -/
def Draft.moment? (d : Draft) (zone : Zone) (now : Int) : Option Int := do
  let nano : Int := 1000000000
  let seconds := Int.fdiv now nano
  let c := Civil.ofSeconds (seconds + (zone.offsetAt seconds).east)
  let year := match d.year with
    | some y => if d.yearDigits = 2 then (if y < 69 then y + 2000 else y + 1900) else y
    | none => c.year
  let (month, day) := d.monthDay.getD (c.month, c.day)
  -- a date has to be there
  let last := Civil.daysTo year (month + 1) 1 - Civil.daysTo year month 1
  if month < 1 ∨ 12 < month ∨ day < 1 ∨ last < day then none
  else
    let keepsTime := d.relative && d.monthDay.isNone && d.weekday.isNone
    let (hour, minute, nanos) ← match d.time with
      | some (h, m, ns, half) =>
        if m < 60 then (hourOf? h half).map fun h => ((h : Int), (m : Int), ns) else none
      | none =>
        if keepsTime then some (c.hour, c.minute, c.second * nano + Int.fmod now nano)
        else some (0, 0, 0)
    let date : Civil := ⟨year, month, day, 0, 0, 0⟩
    let toWeekday : Int := match d.weekday, d.monthDay with
      | some (n, ordinal), none =>
        Int.fmod (n - date.weekday) 7 +
          7 * (ordinal - if 0 < ordinal ∧ date.weekday ≠ n then 1 else 0)
      | _, _ => 0
    let days := Civil.daysTo (year + d.years) (month + d.months) (day + d.days + toWeekday)
    let shown := days * 86400 + hour * 3600 + minute * 60
    let start := match d.zone with
      | some (some east) => shown - east
      | _ => zone.toUniversal (shown + Int.fdiv nanos nano) - Int.fdiv nanos nano
    return start * nano + nanos + d.nanos

/-- A zone in front of a phrase, and the rest. -/
def cutZone (zone : Zone) (t : Octets) : Zone × Octets :=
  match t with
  | 'T' :: 'Z' :: '=' :: '"' :: r =>
    let name := r.takeWhile (· != '"')
    if name.length < r.length then (Zone.ofText (some name), r.drop (name.length + 1))
    else (zone, t)
  | t => (zone, t)

/-- The moment that a phrase stands for, seen from another one. -/
def read? (zone : Zone) (now : Int) (t : Octets) : Option Int :=
  let (zone, t) := cutZone zone (t.dropWhile Octets.isSpace)
  match t.dropWhile Octets.isSpace with
  | '@' :: r =>
    let (negative, r) := Octets.cutSign (r.dropWhile Octets.isSpace)
    let ds := r.takeWhile Char.isDigit
    let (f, rest) : Octets × Octets := match r.drop ds.length with
      | '.' :: r => (r.takeWhile Char.isDigit, r.dropWhile Char.isDigit)
      | r => ([], r)
    match Octets.nat? ds, rest.dropWhile Octets.isSpace with
    | some k, [] =>
      let nanos := (k : Int) * 1000000000 + fraction f
      some (if negative then -nanos else nanos)
    | _, _ => none
  | t => do
    let ts ← tokens zone t
    let d ← itemsFrom ts.length .empty ts
    d.moment? zone now

end TimePhrase

end FenceSync.Shell
