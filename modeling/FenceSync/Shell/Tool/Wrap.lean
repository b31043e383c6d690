import FenceSync.Shell.Tool.Text

namespace FenceSync.Shell

/-!
# Programs that break lines and move tabs

* `Tool.fold` breaks long lines, and `Tool.fmt` fills paragraphs.
* `Tool.expand` and `Tool.unexpand` turn tabs into spaces and back.
-/

namespace Tool

/-! ### Breaking lines -/

/-- The column behind a character. -/
def columnAfter (bytes : Bool) (column : Nat) (c : Char) : Nat :=
  if bytes then column + 1
  else if c = '\x08' then column - 1
  else if c = '\r' then 0
  else if c = '\t' then (column / 8 + 1) * 8
  else column + 1

/-- Break a line that is too wide, in at most so many steps.  `current` is the part of the line that
    was not printed yet, and `done` what was, both in reverse order. -/
def foldFrom (bytes spaces : Bool) (width : Nat) :
    Nat → Octets → Octets → Nat → Octets → Octets
  | 0, done, current, _, t => (current ++ done).reverse ++ t
  | _ + 1, done, current, _, [] => (current ++ done).reverse
  | n + 1, done, current, column, c :: t =>
    if c = '\n' then foldFrom bytes spaces width n ('\n' :: current ++ done) [] 0 t
    else
      let next := columnAfter bytes column c
      if next ≤ width then foldFrom bytes spaces width n done (c :: current) next t
      else
        let tail := current.takeWhile fun d => !Octets.isBlank d
        if spaces && tail.length < current.length then
          -- the line is broken behind its last blank
          let column := tail.reverse.foldl (columnAfter bytes) 0
          let done := '\n' :: current.drop tail.length ++ done
          foldFrom bytes spaces width n done tail column (c :: t)
        else if current.isEmpty then foldFrom bytes spaces width n done [c] next t
        else foldFrom bytes spaces width n ('\n' :: current ++ done) [] 0 (c :: t)

/-- Arguments in which a number by itself is the width. -/
def widthArguments (args : List Octets) : List Octets :=
  args.flatMap fun a => match a with
    | '-' :: d :: ds => if (d :: ds).all Char.isDigit then [['-', 'w'], d :: ds] else [a]
    | a => [a]

/-- Break long lines. -/
def fold : Tool := fun s args =>
  withOptions (OptionSpec.of "bsw:" [("bytes", "b"), ("spaces", "s"), ("width", "w")]) 1
    (fun s p => do
      match (p.value? "w").map Octets.nat? |>.getD (some 80) with
      | none | some 0 => s.fail 1 "invalid number of columns"
      | some width =>
        let f := Filter.ofMap fun t =>
          foldFrom (p.has "b") (p.has "s") width (3 * t.length + 2) [] [] 0 t
        return statusOf (← f.overEach '\n' s () p.files)) s (widthArguments args)

/-! ### Tabs -/

/-- Where tab stops are: at columns, and then at multiples. -/
structure TabStops where
  columns : List Nat
  /-- The distance of further stops, if there are any. -/
  every : Option Nat
  /-- Further stops count from the last column. -/
  relative : Bool

namespace TabStops

/-- Read tab stops from the arguments of options. -/
def of? (given : List Octets) : Option TabStops :=
  let pieces := given.flatMap fun t =>
    (Text.splitOn [','] (t.map fun c => if Octets.isBlank c then ',' else c)).filter (· ≠ [])
  match pieces with
  | [] => some ⟨[], some 8, false⟩
  | [t] =>
    match t with
    | '/' :: r | '+' :: r => (Octets.nat? r).map fun n => ⟨[], some n, false⟩
    | t => (Octets.nat? t).bind fun n => if n = 0 then none else some ⟨[], some n, false⟩
  | ts =>
    let extra : Option (Char × Nat) := match ts.getLast? with
      | some ('/' :: r) => (Octets.nat? r).map fun n => ('/', n)
      | some ('+' :: r) => (Octets.nat? r).map fun n => ('+', n)
      | _ => none
    let plain := if extra.isSome then ts.dropLast else ts
    (plain.mapM Octets.nat?).bind fun ns =>
      if (ns.zip (ns.drop 1)).all (fun e => e.1 < e.2) && !ns.contains 0 then
        some ⟨ns, extra.map (·.2), extra.any fun e => e.1 == '+'⟩
      else none

/-- The stop behind a column; whether it is none of those that are given. -/
def next (s : TabStops) (column : Nat) : Option Nat :=
  match s.columns.find? fun n => column < n with
  | some n => some n
  | none => s.every.map fun w =>
    let start := if s.relative then s.columns.getLast?.getD 0 else 0
    start + ((column - start) / w + 1) * w

end TabStops

/-- Replace tabs by spaces; `leading` says that nothing but blanks came before. -/
def expandFrom (stops : TabStops) (onlyLeading : Bool) :
    Bool → Nat → Octets → Octets → Octets
  | _, _, done, [] => done.reverse
  | leading, column, done, c :: t =>
    if c = '\n' then expandFrom stops onlyLeading true 0 (c :: done) t
    else if c = '\t' ∧ (leading ∨ !onlyLeading) then
      let next := (stops.next column).getD (column + 1)
      expandFrom stops onlyLeading leading next (List.replicate (next - column) ' ' ++ done) t
    else
      let column := if c = '\x08' then column - 1 else column + 1
      expandFrom stops onlyLeading (leading && Octets.isBlank c) column (c :: done) t

/-- Arguments in which a list of numbers by itself gives tab stops. -/
def tabArguments (args : List Octets) : List Octets :=
  args.flatMap fun a => match a with
    | '-' :: d :: ds =>
      if d.isDigit && ds.all fun c => c.isDigit || c == ',' then [['-', 't'], d :: ds] else [a]
    | a => [a]

/-- Turn tabs into spaces. -/
def expand : Tool := fun s args =>
  withOptions (OptionSpec.of "it:" [("initial", "i"), ("tabs", "t")]) 1 (fun s p => do
    match TabStops.of? (p.values "t") with
    | none => s.fail 1 "invalid tab stops"
    | some stops =>
      (Filter.ofMap fun t => expandFrom stops (p.has "i") true 0 [] t).run '\n' s p.files ())
    s (tabArguments args)

/-- Where turning spaces into tabs stands. -/
structure UnexpandState where
  column : Nat
  /-- Blanks that may become a tab, in reverse order. -/
  pending : Octets
  /-- The first of them is a single blank in front of a tab stop. -/
  single : Bool
  afterBlank : Bool
  converts : Bool
  /-- What is printed, in reverse order. -/
  out : Octets

/-- Go on by a character. -/
def UnexpandState.step (stops : TabStops) (everywhere : Bool) (st : UnexpandState) (c : Char) :
    UnexpandState :=
  let put (st : UnexpandState) (c : Char) : UnexpandState :=
    -- print what was pending, and the character
    let pending := if 1 < st.pending.length && st.single then
      st.pending.dropLast ++ ['\t'] else st.pending
    { st with out := c :: pending ++ st.out, pending := [], single := false }
  if !st.converts then { st with out := c :: st.out }
  else if Octets.isBlank c then
    match stops.next st.column with
    | none => put { st with converts := false } c
    | some next =>
      let after (st : UnexpandState) (c : Char) : UnexpandState :=
        let kept := if st.single then st.pending.drop (st.pending.length - 1) else []
        { put { st with pending := kept } c with afterBlank := true }
      if c = '\t' then
        let pending := if st.pending.isEmpty then [] else st.pending.dropLast ++ ['\t']
        after { st with column := next, pending } c
      else
        let column := st.column + 1
        if st.afterBlank && column == next then
          after { st with column, pending := st.pending.dropLast ++ ['\t'] } '\t'
        else
          { st with
            column, pending := c :: st.pending, single := st.single || column == next
            afterBlank := true }
  else
    let column := if c = '\x08' then st.column - 1 else st.column + 1
    let st := put { st with column } c
    { st with afterBlank := false, converts := everywhere }

/-- Turn spaces of a line into tabs. -/
def unexpandLine (stops : TabStops) (everywhere : Bool) (t : Octets) : Octets :=
  let (line, stop) := cutEnd '\n' t
  let st := line.foldl (UnexpandState.step stops everywhere) ⟨0, [], false, true, true, []⟩
  let pending := if 1 < st.pending.length && st.single then
    st.pending.dropLast ++ ['\t'] else st.pending
  (pending ++ st.out).reverse ++ stop

/-- Turn spaces into tabs. -/
def unexpand : Tool := fun s args =>
  withOptions (OptionSpec.of "at:" [("all", "a"), ("tabs", "t"), ("first-only", "first-only")]) 1
    (fun s p => do
      match TabStops.of? (p.values "t") with
      | none => s.fail 1 "invalid tab stops"
      | some stops =>
        let everywhere := (p.has "a" || p.has "t") && !p.has "first-only"
        (Filter.ofMap (unexpandLine stops everywhere)).run '\n' s p.files ()) s (tabArguments args)

/-! ### Filling paragraphs -/

/-- A word of a paragraph. -/
structure FillWord where
  text : Octets
  /-- How many blanks follow. -/
  space : Nat
  opens : Bool
  /-- A full stop, or a mark like it, stands at the end. -/
  stops : Bool
  punctuated : Bool
  /-- The end of a sentence. -/
  final : Bool
  deriving Inhabited

/-- The best way to break a paragraph behind a word: its cost, the length of the first line, and the
    number of the word that starts the next line. -/
structure Break where
  cost : Int
  length : Nat
  next : Nat
  deriving Inhabited

/-- How paragraphs are filled. -/
structure FillStyle where
  width : Nat
  goal : Nat
  /-- The first line has an indentation of its own. -/
  crown : Bool
  tagged : Bool
  split : Bool
  uniform : Bool
  lead : Octets

namespace FillStyle

/-- The square of a multiple of ten. -/
def equiv (n : Int) : Int := n * n

/-- The cost of a line break behind a word, given the word before it and the one behind it. -/
def baseCost (ws : Array FillWord) (k : Nat) : Int :=
  let this := ws.getD k default
  let cost : Int := equiv 70
  let cost :=
    if 0 < k then
      let before := ws.getD (k - 1) default
      if before.stops then
        if before.final then cost - equiv 50 else cost + equiv 600
      else if before.punctuated then cost - equiv 40
      else if 1 < k && (ws.getD (k - 2) default).final then
        cost + equiv 200 / (before.text.length + 2)
      else cost
    else cost
  if this.opens then cost - equiv 40
  else if this.final then cost + equiv 150 / (this.text.length + 2)
  else cost

/-- The cost of a line of a length, in front of a word. -/
def lineCost (s : FillStyle) (breaks : Array Break) (count next len : Nat) : Int :=
  if next = count then 0
  else
    let n : Int := (s.goal : Int) - len
    let cost := equiv (n * 10)
    match breaks[next]? with
    | some b =>
      if b.next ≠ count then
        let n : Int := (len : Int) - b.length
        cost + equiv (n * 10) / 2
      else cost
    | none => cost

/-- Find the best end of a line that starts with a word, going through the words from `at'` on;
    `len` is the length of the line up to there. -/
def bestFrom (s : FillStyle) (ws : Array FillWord) (breaks : Array Break) :
    Nat → Nat → Nat → Option (Int × Nat × Nat) → Option (Int × Nat × Nat)
  | 0, _, _, best => best
  | fuel + 1, at', len, best =>
    -- the line ends behind the word before `at'`
    let cost := lineCost s breaks ws.size at' len + (breaks.getD at' default).cost
    let best := match best with
      | some (c, _, _) => if cost < c then some (cost, len, at') else best
      | none => some (cost, len, at')
    if at' = ws.size then best
    else
      let len := len + (ws.getD (at' - 1) default).space + (ws.getD at' default).text.length
      if s.width ≤ len then best else bestFrom s ws breaks fuel (at' + 1) len best

/-- The best breaks from every word on, from the last one to the first. -/
def breaksFrom (s : FillStyle) (ws : Array FillWord) (first other : Nat) :
    Nat → Array Break → Array Break
  | 0, breaks => breaks
  | k + 1, breaks =>
    let start := (if k = 0 then first else other) + (ws.getD k default).text.length
    match bestFrom s ws breaks (ws.size + 1) (k + 1) start none with
    | some (cost, length, next) =>
      breaksFrom s ws first other k (breaks.set! k ⟨cost + baseCost ws k, length, next⟩)
    | none => breaksFrom s ws first other k breaks

/-- The lines that words from one on are broken into, at most so many. -/
def linesFrom (ws : Array FillWord) (breaks : Array Break) : Nat → Nat → List Octets
  | 0, _ => []
  | fuel + 1, k =>
    if ws.size ≤ k then []
    else
      let next := (breaks.getD k default).next
      let next := if next ≤ k then ws.size else next
      let words := (ws.toList.drop k).take (next - k)
      let text := words.zipIdx.flatMap fun (w, i) =>
        w.text ++ if k + i + 1 = next then [] else List.replicate w.space ' '
      text :: linesFrom ws breaks fuel next

end FillStyle

/-- The words of a line, with the blanks behind them. -/
def fillWords (uniform : Bool) : Nat → Octets → List FillWord
  | 0, _ => []
  | n + 1, t =>
    let t := t.dropWhile Octets.isBlank
    if t.isEmpty then []
    else
      let word := t.takeWhile fun c => !Octets.isSpace c
      let rest := t.drop word.length
      let blanks := rest.takeWhile Octets.isBlank
      let closing := word.reverse.dropWhile fun c => ")]'\"".toList.contains c
      let stops := closing.head?.any fun c => ".?!".toList.contains c
      let last := rest.length = blanks.length
      let final := stops && (last || 1 < blanks.length)
      let space := if last || uniform then (if final then 2 else 1) else blanks.length
      let punctuated := word.getLast?.any Octets.isPunct
      let opens := word.head?.any fun c => "(['\x60\"".toList.contains c
      ⟨word, space, opens, stops, punctuated, final⟩ :: fillWords uniform n rest

/-- The column that a line starts at. -/
def indentOf (t : Octets) : Nat :=
  (t.takeWhile Octets.isBlank).foldl (columnAfter false) 0

/-- A paragraph with lines filled: its first line and the others have indentations.  Its last word
    ends a sentence. -/
def fillParagraph (s : FillStyle) (first other : Nat) (lines : List Octets) : Octets :=
  let ws := (lines.flatMap fun t => fillWords s.uniform (t.length + 1) t).toArray
  let ws := ws.modify (ws.size - 1) fun w => { w with stops := true, final := true }
  let start : Array Break := (Array.replicate (ws.size + 1) default).set! ws.size ⟨0, 0, ws.size⟩
  let breaks := s.breaksFrom ws first other ws.size start
  let filled := FillStyle.linesFrom ws breaks (ws.size + 1) 0
  filled.zipIdx.flatMap fun (t, k) =>
    s.lead ++ List.replicate (if k = 0 then first else other) ' ' ++ t ++ ['\n']

/-- Lines of a paragraph at the start of some lines: all that belong together.  The indentation of
    lines but the first is found too; that of the paragraph before is given. -/
def cutParagraph (s : FillStyle) (before : Nat) (first : Octets) (rest : List Octets) :
    List Octets × List Octets × Nat :=
  let isBlank (t : Octets) : Bool := t.all Octets.isSpace
  let indent := indentOf first
  -- lines behind a tag have to be told from it
  let alone := if s.crown || !s.tagged then indent else if before ≠ indent then before
    else if indent = 0 then 3 else 0
  if s.split then ([first], rest, indent)
  else if s.crown || s.tagged then
    match rest with
    | second :: _ =>
      if isBlank second || (!s.crown && indentOf second = indent) then ([first], rest, alone)
      else
        let other := indentOf second
        let more := rest.takeWhile fun t => !isBlank t && indentOf t == other
        (first :: more, rest.drop more.length, other)
    | [] => ([first], [], alone)
  else
    let more := rest.takeWhile fun t => !isBlank t && indentOf t == indent
    (first :: more, rest.drop more.length, indent)

/-- Fill all paragraphs of some lines, at most so many; the indentation in the one before is
    given. -/
def fillLines (s : FillStyle) : Nat → Nat → List Octets → Octets
  | 0, _, _ => []
  | _ + 1, _, [] => []
  | n + 1, before, t :: ts =>
    if t.all Octets.isSpace then '\n' :: fillLines s n before ts
    else
      let (paragraph, rest, other) := cutParagraph s before t ts
      fillParagraph s (indentOf t) other paragraph ++ fillLines s n other rest

/-- Fill paragraphs. -/
def fmt : Tool := fun s args =>
  withOptions (OptionSpec.of "cstuw:g:p:" [("crown-margin", "c"), ("split-only", "s"),
    ("tagged-paragraph", "t"), ("uniform-spacing", "u"), ("width", "w"), ("goal", "g"),
    ("prefix", "p")]) 1 (fun s p => do
    match (p.value? "w").map Octets.nat? |>.getD (some (match p.nat? "g" with
      | some g => g + 10
      | none => 75)) with
    | none => s.fail 1 "invalid width"
    | some width =>
      let goal := (p.nat? "g").getD (width * (2 * (100 - 7) + 1) / 200)
      let style : FillStyle := {
        width, goal, crown := p.has "c", tagged := p.has "t", split := p.has "s"
        uniform := p.has "u", lead := [] }
      let (found, ok) ← Input.contents s p.files
      for (_, t) in found do
        let lines := Octets.lines t
        discard (Sys.print (fillLines style (lines.length + 1) 0 lines))
      return statusOf ok) s (widthArguments args)

end Tool

end FenceSync.Shell
