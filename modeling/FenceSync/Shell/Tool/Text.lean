import FenceSync.Regex.Posix
import FenceSync.Shell.Tool.Basic

namespace FenceSync.Shell

/-!
# Programs that copy, number and count

* `Tool.cat`, `Tool.tac` and `Tool.tee` copy texts.
* `Tool.head` and `Tool.tail` print the start or the end of a text.
* `Tool.nl` numbers lines, and `Tool.wc` counts.
-/

/-- A number with a letter for its unit. -/
def sized? (t : Octets) : Option Nat :=
  let ds := t.takeWhile Char.isDigit
  let unit : Option Nat := match Octets.toString (t.drop ds.length) with
    | "" => some 1
    | "b" => some 512
    | "kB" | "KB" => some 1000
    | "k" | "K" | "KiB" => some 1024
    | "MB" => some 1000000
    | "m" | "M" | "MiB" => some 1048576
    | "GB" => some 1000000000
    | "G" | "GiB" => some 1073741824
    | "T" | "TiB" => some 1099511627776
    | _ => none
  match Octets.nat? ds, unit with
  | some n, some u => some (n * u)
  | _, _ => none

namespace Tool

/-! ### Copying -/

/-- An octet as text that can be shown: control characters behind a caret, others behind `M-`. -/
def shownOctet (tabs : Bool) (c : Char) : Octets :=
  let low (c : Char) : Octets :=
    if c.toNat < 0x20 then ['^', Char.ofNat (c.toNat + 64)]
    else if c.toNat = 0x7F then ['^', '?']
    else [c]
  if c = '\n' ∨ (c = '\t' ∧ !tabs) then [c]
  else if c.toNat < 0x80 then low c
  else 'M' :: '-' :: low (Char.ofNat (c.toNat - 128))

/-- What `cat` does to lines. -/
structure CatStyle where
  numbers : Bool
  numbersFilled : Bool
  squeezes : Bool
  ends : Bool
  tabs : Bool
  hidden : Bool

/-- Lines, numbered and made visible; the state is the last number, and whether an empty line came
    last. -/
def CatStyle.filter (c : CatStyle) : Filter (Nat × Bool) where
  step := fun (n, blank) t =>
    let isBlank := t == ['\n']
    if c.squeezes && blank && isBlank then ([], n, true)
    else
      let counted := if c.numbersFilled then !isBlank else c.numbers
      let n := if counted then n + 1 else n
      let front := if counted then Octets.padLeft 6 ' ' (Octets.ofNat n) ++ ['\t'] else []
      let (body, stop) := cutEnd '\n' t
      let shown := body.flatMap fun d =>
        if d = '\t' then if c.tabs then ['^', 'I'] else [d]
        else if c.hidden then shownOctet true d
        else [d]
      -- a carriage return is shown in front of the mark of an end
      let shown := if c.ends && !c.hidden && !stop.isEmpty && shown.getLast? == some '\r' then
        shown.dropLast ++ ['^', 'M'] else shown
      (front ++ shown ++ (if c.ends && !stop.isEmpty then ['$'] else []) ++ stop, n, isBlank)
  finish := fun _ => []

/-- Copy a descriptor, in at most so many blocks. -/
def copyBlocks (fd : Nat) : Nat → Prog Unit
  | 0 => pure ()
  | n + 1 => do
    match ← Sys.read fd Sys.blockSize with
    | .ok [] | .error _ => pure ()
    | .ok t => if ← Sys.print t then copyBlocks fd n else pure ()

/-- Complain that a file would be copied to itself. -/
def complainOfOutput (s : Setting) (path : Octets) : Prog Unit :=
  Sys.complainOf s.name path "input file is output file"

/-- Copy an open file; whether it could be read. -/
def copyOpen (s : Setting) (path : Octets) (fd : Nat) : Prog Bool := do
  if ← Input.isOutput fd then
    complainOfOutput s path
    return false
  else
    match ← Sys.read fd Sys.blockSize with
    | .error e =>
      s.complainOf path e
      return false
    | .ok t =>
      discard (Sys.print t)
      if !t.isEmpty then copyBlocks fd Filter.blockLimit
      return true

/-- Copy files one after the other; whether all could be read. -/
def copyAll (s : Setting) : List Octets → Bool → Prog Bool
  | [], ok => return ok
  | path :: rest, ok => do
    match ← Input.openAt path with
    | .error e =>
      s.complainOf path e
      copyAll s rest false
    | .ok fd =>
      let fine ← copyOpen s path fd
      Input.close fd
      copyAll s rest (ok && fine)

/-- Copy one more file with its lines numbered and made visible. -/
def CatStyle.copy (c : CatStyle) (s : Setting) (p : Filter.Progress (Nat × Bool))
    (path : Octets) : Prog (Filter.Progress (Nat × Bool)) := do
  let isOutput ← match ← Input.openAt path with
    | .error _ => pure false
    | .ok fd => do
      let isOutput ← Input.isOutput fd
      Input.close fd
      pure isOutput
  if isOutput then
    complainOfOutput s path
    return { p with ok := false }
  else
    let p ← c.filter.overFile '\n' s p path
    p.flush

/-- Print files one after the other. -/
def cat : Tool :=
  withOptions (OptionSpec.of "AbeEnstTuv" [("show-all", "A"), ("number-nonblank", "b"),
    ("show-ends", "E"), ("number", "n"), ("squeeze-blank", "s"), ("show-tabs", "T"),
    ("show-nonprinting", "v")]) 1 fun s p => do
  let any (keys : List String) : Bool := keys.any p.has
  let style : CatStyle := {
    numbers := p.has "n", numbersFilled := p.has "b", squeezes := p.has "s"
    ends := any ["E", "A", "e"], tabs := any ["T", "A", "t"], hidden := any ["v", "A", "e", "t"] }
  if any ["A", "b", "e", "E", "n", "s", "t", "T", "v"] then
    let done ← p.files.foldlM (style.copy s) (Filter.Progress.start (0, false))
    return statusOf (← (done.complete style.filter).flush).ok
  else return statusOf (← copyAll s p.files true)

/-- Records in reverse order; a separator stands behind each record, or before it. -/
def reversedRecords (sep : Octets) (before : Bool) (t : Octets) : Octets :=
  let pieces := Text.splitOn sep t
  if before then
    match pieces with
    | first :: rest => (rest.reverse.flatMap fun r => sep ++ r) ++ first
    | [] => []
  else
    match pieces.reverse with
    | last :: rest => last ++ rest.flatMap fun r => r ++ sep
    | [] => []

/-- Print records in reverse order. -/
def tac : Tool :=
  withOptions (OptionSpec.of "brs:" [("before", "b"), ("regex", "r"), ("separator", "s")]) 1
    fun s p => do
  let sep := (p.value? "s").getD ['\n']
  let sep := if sep.isEmpty then ['\x00'] else sep
  let (found, ok) ← Input.contents s p.files
  let written ← Sys.print (found.flatMap fun e => reversedRecords sep (p.has "b") e.2)
  return statusOf (ok && written)

/-- Write to several files what is read, in at most so many blocks. -/
def teeBlocks (fds : List Nat) : Nat → Prog Unit
  | 0 => pure ()
  | n + 1 => do
    match ← Sys.read 0 Sys.blockSize with
    | .ok [] | .error _ => pure ()
    | .ok t =>
      for fd in fds do
        discard (Sys.write fd t)
      teeBlocks fds n

/-- Copy the standard input to the standard output and to files. -/
def tee : Tool :=
  withOptions (OptionSpec.of "aip" [("append", "a"), ("ignore-interrupts", "i"),
    ("output-error?", "output-error")]) 1 fun s p => do
  let mut fds : List Nat := [1]
  let mut ok := true
  for path in p.operands do
    match ← Sys.openFile path (if p.has "a" then .append else .write) with
    | .ok fd => fds := fds ++ [fd]
    | .error e =>
      s.complainOf path e
      ok := false
  teeBlocks fds Filter.blockLimit
  return statusOf ok

/-! ### Starts and ends -/

/-- How much of a text is meant. -/
structure Portion where
  count : Nat
  /-- Octets, not records. -/
  octets : Bool
  /-- All but that much. -/
  allBut : Bool
  stop : Char

/-- The text up to the end of so many records; the text so far is in reverse order. -/
def takeRecords (stop : Char) : Nat → Octets → Octets → Octets
  | 0, done, _ => done.reverse
  | _, done, [] => done.reverse
  | n + 1, done, c :: t =>
    if c = stop then takeRecords stop n (c :: done) t else takeRecords stop (n + 1) (c :: done) t

/-- How many records a text has; an unfinished one counts. -/
def countRecords (stop : Char) (t : Octets) : Nat :=
  t.countP (· == stop) + if t.isEmpty || t.getLast? == some stop then 0 else 1

/-- Read as much as a portion needs, in at most so many blocks; blocks so far are in reverse order,
    with what they hold of the portion. -/
def readPortion (fd : Nat) (p : Portion) : Nat → Nat → List Octets → Prog (Except FileError Octets)
  | 0, _, done => return .ok done.reverse.flatten
  | n + 1, left, done => do
    if left = 0 && !p.allBut then return .ok done.reverse.flatten
    else
      match ← Sys.read fd (if p.octets && !p.allBut then min left Sys.blockSize else 8192) with
      | .error e => return if done.isEmpty then .error e else .ok done.reverse.flatten
      | .ok [] => return .ok done.reverse.flatten
      | .ok t =>
        if p.allBut then readPortion fd p n left (t :: done)
        else if p.octets then readPortion fd p n (left - t.length) (t :: done)
        else
          let count := t.countP (· == p.stop)
          if count < left then readPortion fd p n (left - count) (t :: done)
          else
            let taken := takeRecords p.stop left [] t
            Sys.giveBack fd (t.length - taken.length)
            return .ok (taken :: done).reverse.flatten

/-- The start of a text. -/
def startOf (p : Portion) (t : Octets) : Octets :=
  if !p.allBut then if p.octets then t.take p.count else takeRecords p.stop p.count [] t
  else if p.octets then t.take (t.length - p.count)
  else takeRecords p.stop (countRecords p.stop t - p.count) [] t

/-- The end of a text; with `allBut`, what starts at a record or octet, counted from one. -/
def endOf (p : Portion) (t : Octets) : Octets :=
  if p.allBut then
    if p.octets then t.drop (p.count - 1)
    else t.drop (takeRecords p.stop (p.count - 1) [] t).length
  else if p.octets then t.drop (t.length - p.count)
  else t.drop (takeRecords p.stop (countRecords p.stop t - p.count) [] t).length

/-- A line with the name of a file in front of what is printed of it. -/
def fileHeader (first : Bool) (path : Octets) : Octets :=
  let name := if path = ['-'] then "standard input".toList else path
  (if first then [] else ['\n']) ++ "==> ".toList ++ name ++ " <==\n".toList

/-- Arguments without the old way to give a number. -/
def modernised (args : List Octets) : List Octets :=
  match args with
  | ('-' :: d :: ds) :: rest =>
    if d.isDigit then
      let digits := (d :: ds).takeWhile Char.isDigit
      let letters := (d :: ds).drop digits.length
      let unit := letters.filter "bkm".toList.contains
      if letters.all "cbkmqvlnzf".toList.contains then
        let counts := letters.any fun c => c == 'c' || c == 'b' || c == 'k' || c == 'm'
        let flags := letters.filter fun c => c == 'q' || c == 'v' || c == 'z'
        let letter := if counts then 'c' else 'n'
        (flags.map fun c => ['-', c]) ++ [['-', letter], digits ++ unit] ++ rest
      else args
    else args
  | args => args

/-- Print portions of files, with headers if there are several. -/
def printPortions (s : Setting) (p : Parsed)
    (cut : Nat → Prog (Except FileError Octets)) : Prog Nat := do
  let files := p.files
  let headers := match p.last? ["q", "v"] with
    | some "q" => false
    | some _ => true
    | none => 1 < files.length
  let mut ok := true
  let mut first := true
  for path in files do
    match ← Input.openAt path with
    | .error e =>
      s.complainOf path e
      ok := false
    | .ok fd =>
      if headers then discard (Sys.print (fileHeader first path))
      first := false
      match ← cut fd with
      | .ok t => discard (Sys.print t)
      | .error e =>
        s.complainOf path e
        ok := false
      Input.close fd
  return statusOf ok

/-- Print the start of files. -/
def head : Tool := fun s args =>
  withOptions (OptionSpec.of "n:c:qvz" [("lines", "n"), ("bytes", "c"), ("quiet", "q"),
    ("silent", "q"), ("verbose", "v"), ("zero-terminated", "z")]) 1 (fun s p => do
    let octets := p.last? ["n", "c"] == some "c"
    let given := ((p.value? (if octets then "c" else "n")).getD "10".toList)
    let (allBut, digits) := match given with
      | '-' :: r => (true, r)
      | '+' :: r => (false, r)
      | r => (false, r)
    match sized? digits with
    | none => s.fail 1 "invalid number"
    | some count =>
      let portion : Portion := ⟨count, octets, allBut, if p.has "z" then '\x00' else '\n'⟩
      printPortions s p fun fd => do
        match ← readPortion fd portion Filter.blockLimit count [] with
        | .ok t => return .ok (startOf portion t)
        | .error e => return .error e) s (modernised args)

/-- Print the end of files. -/
def tail : Tool := fun s args =>
  let args := match args with
    | ('+' :: ds) :: rest =>
      if ds.all Char.isDigit && !ds.isEmpty && rest.length ≤ 1 then
        "-n".toList :: ('+' :: ds) :: rest
      else args
    | args => modernised args
  withOptions (OptionSpec.of "n:c:qvzfFs:" [("lines", "n"), ("bytes", "c"), ("quiet", "q"),
    ("silent", "q"), ("verbose", "v"), ("zero-terminated", "z"), ("follow?", "f"),
    ("retry", "retry"),
    ("pid=", "pid"), ("sleep-interval", "s")]) 1 (fun s p => do
    let octets := p.last? ["n", "c"] == some "c"
    let given := ((p.value? (if octets then "c" else "n")).getD "10".toList)
    let (fromStart, digits) := match given with
      | '+' :: r => (true, r)
      | '-' :: r => (false, r)
      | r => (false, r)
    match sized? digits with
    | none => s.fail 1 "invalid number"
    | some count =>
      let portion : Portion := ⟨count, octets, fromStart, if p.has "z" then '\x00' else '\n'⟩
      printPortions s p fun fd => do
        match ← Sys.readAll fd with
        | .ok t => return .ok (endOf portion t)
        | .error e => return .error e) s args

/-! ### Numbering -/

/-- Which lines are numbered. -/
inductive NumberStyle where
  | all
  | filled
  | none
  | matching (r : Regex)

/-- The style that an argument names. -/
def NumberStyle.of? (t : Octets) : Option NumberStyle :=
  match t with
  | ['a'] => some .all
  | ['t'] => some .filled
  | ['n'] => some .none
  | 'p' :: r => (Regex.basic? (Octets.toText r)).map .matching
  | _ => Option.none

/-- How lines are numbered. -/
structure Numbering where
  header : NumberStyle
  body : NumberStyle
  footer : NumberStyle
  delimiter : Octets
  first : Int
  step : Int
  /-- So many empty lines count as one. -/
  blanks : Nat
  format : Octets
  separator : Octets
  width : Nat
  /-- Numbers go on from page to page. -/
  goesOn : Bool

/-- Where numbering stands: the next number, the style of the current section, and how many empty
    lines came last. -/
structure NumberState where
  next : Int
  style : NumberStyle
  empty : Nat

/-- Number a line. -/
def Numbering.number (n : Numbering) (st : NumberState) (t : Octets) : Octets × NumberState :=
  let (line, _) := cutEnd '\n' t
  let d := n.delimiter
  let reset := if n.goesOn then st.next else n.first
  if !d.isEmpty && line = d ++ d ++ d then (['\n'], ⟨reset, n.header, 0⟩)
  else if !d.isEmpty && line = d ++ d then (['\n'], ⟨reset, n.body, 0⟩)
  else if !d.isEmpty && line = d then (['\n'], ⟨reset, n.footer, 0⟩)
  else
    let empty := if line.isEmpty then st.empty + 1 else 0
    let counted := match st.style with
      | .all => !line.isEmpty || n.blanks ≤ 1 || empty = n.blanks
      | .filled => !line.isEmpty
      | .none => false
      | .matching r => r.occursIn (Octets.toText line)
    let empty := if empty = n.blanks then 0 else empty
    if counted then
      let shown := Octets.ofInt st.next
      let number := match Octets.toString n.format with
        | "ln" => Octets.padRight n.width shown
        | "rz" =>
          if st.next < 0 then '-' :: Octets.padLeft (n.width - 1) '0' (shown.drop 1)
          else Octets.padLeft n.width '0' shown
        | _ => Octets.padLeft n.width ' ' shown
      (number ++ n.separator ++ line ++ ['\n'], { st with next := st.next + n.step, empty })
    else
      (List.replicate (n.width + n.separator.length) ' ' ++ line ++ ['\n'], { st with empty })

/-- Number the lines of files. -/
def nl : Tool :=
  withOptions (OptionSpec.of "b:d:f:h:i:l:n:ps:v:w:" [("body-numbering", "b"),
    ("section-delimiter", "d"), ("footer-numbering", "f"), ("header-numbering", "h"),
    ("line-increment", "i"), ("join-blank-lines", "l"), ("number-format", "n"),
    ("no-renumber", "p"),
    ("number-separator", "s"), ("starting-line-number", "v"), ("number-width", "w")]) 1
    fun s p => do
  let style (key : String) (usual : String) : Option NumberStyle :=
    NumberStyle.of? ((p.value? key).getD usual.toList)
  let number (key : String) (usual : Int) : Option Int :=
    match p.value? key with
    | some t => Octets.int? t
    | none => some usual
  match style "h" "n", style "b" "t", style "f" "n", number "v" 1, number "i" 1, number "l" 1,
      number "w" 6 with
  | some header, some body, some footer, some first, some step, some blanks, some width =>
    let d := (p.value? "d").getD "\\:".toList
    let n : Numbering := {
      header, body, footer, delimiter := if d.length = 1 then d ++ [':'] else d, first, step
      blanks := blanks.toNat, format := (p.value? "n").getD "rn".toList
      separator := (p.value? "s").getD ['\t'], width := width.toNat, goesOn := p.has "p" }
    let f : Filter NumberState := ⟨n.number, fun _ => []⟩
    return statusOf (← f.overEach '\n' s ⟨first, body, 0⟩ p.files)
  | _, _, _, _, _, _, _ => s.fail 1 "invalid argument"

/-! ### Counting -/

/-- What is counted of a text. -/
structure Counts where
  lines : Nat
  words : Nat
  chars : Nat
  bytes : Nat
  /-- The width of the longest line. -/
  longest : Nat
  deriving Repr

/-- A character takes two places when it is shown. -/
def isWide (c : Char) : Bool :=
  let n := c.toNat
  (0x1100 ≤ n && n ≤ 0x115F) || (0x2E80 ≤ n && n ≤ 0x303E) || (0x3041 ≤ n && n ≤ 0xA4CF) ||
    (0xAC00 ≤ n && n ≤ 0xD7A3) || (0xF900 ≤ n && n ≤ 0xFAFF) || (0xFE30 ≤ n && n ≤ 0xFE6F) ||
    (0xFF00 ≤ n && n ≤ 0xFF60) || (0xFFE0 ≤ n && n ≤ 0xFFE6) || (0x1F300 ≤ n && n ≤ 0x1F64F) ||
    (0x1F900 ≤ n && n ≤ 0x1F9FF) || (0x20000 ≤ n && n ≤ 0x3FFFD)

/-- The width of a line, with the position so far and the longest one. -/
def widthFrom : Nat → Nat → Text → Nat
  | at', longest, [] => max at' longest
  | at', longest, c :: t =>
    if c = '\n' ∨ c = '\r' ∨ c = '\x0c' then widthFrom 0 (max at' longest) t
    else if c = '\t' then widthFrom ((at' / 8 + 1) * 8) longest t
    else if c.toNat < 0x20 ∨ c.toNat = 0x7F then widthFrom at' longest t
    else widthFrom (at' + if isWide c then 2 else 1) longest t

/-- How many words a text has. -/
def countWords (t : Text) : Nat :=
  (t.foldl (fun (n, inside) c =>
    if isSpace c then (n, false) else if inside then (n, true) else (n + 1, true))
    ((0 : Nat), false)).1

/-- Count a text. -/
def Counts.of (t : Octets) : Counts :=
  let units := if t.all (·.toNat < 0x80) then t.map some else Utf8.units (Octets.toBytes t)
  let text := units.filterMap id
  ⟨t.countP (· == '\n'), countWords (units.map (·.getD '\uFFFD')), text.length, t.length,
    widthFrom 0 0 text⟩

/-- The counts of two texts together. -/
def Counts.add (a b : Counts) : Counts :=
  ⟨a.lines + b.lines, a.words + b.words, a.chars + b.chars, a.bytes + b.bytes,
    max a.longest b.longest⟩

/-- The size of a regular file, if a path leads to one. -/
def fileSize? (path : Octets) : Prog (Option Nat) := do
  if path = ['-'] then
    Prog.look fun pid k => (k.file? pid 0).bind fun o => (k.content? o.channel).map List.length
  else match ← Sys.node? true path with
    | some (_, .file content) => return some content.length
    | _ => return none

/-- Count lines, words and characters of files. -/
def wc : Tool :=
  withOptions (OptionSpec.of "clmwL" [("bytes", "c"), ("lines", "l"), ("chars", "m"),
    ("words", "w"),
    ("max-line-length", "L"), ("files0-from=", "files0"), ("total=", "total")]) 1 fun s p => do
  let usual := !(p.has "c" || p.has "l" || p.has "m" || p.has "w" || p.has "L")
  let columns : List (Counts → Nat) :=
    (if usual || p.has "l" then [Counts.lines] else []) ++
    (if usual || p.has "w" then [Counts.words] else []) ++
    (if p.has "m" then [Counts.chars] else []) ++
    (if usual || p.has "c" then [Counts.bytes] else []) ++
    (if p.has "L" then [Counts.longest] else [])
  let files := p.files
  let total := Octets.toString ((p.value? "total").getD "auto".toList)
  let mut width := 1
  if (1 < files.length || 1 < columns.length) && total != "only" then
    let mut sum := 0
    let mut least := 1
    for path in files do
      match ← fileSize? path with
      | some n => sum := sum + n
      | none => if path = ['-'] || (← Sys.existsAt path) then least := 7
    width := max least (Octets.ofNat sum).length
  let line (c : Counts) (name : Octets) : Octets :=
    Octets.join [' '] (columns.map fun f => Octets.padLeft width ' ' (Octets.ofNat (f c))) ++
      (if name.isEmpty then [] else ' ' :: name) ++ ['\n']
  let mut sum : Counts := ⟨0, 0, 0, 0, 0⟩
  let mut ok := true
  for path in files do
    match ← Input.content path with
    | .error e =>
      s.complainOf path e
      ok := false
      if e = .isDirectory && total != "only" then
        discard (Sys.print (line ⟨0, 0, 0, 0, 0⟩ path))
    | .ok t =>
      let c := Counts.of t
      sum := sum.add c
      if total != "only" then
        discard (Sys.print (line c (if p.operands.isEmpty then [] else path)))
  if total = "only" then discard (Sys.print (line sum []))
  else if total = "always" || (total = "auto" && 1 < files.length) then
    discard (Sys.print (line sum "total".toList))
  return statusOf ok

end Tool

end FenceSync.Shell
