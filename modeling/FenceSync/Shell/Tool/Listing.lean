import FenceSync.Shell.Calendar
import FenceSync.Shell.Tool.Order
import FenceSync.Shell.Tool.Remove

namespace FenceSync.Shell

/-!
# Listings

* `Entry` is what a listing shows of a node, and `ListingStyle` says how it is shown.
* `ListingStyle.table` arranges names in columns.
* `Tool.ls` lists files and the contents of directories.
-/

/-- What a listing shows of a node. -/
structure Entry where
  name : Octets
  place : Place
  node : Node
  mode : Nat
  time : Int
  /-- The number of its names. -/
  names : Nat
  deriving Repr

namespace Entry

/-- The letter in front of the permissions. -/
def typeLetter (n : Node) : Char :=
  match n with
  | .file _ => '-'
  | .dir => 'd'
  | .link _ => 'l'
  | _ => 'c'

/-- The size in octets. -/
def size (n : Node) : Nat :=
  match n with
  | .file content => content.length
  | .dir => 4096
  | .link t => Text.size t
  | _ => 0

/-- The room it takes, in units of 512 octets. -/
def blocks (n : Node) : Nat :=
  match n with
  | .file content => (content.length + 4095) / 4096 * 8
  | .dir => 8
  | _ => 0

/-- What is known of the node at a place. -/
def at' (name : Octets) (place : Place) (node : Node) : Prog Entry := do
  let mode ← Sys.modeOf place node
  let time ← Sys.timeOf place
  let names ← match node with
    | .dir => do
      let t ← Sys.tree
      pure (2 + (t.nodes.countP fun e => e.1.dropLast == place && e.2 == .dir))
    | _ => pure 1
  return ⟨name, place, node, mode, time, names⟩

/-- It is a directory. -/
def isDir (e : Entry) : Bool := e.node == .dir

end Entry

/-- How names are written. -/
inductive NameStyle where
  | literal
  /-- What cannot be seen is a question mark. -/
  | hidden
  /-- With escapes. -/
  | escaped
  /-- With escapes, in double quotes. -/
  | quoted
  /-- In quotes where a shell needs them. -/
  | shell
  deriving DecidableEq, Repr

/-- How entries are arranged. -/
inductive ListingForm where
  | lines
  | long
  | columns
  | rows
  | commas
  deriving DecidableEq, Repr

/-- How entries are ordered. -/
inductive ListingOrder where
  | name
  | time
  | size
  | ending
  | version
  | none
  deriving DecidableEq, Repr

/-- How a listing is made. -/
structure ListingStyle where
  form : ListingForm
  order : ListingOrder
  reverse : Bool
  /-- All names (`true`), or all but those of the directory itself and the one above. -/
  showsHidden : Option Bool
  names : NameStyle
  /-- Marks behind names: of directories, of links and the like, and of programs. -/
  marksDirs : Bool
  marksOthers : Bool
  marksPrograms : Bool
  dirsFirst : Bool
  showsBlocks : Bool
  showsNumbers : Bool
  human : Option Nat
  owner : Bool
  group : Bool
  numeric : Bool
  timeFormat : Option Octets
  width : Nat
  tab : Nat
  stop : Char
  follows : Bool
  zone : Zone

namespace ListingStyle

/-- A name as it is written. -/
def written (l : ListingStyle) (t : Octets) : Octets :=
  let escapes (blank quote : Bool) : Octets := t.flatMap fun c =>
    if c = '\\' then ['\\', '\\']
    else if c = '"' && quote then ['\\', '"']
    else if c = ' ' && blank then ['\\', ' ']
    else if Octets.isControl c then Names.controlEscape c
    else [c]
  match l.names with
  | .literal => t
  | .hidden => t.map fun c => if Octets.isControl c then '?' else c
  | .escaped => escapes true false
  | .quoted => '"' :: escapes false true ++ ['"']
  | .shell =>
    if t.all (fun c => c.isAlphanum || "%+,-./:=@_".toList.contains c || 0x80 ≤ c.toNat) &&
        !t.isEmpty then t else Names.quoted t

/-- The mark behind a name. -/
def mark (l : ListingStyle) (e : Entry) : Octets :=
  match e.node with
  | .dir => if l.marksDirs then ['/'] else []
  | .link _ => if l.marksOthers && l.form != .long then ['@'] else []
  | .file _ => if l.marksPrograms && e.mode &&& 0o111 != 0 then ['*'] else []
  | _ => []

/-- A size with a letter for its unit, rounded up. -/
def humanSize (base n : Nat) : Octets :=
  let rec go : Nat → Nat → List Char → Octets
    | 0, _, _ => Octets.ofNat n
    | f + 1, unit, letters =>
      match letters with
      | [] => Octets.ofNat n
      | c :: cs =>
        let tenths := (n * 10 + unit - 1) / unit
        if tenths < 100 then Octets.ofNat (tenths / 10) ++ '.' :: Octets.ofNat (tenths % 10) ++ [c]
        else
          let whole := (n + unit - 1) / unit
          if whole < base then Octets.ofNat whole ++ [c] else go f (unit * base) cs
  if n < base then Octets.ofNat n
  else go 10 base (if base = 1000 then "kMGTPEZY".toList else "KMGTPEZY".toList)

/-- A size as it is shown. -/
def size (l : ListingStyle) (n : Nat) : Octets :=
  match l.human with
  | some base => humanSize base n
  | none => Octets.ofNat n

/-- The room that an entry takes as it is shown. -/
def room (l : ListingStyle) (blocks : Nat) : Octets :=
  match l.human with
  | some base => humanSize base (blocks * 512)
  | none => Octets.ofNat (blocks / 2)

/-- The order of two entries. -/
def compareBy (l : ListingStyle) (a b : Entry) : Ordering :=
  let byName := compare a.name b.name
  match l.order with
  | .name => byName
  | .time => (compare b.time a.time).then byName
  | .size => (compare (Entry.size b.node) (Entry.size a.node)).then byName
  | .ending =>
    let ending (t : Octets) : Octets := if t.contains '.' then
      (t.reverse.takeWhile (· != '.')).reverse else []
    (compare (ending a.name) (ending b.name)).then byName
  | .version => (Version.compareNames a.name b.name).then byName
  | .none => .eq

/-- Entries in order. -/
def sorted (l : ListingStyle) (es : List Entry) : List Entry :=
  let es := es.mergeSort fun a b => SortOrder.turned l.reverse (l.compareBy a b) != .gt
  if l.dirsFirst then
    let (dirs, others) := es.partition Entry.isDir
    dirs ++ others
  else es

/-- When a node was changed, as it is shown: with the time of the day if that was not long ago. -/
def shownTime (l : ListingStyle) (now : Int) (e : Entry) : Octets :=
  match l.timeFormat with
  | some f => Moment.format l.zone e.time f
  | none =>
    let halfYear : Int := 31556952 / 2 * 1000000000
    let f := if now - halfYear < e.time ∧ e.time ≤ now then "%b %e %H:%M" else "%b %e  %Y"
    Moment.format l.zone e.time f.toList

/-- The pieces in front of names, brought to the same widths. -/
def aligned (rows : List (List (Bool × Octets))) : List Octets :=
  let count := (rows.map List.length).foldl max 0
  let widths := (List.range count).map fun i =>
    (rows.map fun r => ((r[i]?).map fun e => e.2.length).getD 0).foldl max 0
  rows.map fun r => (r.zip widths).flatMap fun ((left, t), w) =>
    (if left then Octets.padRight w t else Octets.padLeft w ' ' t) ++ [' ']

/-- The number by which a node is known. -/
def number (e : Entry) : Octets :=
  Octets.ofNat (131072 + (e.place.foldl (fun n t =>
    t.foldl (fun n c => (n * 31 + c.toNat) % 65521) (n * 7 + 1)) 5))

/-- What stands in front of names. -/
def fronts (l : ListingStyle) (now : Int) (es : List Entry) : List Octets :=
  let user := if l.numeric then ['0'] else "root".toList
  aligned (es.map fun e =>
    (if l.showsNumbers then [(false, number e)] else []) ++
    (if l.showsBlocks then [(false, l.room (Entry.blocks e.node))] else []) ++
    if l.form != .long then []
    else
      [(true, Entry.typeLetter e.node :: Permission.letters e.mode),
        (false, Octets.ofNat e.names)] ++
      (if l.owner then [(true, user)] else []) ++ (if l.group then [(true, user)] else []) ++
      [(false, l.size (Entry.size e.node)), (true, l.shownTime now e)])

/-- Blanks from one position of a line to another, with tabs where they are shorter. -/
def indent (tab : Nat) : Nat → Nat → Nat → Octets
  | 0, _, _ => []
  | n + 1, a, b =>
    if b ≤ a then []
    else if tab ≠ 0 ∧ (a + 1) / tab < b / tab then
      '\t' :: indent tab n (a + (tab - a % tab)) b
    else ' ' :: indent tab n (a + 1) b

/-- The widths of so many columns, if the names fit. -/
def columnWidths? (l : ListingStyle) (lengths : List Nat) (columns : Nat) : Option (List Nat) :=
  let n := lengths.length
  let rows := (n + columns - 1) / columns
  let columnOf (i : Nat) : Nat := if l.form = .columns then i / rows else i % columns
  let widths := (List.range columns).map fun c =>
    (lengths.zipIdx.filterMap fun (k, i) =>
      if columnOf i = c then some (k + if c + 1 = columns then 0 else 2) else none).foldl max 3
  if widths.foldl (· + ·) 0 < l.width then some widths else none

/-- Names in columns. -/
def table (l : ListingStyle) (names : List Octets) : Octets :=
  let lengths := names.map fun t => (Octets.toText t).length
  let n := names.length
  let most := min n (max 1 ((l.width + 2) / 3))
  let widths := ((List.range most).map (most - ·)).findSome? fun c =>
    if c ≤ 1 then some [0] else l.columnWidths? lengths c
  let widths := widths.getD [0]
  let columns := widths.length
  let rows := (n + columns - 1) / columns
  let line (r : Nat) : Octets :=
    let cells := (List.range columns).filterMap fun c =>
      let i := if l.form = .columns then c * rows + r else r * columns + c
      (names[i]?).map fun t => (t, lengths.getD i 0, widths.getD c 0)
    let rec go : Nat → List (Octets × Nat × Nat) → Octets
      | _, [] => []
      | _, [(t, _, _)] => t
      | pos, (t, k, w) :: rest =>
        t ++ indent l.tab (w + 1) (pos + k) (pos + w) ++ go (pos + w) rest
    go 0 cells ++ [l.stop]
  (List.range rows).flatMap line

/-- Names with commas between them. -/
def series (l : ListingStyle) : Nat → Bool → List Octets → Octets
  | _, _, [] => [l.stop]
  | pos, first, t :: ts =>
    let k := (Octets.toText t).length
    if first then t ++ series l k false ts
    else if l.width = 0 ∨ pos + k + 2 < l.width then
      ',' :: ' ' :: t ++ series l (pos + 2 + k) false ts
    else ',' :: '\n' :: t ++ series l k false ts

/-- A listing of entries. -/
def listing (l : ListingStyle) (now : Int) (es : List Entry) : Octets :=
  let fronts := l.fronts now es
  let names := (es.zip fronts).map fun (e, front) =>
    let tail := match l.form, e.node with
      | .long, .link t => " -> ".toList ++ l.written (Octets.ofText t)
      | _, _ => []
    front ++ l.written e.name ++ l.mark e ++ tail
  if names.isEmpty then []
  else match l.form with
    | .lines | .long => names.flatMap fun t => t ++ [l.stop]
    | .columns | .rows => l.table names
    | .commas => l.series 0 true names

end ListingStyle

namespace Tool

/-- The format that the name of a style of times stands for. -/
def timeStyle? (t : Octets) : Option (Option Octets) :=
  match t with
  | '+' :: f => some (some f)
  | t => match Octets.toString t with
    | "full-iso" => some (some "%Y-%m-%d %H:%M:%S.%N %z".toList)
    | "long-iso" => some (some "%Y-%m-%d %H:%M".toList)
    | "iso" => some (some "%m-%d %H:%M".toList)
    | "locale" => some none
    | _ => none

/-- How options want a listing; none if a word is wrong. -/
def listingStyle? (s : Setting) (p : Parsed) (usual : ListingForm) (names : NameStyle) :
    Option ListingStyle := do
  let word (key : String) : String := Octets.toString ((p.value? key).getD [])
  let forms := ["1", "l", "C", "x", "m", "n", "g", "o", "full-time", "format", "zero"]
  let form ← match p.last? forms with
    | none => some usual
    | some "1" =>
      some (if ["l", "n", "g", "o", "full-time"].any p.has then .long else .lines)
    | some "zero" => some .lines
    | some "C" => some .columns
    | some "x" => some .rows
    | some "m" => some .commas
    | some "format" => match word "format" with
      | "long" | "verbose" => some ListingForm.long
      | "single-column" => some .lines
      | "vertical" => some .columns
      | "across" | "horizontal" => some .rows
      | "commas" => some .commas
      | _ => none
    | some _ => some .long
  let order ← match p.last? ["t", "S", "U", "X", "v", "f", "sort"] with
    | some "t" => some .time
    | some "S" => some .size
    | some "U" | some "f" => some .none
    | some "X" => some .ending
    | some "v" => some .version
    | some _ => match word "sort" with
      | "time" => some .time
      | "size" => some .size
      | "none" => some .none
      | "extension" => some .ending
      | "version" => some .version
      | "name" => some .name
      | _ => none
    | none => some (if (p.has "c" || p.has "u") && form != .long then ListingOrder.time else .name)
  let style ← match p.last? ["N", "q", "b", "Q", "quoting", "show-control"] with
    | some "N" | some "show-control" => some .literal
    | some "q" => some .hidden
    | some "b" => some .escaped
    | some "Q" => some .quoted
    | some _ => match word "quoting" with
      | "literal" => some NameStyle.literal
      | "c" => some .quoted
      | "escape" => some .escaped
      | "shell" | "shell-escape" | "shell-always" | "shell-escape-always" => some .shell
      | _ => none
    | none => some names
  let indicator ← match p.last? ["F", "p", "file-type", "indicator", "classify"] with
    | none => some ""
    | some "F" => some "classify"
    | some "classify" => some (if word "classify" = "never" || word "classify" = "auto" ||
        word "classify" = "tty" then "" else "classify")
    | some "p" => some "slash"
    | some "file-type" => some "file-type"
    | some _ => some (word "indicator")
  let timeFormat ← match p.last? ["full-time", "time-style"] with
    | some "full-time" => timeStyle? "full-iso".toList
    | some _ => timeStyle? ((p.value? "time-style").getD [])
    | none => some none
  let width ← match p.value? "w" with
    | some t => Octets.nat? t
    | none => some (((s.env.get? "COLUMNS".toList).bind Octets.nat?).getD 80)
  return {
    form, order, reverse := p.has "r"
    showsHidden := match p.last? ["a", "A", "f"] with
      | some "A" => some false
      | some _ => some true
      | none => none
    names := style
    marksDirs := indicator ≠ "" && indicator ≠ "none"
    marksOthers := indicator == "classify" || indicator == "file-type"
    marksPrograms := indicator == "classify"
    dirsFirst := p.has "dirs-first", showsBlocks := p.has "s", showsNumbers := p.has "i"
    human := match p.last? ["h", "si"] with
      | some "h" => some 1024
      | some _ => some 1000
      | none => none
    owner := !p.has "g", group := !(p.has "o" || p.has "G"), numeric := p.has "n"
    timeFormat, width := if width = 0 then 100000 else width
    tab := ((p.value? "T").bind Octets.nat?).getD 8
    stop := if p.has "zero" then '\x00' else '\n'
    follows := p.has "L", zone := Zone.ofText (s.env.get? "TZ".toList) }

/-- The entry for a path, or why there is none. -/
def entryAt (follows : Bool) (name path : Octets) : Prog (Except FileError Entry) := do
  match ← Sys.find? follows path with
  | .ok ⟨place, some n⟩ => return .ok (← Entry.at' name place n)
  | .ok ⟨_, none⟩ => return .error .notFound
  | .error e => return .error e

/-- The entry for an argument: links to directories are followed if `follows`, all links if
    `always`. -/
def argumentEntry (follows always : Bool) (path : Octets) : Prog (Except FileError Entry) := do
  match ← entryAt false path path with
  | .error e => return .error e
  | .ok e =>
    match e.node with
    | .link _ =>
      match ← entryAt true path path with
      | .ok f => return .ok (if always || (follows && f.isDir) then f else e)
      | .error f => return if always then .error f else .ok e
    | _ => return .ok e

/-- A name is left out of listings. -/
def isLeftOut (p : Parsed) (l : ListingStyle) (name : Octets) : Bool :=
  let fits (key : String) : Bool := (p.values key).any fun t =>
    Pattern.accepts false (Pattern.ofMarked false (Marked.of false t)) name
  (l.showsHidden.isNone && (name.head? == some '.' || fits "hide")) || fits "I" ||
    (p.has "B" && name.getLast? == some '~')

/-- The entries of a directory. -/
def entriesIn (p : Parsed) (l : ListingStyle) (place : Place) : Prog (List Entry) := do
  let mut found : List Entry := []
  if l.showsHidden = some true then
    found := [← Entry.at' ['.'] place .dir, ← Entry.at' ['.', '.'] place.dropLast .dir]
  for name in ← Sys.names place do
    if !isLeftOut p l name then
      let inside := place ++ [Octets.toText name]
      let t ← Sys.tree
      match t.node? inside with
      | some (.link target) =>
        let path := FileTree.pathOf inside
        match l.follows, t.follow? true path with
        | true, .ok ⟨q, some n⟩ => found := { ← Entry.at' name q n with name } :: found
        | _, _ => found := (← Entry.at' name inside (.link target)) :: found
      | some n => found := (← Entry.at' name inside n) :: found
      | none => pure ()
  return found.reverse

/-- List directories, at most so many, and those inside them if that is wanted. -/
def listDirs (s : Setting) (p : Parsed) (l : ListingStyle) (now : Int) (headed : Bool) :
    Nat → Bool → List (Octets × Place) → Bool → Prog Bool
  | 0, _, _, ok => return ok
  | _, _, [], ok => return ok
  | n + 1, first, (path, place) :: rest, ok => do
    let es := l.sorted (← entriesIn p l place)
    let gap := if first then [] else ['\n']
    let header := if headed then gap ++ l.written path ++ [':', '\n'] else []
    let total := if l.form = .long || l.showsBlocks then
        "total ".toList ++ l.room ((es.map fun e => Entry.blocks e.node).foldl (· + ·) 0) ++ ['\n']
      else []
    discard (Sys.print (header ++ total ++ l.listing now es))
    let inner := if !p.has "R" then [] else es.filterMap fun e =>
      if e.isDir && e.name ≠ ['.'] && e.name ≠ ['.', '.'] then some (Sys.under path e.name, e.place)
      else none
    listDirs s p l now headed n false (inner ++ rest) ok

/-- The options of `ls`. -/
def lsOptions : OptionSpec :=
  .of "aAbBcCdDfFgGhHiI:klLmnNopqQrRsStT:uUvw:xXZ1" [("all", "a"), ("almost-all", "A"),
    ("author", "author"), ("escape", "b"), ("block-size=", "block-size"), ("ignore-backups", "B"),
    ("color?", "color"), ("directory", "d"), ("dired", "D"), ("classify?", "classify"),
    ("file-type", "file-type"), ("format=", "format"), ("full-time", "full-time"),
    ("group-directories-first", "dirs-first"), ("no-group", "G"), ("human-readable", "h"),
    ("si", "si"), ("dereference-command-line", "H"),
    ("dereference-command-line-symlink-to-dir", "deref-dir"), ("hide=", "hide"),
    ("hyperlink?", "hyperlink"), ("indicator-style=", "indicator"), ("inode", "i"),
    ("ignore", "I"), ("kibibytes", "k"), ("dereference", "L"), ("numeric-uid-gid", "n"),
    ("literal", "N"), ("hide-control-chars", "q"), ("show-control-chars", "show-control"),
    ("quote-name", "Q"), ("quoting-style=", "quoting"), ("reverse", "r"), ("recursive", "R"),
    ("size", "s"), ("sort=", "sort"), ("time=", "time"), ("time-style=", "time-style"),
    ("tabsize", "T"), ("width", "w"), ("context", "Z"), ("zero", "zero")]

/-- List files and the contents of directories. -/
def listWith (usual : ListingForm) (names : NameStyle) : Tool :=
  withOptions lsOptions 2 fun s p => do
  match listingStyle? s p usual names with
  | none => s.fail 2 "invalid argument"
  | some l =>
    let now := (← Sys.tree).now
    let alone := p.has "d"
    let follows := p.has "deref-dir" || !(alone || l.marksOthers || l.form == .long)
    let mut files : List Entry := []
    let mut dirs : List (Octets × Place × Entry) := []
    let mut ok := true
    for path in if p.operands.isEmpty then [['.']] else p.operands do
      match ← argumentEntry follows (l.follows || p.has "H") path with
      | .error e =>
        s.complainOf path e
        ok := false
      | .ok e =>
        if e.isDir && !alone then dirs := dirs ++ [(path, e.place, e)] else files := files ++ [e]
    discard (Sys.print (l.listing now (l.sorted files)))
    let ordered := (l.sorted (dirs.map fun d => d.2.2)).map fun e => (e.name, e.place)
    let headed := 1 < p.operands.length || p.has "R"
    let fine ← listDirs s p l now headed 100000 files.isEmpty ordered true
    return if !ok then 2 else if fine then 0 else 1

/-- List files, one to a line. -/
def ls : Tool := listWith .lines .literal

/-- List files in columns. -/
def dir : Tool := listWith .columns .escaped

/-- List files with what is known of them. -/
def vdir : Tool := listWith .long .escaped

end Tool

end FenceSync.Shell
