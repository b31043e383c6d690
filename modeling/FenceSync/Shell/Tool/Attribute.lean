import FenceSync.Shell.TimePhrase
import FenceSync.Shell.Tool.Listing
import FenceSync.Shell.Tool.Text

namespace FenceSync.Shell

/-!
# What is known of files

* `Tool.chmod` and `Tool.chown` change who may do what, and `Tool.touch` changes times.
* `Tool.stat` and `Tool.du` print what is known of files.
* `Tool.readlink` and `Tool.realpath` find out where paths lead.
* `Tool.truncate` changes the size of files.
-/

namespace Tool

/-- Paths below a directory, each with its place, the directory last or first. -/
def treeOf (dirsLast : Bool) : Nat → Octets → Place → Node → FileTree → List (Octets × Place × Node)
  | 0, path, place, n, _ => [(path, place, n)]
  | depth + 1, path, place, n, t =>
    match n with
    | .dir =>
      let inner := (t.names place).flatMap fun name =>
        match t.node? (place ++ [name]) with
        | some m =>
          treeOf dirsLast depth (Sys.under path (Octets.ofText name)) (place ++ [name]) m t
        | none => []
      if dirsLast then inner ++ [(path, place, n)] else (path, place, n) :: inner
    | n => [(path, place, n)]

/-! ### Permissions and owners -/

/-- Permissions as a number and in letters. -/
def shownMode (mode : Nat) : Octets :=
  Octets.padLeft 4 '0' (Nat.toDigits 8 mode) ++ " (".toList ++ Permission.letters mode ++ [')']

/-- Arguments of which one that starts with a dash is a mode. -/
def modeArgs (args : List Octets) : List Octets :=
  match args.findIdx? fun a => match a with
    | '-' :: c :: cs =>
      "rwxXstugo".toList.contains c && cs.all "rwxXstugo,=+-0".toList.contains
    | _ => false with
  | some i =>
    if (args.take i).all fun a => a.head? == some '-' && a.length ≤ 3 && a != ['-', '-'] then
      args.take i ++ "--surprising".toList :: args.drop i
    else args
  | none => args

/-- Change permissions. -/
def chmod : Tool := fun s args =>
  withOptions (OptionSpec.of "cfhRv" [("changes", "c"), ("recursive", "R"), ("silent", "f"),
    ("quiet", "f"), ("verbose", "v"), ("reference=", "reference"), ("surprising=", "surprising"),
    ("preserve-root", "preserve"), ("no-preserve-root", "nopreserve")]) 1 (fun s p => do
    let mask ← Sys.mask
    let (text, paths) : Option Octets × List Octets :=
      if p.has "reference" then (none, p.operands)
      else match p.value? "surprising" with
        | some m => (some m, p.operands)
        | none => (p.operands.head?, p.operands.drop 1)
    let reference ← match p.value? "reference" with
      | none => pure none
      | some r => do
        match ← Sys.node? true r with
        | some (place, n) => pure (some (← Sys.modeOf place n))
        | none => pure none
    let modeFor (isDir : Bool) (mask' old : Nat) : Option Nat :=
      match text with
      | some t => Permission.read? isDir mask' old t
      | none => reference
    if paths.isEmpty || (modeFor false mask 0).isNone then s.fail 1 "invalid mode"
    else forAll paths fun path => do
      match ← Sys.find? true path with
      | .error e => refuse s path e
      | .ok ⟨_, none⟩ => refuse s path .notFound
      | .ok ⟨place, some n⟩ =>
        let t ← Sys.tree
        let nodes := if p.has "R" then treeOf false 1000 path place n t else [(path, place, n)]
        let mut ok := true
        for (path, place, n) in nodes do
          match n with
          | .link _ => pure ()
          | n =>
            let old ← Sys.modeOf place n
            match modeFor (n == .dir) mask old with
            | none => ok := false
            | some new =>
              Sys.setMode place new
              if p.has "surprising" && (modeFor (n == .dir) 0 old).any fun m =>
                  Permission.without new m ≠ 0 then
                ok := (← refuse s path .permissionDenied)
              if p.has "v" || p.has "c" then
                if new ≠ old then
                  tell ("mode of ".toList ++ Names.quoted path ++ " changed from ".toList ++
                    shownMode old ++ " to ".toList ++ shownMode new)
                else if p.has "v" then
                  tell ("mode of ".toList ++ Names.quoted path ++ " retained as ".toList ++
                    shownMode old)
        return ok) s (modeArgs args)

/-- A user or group that is known. -/
def isKnownOwner (t : Octets) : Bool :=
  (Octets.fields ':' t).all fun n =>
    let digits := if n.head? = some '+' then n.drop 1 else n
    n.isEmpty || n == "root".toList || (Octets.nat? digits).isSome

/-- Give files to an owner. -/
def chown : Tool :=
  withOptions (OptionSpec.of "cfhHLPRv" [("changes", "c"), ("silent", "f"), ("quiet", "f"),
    ("no-dereference", "h"), ("dereference", "deref"), ("from=", "from"),
    ("reference=", "reference"), ("recursive", "R"), ("verbose", "v")]) 1 fun s p => do
  let (owner, paths) := if p.has "reference" then ([], p.operands)
    else (p.operands.headD [':'], p.operands.drop 1)
  if paths.isEmpty || !isKnownOwner owner then s.fail 1 "invalid user"
  else forAll paths fun path => do
    match ← Sys.find? (!p.has "h") path with
    | .error e => refuse s path e
    | .ok ⟨_, none⟩ => refuse s path .notFound
    | .ok ⟨_, some _⟩ =>
      if p.has "v" then
        tell ("ownership of ".toList ++ Names.quoted path ++ " retained as root".toList)
      return true

/-! ### Times -/

/-- A time such as `202401311200.30`, of which the first digits may be missing. -/
def stamp? (now : Int) (zone : Zone) (t : Octets) : Option Int :=
  let (digits, seconds) : Octets × Octets := match t.span (· != '.') with
    | (a, _ :: b) => (a, b)
    | (a, []) => (a, "00".toList)
  match Octets.nat? digits, Octets.nat? seconds with
  | some n, some sec =>
    let year : Option Int := match digits.length with
      | 8 =>
        let seconds := Int.fdiv now 1000000000
        some (Civil.ofSeconds (seconds + (zone.offsetAt seconds).east)).year
      | 10 => some (((if n / 100000000 < 69 then 2000 else 1900) + n / 100000000 : Nat) : Int)
      | 12 => some ((n / 100000000 : Nat) : Int)
      | _ => none
    match year with
    | none => none
    | some y =>
      let month := n / 1000000 % 100
      let day := n / 10000 % 100
      let hour := n / 100 % 100
      let minute := n % 100
      if month = 0 ∨ 12 < month ∨ day = 0 ∨ 31 < day ∨ 23 < hour ∨ 59 < minute ∨ 60 < sec ∨
          seconds.length ≠ 2 then none
      else
        let c : Civil := ⟨y, month, day, hour, minute, sec⟩
        some (zone.toUniversal c.toSeconds * 1000000000)
  | _, _ => none

/-- Set the times of files, which are made if need be. -/
def touch : Tool :=
  withOptions (OptionSpec.of "acd:fhmr:t:" [("no-create", "c"), ("date", "d"),
    ("no-dereference", "h"), ("reference", "r"), ("time=", "time")]) 1 fun s p => do
  let now := (← Sys.tree).now
  let zone := Zone.ofText (s.env.get? "TZ".toList)
  let reference ← match p.value? "r" with
    | none => pure none
    | some r => do
      match ← Sys.node? (!p.has "h") r with
      | some (place, _) => pure (some (some (← Sys.timeOf place)))
      | none => pure (some none)
  let base := (reference.bind id).getD now
  let time : Option (Option Int) := match p.value? "d", p.value? "t", reference with
    | some d, none, none | some d, none, some (some _) => (TimePhrase.read? zone base d).map some
    | none, some t, none => (stamp? now zone t).map some
    | none, none, some r => r.map some
    | none, none, none => some none
    | _, _, _ => none
  match time with
  | none => s.fail 1 "invalid date"
  | some time =>
    if p.operands.isEmpty then s.fail 1 "missing file operand"
    else forAll p.operands fun path => do
      if path = ['-'] then return true
      match ← Sys.find? (!p.has "h") path with
      | .error e => if p.has "c" && e == .notFound then return true else refuse s path e
      | .ok ⟨place, some _⟩ =>
        if !(p.has "a" && !p.has "m") then Sys.setTime place time
        return true
      | .ok ⟨place, none⟩ =>
        if p.has "c" || p.has "h" then return true
        else if path.getLast? = some '/' then refuse s path .notFound
        else
          Sys.create place (.file []) 0o666
          match time with
          | some t => Sys.setTime place (some t)
          | none => pure ()
          return true

/-! ### What is known -/

/-- What a letter of a format stands for. -/
def statPart (zone : Zone) (path : Octets) (e : Entry) (letter : Char) : Octets :=
  let special : Nat := match e.node with
    | .file _ => 0o100000
    | .dir => 0o040000
    | .link _ => 0o120000
    | _ => 0o020000
  let moment := Moment.format zone e.time "%Y-%m-%d %H:%M:%S.%N %z".toList
  match letter with
  | 'a' => Nat.toDigits 8 e.mode
  | 'A' => Entry.typeLetter e.node :: Permission.letters e.mode
  | 'b' => Octets.ofNat (Entry.blocks e.node)
  | 'B' => "512".toList
  | 'f' => Nat.toDigits 16 (special + e.mode)
  | 'F' => (kindName e.node).toList
  | 'g' | 'u' => ['0']
  | 'G' | 'U' => "root".toList
  | 'h' => Octets.ofNat e.names
  | 'i' => ListingStyle.number e
  | 'm' => ['/']
  | 'n' => path
  | 'N' => match e.node with
    | .link t => Names.quoted path ++ " -> ".toList ++ Names.quoted (Octets.ofText t)
    | _ => Names.quoted path
  | 'o' => "4096".toList
  | 's' => Octets.ofNat (Entry.size e.node)
  | 't' | 'T' | 'r' | 'R' => ['0']
  | 'w' => ['-']
  | 'W' => ['0']
  | 'x' | 'y' | 'z' => moment
  | 'X' | 'Y' | 'Z' => Octets.ofInt (Int.fdiv e.time 1000000000)
  | 'd' | 'D' => "64".toList
  | _ => ['?']

/-- Fill what is known of a node into a format, in at most so many steps; with `escapes`, those are
    read. -/
def statFormat (escapes : Bool) (zone : Zone) (path : Octets) (e : Entry) :
    Nat → Octets → Octets
  | 0, _ => []
  | _ + 1, [] => []
  | n + 1, '%' :: '%' :: t => '%' :: statFormat escapes zone path e n t
  | n + 1, '%' :: t =>
    let flags := t.takeWhile "-+ 0#'".toList.contains
    let r := t.drop flags.length
    let width := r.takeWhile Char.isDigit
    match r.drop width.length with
    | c :: rest =>
      if c = '.' then
        -- a precision cuts a text, or gives digits behind the point of a time
        let ds := rest.takeWhile Char.isDigit
        match rest.drop ds.length with
        | c :: rest =>
          let k := (Octets.nat? ds).getD 0
          let u := if "XYZ".toList.contains c then
              let ds := if ds.isEmpty then ['9'] else ds
              Moment.format zone e.time ("%s.%".toList ++ ds ++ ['N'])
            else (statPart zone path e c).take k
          u ++ statFormat escapes zone path e n rest
        | [] => []
      else
        let u := statPart zone path e c
        let w := (Octets.nat? width).getD 0
        let u := if flags.contains '#' && c == 'a' && u.head? != some '0' then '0' :: u else u
        (if flags.contains '-' then Octets.padRight w u
          else Octets.padLeft w (if flags.contains '0' then '0' else ' ') u) ++
          statFormat escapes zone path e n rest
    | [] => ['%']
  | n + 1, '\\' :: c :: t =>
    if escapes then
      let (u, rest) : Octets × Octets := match c with
        | 'n' => (['\n'], t)
        | 't' => (['\t'], t)
        | 'a' => (['\x07'], t)
        | 'b' => (['\x08'], t)
        | 'e' => (['\x1b'], t)
        | 'f' => (['\x0c'], t)
        | 'r' => (['\r'], t)
        | 'v' => (['\x0b'], t)
        | '"' => (['"'], t)
        | '\\' => (['\\'], t)
        | c =>
          let ds := ((c :: t).take 3).takeWhile fun d => '0' ≤ d && d ≤ '7'
          match Octets.natIn? 8 ds with
          | some k => ([Char.ofNat (k % 256)], (c :: t).drop ds.length)
          | none => (['\\', c], t)
      u ++ statFormat escapes zone path e n rest
    else '\\' :: statFormat escapes zone path e n (c :: t)
  | n + 1, c :: t => c :: statFormat escapes zone path e n t

/-- Print what is known of files. -/
def stat : Tool :=
  withOptions (OptionSpec.of "c:fLt" [("dereference", "L"), ("file-system", "f"), ("format", "c"),
    ("printf=", "printf"), ("terse", "t"), ("cached=", "cached")]) 1 fun s p => do
  let zone := Zone.ofText (s.env.get? "TZ".toList)
  let usual := "  File: %N\n  Size: %-10s\tBlocks: %-10b IO Block: %-6o %F\n" ++
    "Device: 0,64\tInode: " ++
    "%-11i Links: %h\nAccess: (%04a/%10A)  Uid: (    0/    root)   Gid: (    0/    root)\n" ++
    "Access: %x\nModify: %y\nChange: %z\n Birth: %w"
  let terse := "%n %s %b %f %u %g %D %i %h %t %T %X %Y %Z %W %o"
  if p.operands.isEmpty then s.fail 1 "missing operand"
  else forAll p.operands fun path => do
    match ← entryAt (p.has "L") path path with
    | .error e => refuse s path e
    | .ok e =>
      let (escapes, format) : Bool × Octets := match p.last? ["c", "printf"] with
        | some "c" => (false, (p.value? "c").getD [] ++ ['\n'])
        | some _ => (true, (p.value? "printf").getD [])
        | none => (false, (if p.has "t" then terse else usual).toList ++ ['\n'])
      Sys.print (statFormat escapes zone path e (format.length + 1) format)

/-- The room that a directory and what is in it takes, in octets or as files count. -/
def roomOf (apparent : Bool) (t : FileTree) (place : Place) (n : Node) : Nat :=
  ((treeOf true 1000 [] place n t).map fun e =>
    if apparent then Entry.size e.2.2 else Entry.blocks e.2.2 * 512).foldl (· + ·) 0

/-- Print the room that files take. -/
def du : Tool :=
  withOptions (OptionSpec.of "0abB:cd:DhHklLmPsSt:xX:" [("null", "0"), ("all", "a"),
    ("apparent-size", "apparent"), ("bytes", "b"), ("block-size", "B"), ("total", "c"),
    ("max-depth", "d"), ("human-readable", "h"), ("si", "si"), ("summarize", "s"),
    ("separate-dirs", "S"), ("one-file-system", "x"), ("exclude=", "exclude"), ("time?", "time"),
    ("dereference", "L")]) 1 fun s p => do
  let stop := if p.has "0" then '\x00' else '\n'
  let apparent := p.has "b" || p.has "apparent"
  let shown (n : Nat) : Octets :=
    match p.last? ["h", "si", "b", "k", "m", "B"] with
    | some "h" => ListingStyle.humanSize 1024 n
    | some "si" => ListingStyle.humanSize 1000 n
    | some "b" => Octets.ofNat n
    | some "m" => Octets.ofNat ((n + 1048575) / 1048576)
    | some "B" =>
      let unit := max 1 (((p.value? "B").bind sized?).getD 1024)
      Octets.ofNat ((n + unit - 1) / unit)
    | _ => Octets.ofNat ((n + 1023) / 1024)
  let line (n : Nat) (path : Octets) : Octets := shown n ++ '\t' :: path ++ [stop]
  let depth : Nat := if p.has "s" then 0 else ((p.value? "d").bind Octets.nat?).getD 1000
  let mut total := 0
  let mut ok := true
  for path in if p.operands.isEmpty then [['.']] else p.operands do
    match ← Sys.find? (p.has "L") path with
    | .ok ⟨place, some n⟩ =>
      let t ← Sys.tree
      for (inner, q, m) in treeOf true 1000 path place n t do
        let level := q.length - place.length
        if level ≤ depth && (m == .dir || p.has "a" || level = 0) then
          discard (Sys.print (line (roomOf apparent t q m) inner))
      total := total + roomOf apparent t place n
    | .ok ⟨_, none⟩ =>
      ok := (← refuse s path .notFound)
    | .error e => ok := (← refuse s path e)
  if p.has "c" then discard (Sys.print (line total "total".toList))
  return statusOf ok

/-! ### Where paths lead -/

/-- Whether the parts of a path have to be there: all, all but the last, or none. -/
inductive Presence where
  | all
  | front
  | none
  deriving DecidableEq, Repr

/-- The place that a path leads to, with links followed, given pieces that are left. -/
def settleFrom (t : FileTree) : Nat → Presence → Place → List Text → Option Place
  | 0, _, _, _ => none
  | _, _, place, [] => some place
  | n + 1, need, place, w :: ws =>
    if w = ['.'] then settleFrom t n need place ws
    else if w = ['.', '.'] then settleFrom t n need place.dropLast ws
    else
      let next := place ++ [w]
      match t.node? next with
      | some (.link target) =>
        settleFrom t n need (if target.head? = some '/' then [] else place)
          (FileTree.pieces target ++ ws)
      | some .dir => settleFrom t n need next ws
      | some _ => if ws.isEmpty || need = .none then settleFrom t n need next ws else none
      | none =>
        match need with
        | .all => none
        | .front => if ws.all (· == ['.']) then some next else none
        | .none => settleFrom t n need next ws

/-- The place that a path leads to. -/
def settle (need : Presence) (path : Octets) : Prog (Option Place) := do
  let start ← if path.head? = some '/' then pure [] else Sys.dir
  let t ← Sys.tree
  return if path.isEmpty then none
    else settleFrom t 10000 need start (FileTree.pieces (Octets.toText path))

/-- The place that a path spells, with no link followed. -/
def spelled (path : Octets) : Prog Place := do
  let start ← if path.head? = some '/' then pure [] else Sys.dir
  return (FileTree.pieces (Octets.toText path)).foldl (fun place w =>
    if w = ['.'] then place else if w = ['.', '.'] then place.dropLast else place ++ [w]) start

/-- Print where links lead. -/
def readlink : Tool :=
  withOptions (OptionSpec.of "efmnqsvz" [("canonicalize", "f"), ("canonicalize-existing", "e"),
    ("canonicalize-missing", "m"), ("no-newline", "n"), ("quiet", "q"), ("silent", "s"),
    ("verbose", "v"), ("zero", "z")]) 1 fun s p => do
  let stop : Octets := if p.has "n" && p.operands.length ≤ 1 then []
    else if p.has "z" then ['\x00'] else ['\n']
  if p.operands.isEmpty then s.fail 1 "missing operand"
  else forAll p.operands fun path => do
    let found ← match p.last? ["e", "f", "m"] with
      | none => do
        match ← Sys.node? false path with
        | some (_, .link t) => pure (some (Octets.ofText t))
        | _ => pure none
      | some key => do
        let need := if key = "e" then Presence.all else if key = "f" then .front else .none
        pure ((← settle need path).map Sys.placeText)
    match found with
    | some t => Sys.print (t ++ stop)
    | none => return false

/-- Print the paths of files without links. -/
def realpath : Tool :=
  withOptions (OptionSpec.of "eELmPqsz" [("canonicalize-existing", "e"), ("canonicalize", "E"),
    ("canonicalize-missing", "m"), ("logical", "L"), ("physical", "P"), ("quiet", "q"),
    ("strip", "s"), ("no-symlinks", "s"), ("zero", "z"), ("relative-to=", "to"),
    ("relative-base=", "base")]) 1 fun s p => do
  let need := match p.last? ["e", "m"] with
    | some "e" => Presence.all
    | some _ => .none
    | none => .front
  let place (path : Octets) : Prog (Option Place) := do
    if p.has "s" then return some (← spelled path) else settle need path
  let base ← match (p.value? "to").or (p.value? "base") with
    | none => pure (some none)
    | some b => do pure ((← place b).map some)
  match base with
  | none => s.fail 1 "no such directory"
  | some base =>
    if p.operands.isEmpty then s.fail 1 "missing operand"
    else forAll p.operands fun path => do
      match ← place path with
      | none => if p.has "q" then return false else refuse s path .notFound
      | some q =>
        let text : Octets := match base with
          | none => Sys.placeText q
          | some b =>
            if !p.has "to" && !b.isPrefixOf q then Sys.placeText q
            else
              let way := FileTree.wayBetween b q
              if way.isEmpty then ['.'] else Octets.join ['/'] (way.map Octets.ofText)
        Sys.print (text ++ [if p.has "z" then '\x00' else '\n'])

/-! ### Sizes -/

/-- The new size of a file that had a size. -/
def newSize? (t : Octets) (old : Nat) : Option Nat :=
  let number (u : Octets) : Option Nat := sized? u
  match t with
  | '+' :: u => (number u).map (old + ·)
  | '-' :: u => (number u).map (old - ·)
  | '<' :: u => (number u).map (min old)
  | '>' :: u => (number u).map (max old)
  | '/' :: u => (number u).bind fun n => if n = 0 then none else some (old / n * n)
  | '%' :: u => (number u).bind fun n => if n = 0 then none else some ((old + n - 1) / n * n)
  | u => number u

/-- Cut files, or put zeros behind them. -/
def truncate : Tool :=
  withOptions (OptionSpec.of "cor:s:" [("no-create", "c"), ("io-blocks", "o"), ("reference", "r"),
    ("size", "s")]) 1 fun s p => do
  let reference ← match p.value? "r" with
    | none => pure (some none)
    | some r => do
      match ← Sys.node? true r with
      | some (_, n) => pure (some (some (Entry.size n)))
      | none => pure none
  match reference with
  | none => s.fail 1 "no such file"
  | some reference =>
    let size (old : Nat) : Option Nat := match p.value? "s" with
      | some t => newSize? t (reference.getD old)
      | none => reference
    if p.operands.isEmpty || (size 0).isNone then s.fail 1 "missing operand"
    else forAll p.operands fun path => do
      let resized (content : Bytes) : Bytes :=
        let n := (size content.length).getD 0
        content.take n ++ List.replicate (n - content.length) 0
      match ← Sys.find? true path with
      | .error e => refuse s path e
      | .ok ⟨place, some (.file content)⟩ =>
        Sys.changeTree fun t => t.put place (.file (resized content))
        return true
      | .ok ⟨place, none⟩ =>
        if p.has "c" then return true
        else
          Sys.create place (.file (resized [])) 0o666
          return true
      | .ok ⟨_, some .dir⟩ => refuse s path .isDirectory
      | .ok ⟨_, some _⟩ => return true

/-- Overwrite files, and remove them if that is wanted. -/
def shred : Tool :=
  withOptions (OptionSpec.of "fn:s:uvxz" [("force", "f"), ("iterations", "n"), ("remove?", "u"),
    ("size", "s"), ("verbose", "v"), ("exact", "x"), ("zero", "z")]) 1 fun s p => do
  if p.operands.isEmpty then s.fail 1 "missing file operand"
  else forAll p.operands fun path => do
    match ← Sys.find? true path with
    | .ok ⟨place, some (.file content)⟩ =>
      if p.has "u" then Sys.remove place
      else Sys.changeTree fun t => t.put place (.file (content.map fun _ => 0))
      return true
    | .ok ⟨_, some _⟩ => refuse s path .isDirectory
    | .ok ⟨_, none⟩ => refuse s path .notFound
    | .error e => refuse s path e

/-- Nothing has to be written back. -/
def sync : Tool := withOptions (OptionSpec.of "df" [("data", "d"), ("file-system", "f")]) 1
    fun s p => do
  forAll p.operands fun path => do
    if ← Sys.existsAt path then return true else refuse s path .notFound

end Tool

end FenceSync.Shell
