import FenceSync.Regex.Posix
import FenceSync.Shell.Printf
import FenceSync.Shell.Tool.Text

namespace FenceSync.Shell

/-!
# Files in pieces

* `Tool.dd` copies blocks of a file.
* `Tool.split` cuts a file into pieces of the same size, and `Tool.csplit` at lines that fit.
-/

namespace Tool

/-! ### Blocks -/

/-- A number of octets, which may be a product such as `2x512`. -/
def blockSize? (t : Octets) : Option Nat :=
  (Octets.fields 'x' t).foldlM (fun n u =>
    let unit : Option Nat := match u.getLast? with
      | some 'c' => (Octets.nat? u.dropLast)
      | some 'w' => (Octets.nat? u.dropLast).map (2 * ·)
      | some 'B' =>
        if (u.dropLast.getLast?).any Char.isDigit then Octets.nat? u.dropLast else sized? u
      | _ => sized? u
    unit.map (n * ·)) 1

/-- The settings of `dd`, by name. -/
abbrev BlockSettings := Table String Octets

/-- Read the settings. -/
def blockSettings? (args : List Octets) : Option BlockSettings :=
  args.foldlM (fun (ss : BlockSettings) a =>
    let name := Octets.toString (a.takeWhile (· != '='))
    let known := ["if", "of", "bs", "ibs", "obs", "cbs", "count", "skip", "seek", "iseek", "oseek",
      "conv", "status", "iflag", "oflag"]
    if a.contains '=' && known.contains name then some (ss.set name (a.drop (name.length + 1)))
    else none) []

/-- Swap neighbours. -/
def swapped : Octets → Octets
  | a :: b :: t => b :: a :: swapped t
  | t => t

/-- Read up to so many blocks; the blocks are in reverse order, with how many were full. -/
def readBlocksOf (fd size : Nat) : Nat → List Octets → Prog (List Octets)
  | 0, done => return done
  | n + 1, done => do
    match ← Sys.read fd size with
    | .ok [] | .error _ => return done
    | .ok t => readBlocksOf fd size n (t :: done)

/-- A record of a fixed length for a line. -/
def toRecord (size : Nat) (line : Octets) : Octets := (Octets.padRight size line).take size

/-- What conversions make of blocks. -/
def convertBlocks (conv : List String) (size cbs : Nat) (blocks : List Octets) : Octets :=
  let blocks := if conv.contains "sync" then
      blocks.map fun t => t ++ List.replicate (size - t.length)
        (if conv.contains "block" || conv.contains "unblock" then ' ' else '\x00')
    else blocks
  let blocks := if conv.contains "swab" then blocks.map swapped else blocks
  let t := blocks.flatten
  let t := if conv.contains "ucase" then t.map Char.toUpper
    else if conv.contains "lcase" then t.map Char.toLower else t
  if conv.contains "block" && cbs ≠ 0 then (Octets.lines t).flatMap (toRecord cbs)
  else if conv.contains "unblock" && cbs ≠ 0 then
    (Octets.chunks cbs t).flatMap fun r => ((r.reverse.dropWhile (· == ' ')).reverse) ++ ['\n']
  else t

/-- Open what is read by `dd`, and pass over some octets. -/
def openSource (path : Option Octets) (skipped : Nat) : Prog (Except FileError Nat) := do
  match ← (match path with
    | none => pure (.ok 0)
    | some path => Sys.openFile path .read : Prog (Except FileError Nat)) with
  | .error e => return .error e
  | .ok fd =>
    if skipped = 0 then return .ok fd
    else match ← Sys.read fd skipped with
      | .ok _ => return .ok fd
      | .error e => return .error e

/-- See that a file to be written is there; what it holds so far. -/
def openTarget (path : Octets) (conv : List String) : Prog (Except FileError Octets) := do
  let there ← Sys.existsAt path
  if conv.contains "nocreat" && !there then return .error .notFound
  else if conv.contains "excl" && there then return .error .exists
  else match ← Sys.writeFile path .append [] with
    | .error e => return .error e
    | .ok () =>
      let isFile ← match ← Sys.node? true path with
        | some (_, .file _) => pure true
        | _ => pure false
      if !isFile then return .ok []
      else match ← Sys.readFile path with
        | .ok t => return .ok t
        | .error e => return .error e

/-- Write at a position of a file that held a text. -/
def writeAt (path old out : Octets) (at' : Nat) (keepsRest : Bool) : Prog Bool := do
  let front := (old ++ List.replicate (at' - old.length) '\x00').take at'
  let back := if keepsRest then old.drop (at' + out.length) else []
  match ← Sys.writeFile path .write (front ++ out ++ back) with
  | .ok () => return true
  | .error _ => return false

/-- Copy blocks of a file. -/
def dd : Tool := fun s args => do
  match blockSettings? args with
  | none => s.fail 1 "unrecognized operand"
  | some ss =>
    let number (names : List String) (usual : Option Nat) : Option (Option Nat) :=
      match names.findSome? ss.get? with
      | some t => (blockSize? t).map some
      | none => some usual
    let conv := (Octets.fields ',' ((ss.get? "conv").getD [])).map Octets.toString
    let known := ["", "ascii", "ebcdic", "ibm", "block", "unblock", "lcase", "ucase", "sparse",
      "swab", "sync", "excl", "nocreat", "notrunc", "noerror", "fdatasync", "fsync"]
    match number ["bs", "ibs"] (some 512), number ["bs", "obs"] (some 512), number ["count"] none,
        number ["skip", "iseek"] (some 0), number ["seek", "oseek"] (some 0),
        number ["cbs"] (some 0) with
    | some (some ibs), some (some obs), some count, some (some skip), some (some seek),
        some (some cbs) =>
      if ibs = 0 || obs = 0 || !conv.all known.contains then s.fail 1 "invalid number"
      else
        let flags := (Octets.fields ',' ((ss.get? "iflag").getD [])).map Octets.toString
        let skipped := if flags.contains "skip_bytes" then skip else skip * ibs
        match ← openSource (ss.get? "if") skipped with
        | .error e =>
          s.complainOf ((ss.get? "if").getD []) e
          return 1
        | .ok fd =>
          let limit := (count.map fun c =>
            if flags.contains "count_bytes" then (c + ibs - 1) / ibs else c).getD 1000000
          let target ← match ss.get? "of" with
            | none => pure none
            | some path => do pure (some (path, ← openTarget path conv))
          match target with
          | some (path, .error e) =>
            s.complainOf path e
            return 1
          | target =>
            let blocks := (← readBlocksOf fd ibs limit []).reverse
            let blocks := if flags.contains "count_bytes" then
              [(blocks.flatten).take (count.getD 0)] else blocks
            let out := convertBlocks conv ibs cbs blocks
            let ok ← match target with
              | some (path, .ok old) => writeAt path old out (seek * obs) (conv.contains "notrunc")
              | _ => Sys.print out
            let status := Octets.toString ((ss.get? "status").getD [])
            if status ≠ "none" then
              let full := blocks.countP fun t => t.length == ibs
              let lines := Octets.ofNat full ++ '+' :: Octets.ofNat (blocks.length - full) ++
                " records in\n".toList ++ Octets.ofNat (out.length / obs) ++ '+' ::
                Octets.ofNat (if out.length % obs = 0 then 0 else 1) ++ " records out\n".toList
              discard (Sys.write 2 lines)
              if status ≠ "noxfer" then
                let rate := Octets.ofNat out.length ++ " bytes copied, 0.0001 s, 1.0 MB/s\n".toList
                discard (Sys.write 2 rate)
            return statusOf ok
    | _, _, _, _, _, _ => s.fail 1 "invalid number"

/-! ### Pieces of the same size -/

/-- The ending of the name of a piece: digits of a base, with at least so many of them. -/
def pieceSuffix (digits : Octets) (width n : Nat) : Octets :=
  let base := digits.length
  let rec go : Nat → Nat → Octets → Octets
    | 0, _, done => done
    | k + 1, n, done => go k (n / base) (digits.getD (n % base) 'a' :: done)
  go width n []

/-- The ending of the name of a piece; where that may grow, the last endings of a width lead over to
    a wider one. -/
def growingSuffix (digits : Octets) : Nat → Nat → Nat → Octets → Octets
  | 0, width, n, front => front ++ pieceSuffix digits width n
  | fuel + 1, width, n, front =>
    let base := digits.length
    let room := Nat.pow base width - Nat.pow base (width - 1)
    if n < room then front ++ pieceSuffix digits width n
    else growingSuffix digits fuel (width + 1) (n - room) (front ++ [digits.getD (base - 1) 'z'])

/-- Lines put together as long as there is room for them; what is put together is in reverse
    order. -/
def packLines (size : Nat) : List Octets → Octets → List Octets → List Octets
  | done, current, [] => (if current.isEmpty then done else current :: done).reverse
  | done, current, l :: ls =>
    if current.length + l.length ≤ size then packLines size done (current ++ l) ls
    else
      let done := if current.isEmpty then done else current :: done
      if l.length ≤ size then packLines size done l ls
      else
        let pieces := Octets.chunks size l
        packLines size (pieces.dropLast.reverse ++ done) (pieces.getLastD []) ls

/-- Lists of so many items. -/
def grouped {α : Type} (size : Nat) : Nat → List α → List (List α)
  | 0, _ => []
  | n + 1, xs => if xs.isEmpty then [] else xs.take size :: grouped size n (xs.drop size)

/-- Lines with their ends. -/
def wholeRecords (stop : Char) (t : Octets) : List Octets :=
  let (ls, rest) := Filter.cutRecords stop [] [] t
  if rest.isEmpty then ls else ls ++ [rest]

/-- So many pieces of about the same size. -/
def equalPieces (count : Nat) (t : Octets) : List Octets :=
  let size := t.length / count
  let extra := t.length % count
  (List.range count).map fun i =>
    (t.drop (i * size + min i extra)).take (size + if i < extra then 1 else 0)

/-- So many pieces of about the same size that end with lines; a line belongs to the piece in which
    it starts. -/
def linePieces (count : Nat) (stop : Char) (t : Octets) : List Octets :=
  let size := t.length / count
  let extra := t.length % count
  -- the first pieces get one octet more
  let piece (at' : Nat) : Nat :=
    if at' < extra * (size + 1) then at' / (size + 1) else extra + (at' - extra * (size + 1)) / size
  let (placed, _) := (wholeRecords stop t).foldl (fun (done, at') l =>
    ((piece at', l) :: done, at' + l.length)) (([] : List (Nat × Octets)), 0)
  let placed := placed.reverse
  (List.range count).map fun i => (placed.filter fun e => e.1 == i).flatMap (·.2)

/-- What the pieces are, and which one is printed if just one is wanted. -/
def chunksOf? (spec : Octets) (stop : Char) (t : Octets) : Option (List Octets × Option Nat) :=
  let (kind, rest) : Char × Octets := match spec with
    | 'l' :: '/' :: r => ('l', r)
    | 'r' :: '/' :: r => ('r', r)
    | r => ('b', r)
  let numbers := (Octets.fields '/' rest).map Octets.nat?
  let (count, wanted) : Option Nat × Option Nat := match numbers with
    | [some n] => (some n, none)
    | [some k, some n] => if 1 ≤ k ∧ k ≤ n then (some n, some (k - 1)) else (none, none)
    | _ => (none, none)
  match count with
  | none | some 0 => none
  | some n =>
    let pieces := match kind with
      | 'l' => linePieces n stop t
      | 'r' =>
        let ls := (wholeRecords stop t).zipIdx
        (List.range n).map fun i => (ls.filter fun e => e.2 % n == i).flatMap (·.1)
      | _ => equalPieces n t
    some (pieces, wanted)

/-- Old options such as `-3` in the new form. -/
def splitArgs (args : List Octets) : List Octets :=
  args.map fun a => match a with
    | '-' :: d :: ds => if (d :: ds).all Char.isDigit then '-' :: 'l' :: d :: ds else a
    | a => a

/-- Cut a file into pieces. -/
def split : Tool := fun s args =>
  withOptions (OptionSpec.of "a:b:C:del:n:t:ux" [("suffix-length", "a"), ("bytes", "b"),
    ("line-bytes", "C"), ("elide-empty-files", "e"), ("lines", "l"), ("number", "n"),
    ("separator", "t"), ("unbuffered", "u"), ("additional-suffix=", "more"),
    ("numeric-suffixes?", "numeric"), ("hex-suffixes?", "hex"), ("verbose", "verbose"),
    ("filter=", "filter")]) 1 (fun s p => do
    let stop := match p.value? "t" with
      | some [c] => c
      | some ['\\', '0'] => '\x00'
      | _ => '\n'
    let source := p.operands.headD ['-']
    match ← Input.content source with
    | .error e =>
      s.complainOf source e
      return 1
    | .ok t =>
      let number (key : String) : Option Nat :=
        ((p.value? key).bind blockSize?).filter (0 < ·)
      let ways := ["b", "C", "l", "n"].filter p.has
      let pieces : Option (List Octets × Option Nat) := match ways with
        | [] => some ((grouped 1000 (t.length + 1) (wholeRecords stop t)).map List.flatten, none)
        | ["b"] => (number "b").map fun n => (Octets.chunks n t, none)
        | ["C"] => (number "C").map fun n => (packLines n [] [] (wholeRecords stop t), none)
        | ["l"] => (number "l").map fun n =>
          ((grouped n (t.length + 1) (wholeRecords stop t)).map List.flatten, none)
        | ["n"] => chunksOf? ((p.value? "n").getD []) stop t
        | _ => none
      match pieces with
      | none => s.fail 1 "invalid number"
      | some (pieces, some k) =>
        if 2 < p.operands.length then s.fail 1 "extra operand"
        else Sys.printStatus (pieces.getD k [])
      | some (pieces, none) =>
        let pieces := if p.has "e" then pieces.filter fun q => !q.isEmpty else pieces
        let start : Option Octets := match p.value? "numeric", p.value? "hex" with
          | some (c :: cs), _ => some (c :: cs)
          | _, some (c :: cs) => some (c :: cs)
          | _, _ => none
        let digits := if p.has "d" || p.has "numeric" then "0123456789".toList
          else if p.has "x" || p.has "hex" then "0123456789abcdef".toList
          else "abcdefghijklmnopqrstuvwxyz".toList
        let first := (start.bind (Octets.natIn? digits.length)).getD 0
        let least := max 2 (start.getD []).length
        let needed (k : Nat) : Nat :=
          if Nat.pow digits.length k < pieces.length + first then 0 else k
        let width := match p.value? "a" with
          | some a => ((Octets.nat? a).getD 0)
          | none => if ways == ["n"] then
              (((List.range 10).map (· + least)).find? fun k => needed k ≠ 0).getD least
            else least
        let fixed := (p.has "a" && p.value? "a" != some ['0']) || start.isSome || ways == ["n"]
        let width := if width = 0 then least else width
        let front := (p.operands.drop 1).headD ['x']
        if 2 < p.operands.length then s.fail 1 "extra operand"
        else
          let mut ok := true
          for (piece, i) in pieces.zipIdx do
            if ok then
              if fixed && Nat.pow digits.length width ≤ i + first then
                s.complain "output file suffixes exhausted"
                ok := false
              else
                let suffix := if fixed then pieceSuffix digits width (i + first)
                  else growingSuffix digits 20 width i []
                let name := front ++ suffix ++ (p.value? "more").getD []
                if p.has "verbose" then
                  discard (Sys.print ("creating file '".toList ++ name ++ ['\'', '\n']))
                match p.value? "filter" with
                | some command =>
                  let (r, w) ← Sys.makePipe
                  let input := (← Sys.openedAt? r).getD 0
                  let pid ← Prog.fork [(0, input)]
                    (s.exec (s.env.set "FILE".toList name) ["sh".toList, "-c".toList, command])
                  Sys.close r
                  discard (Sys.write w piece)
                  Sys.close w
                  if (← Sys.waitFor pid).status ≠ 0 then ok := false
                | none =>
                  match ← Sys.writeFile name .write piece with
                  | .ok () => pure ()
                  | .error e =>
                    s.complainOf name e
                    ok := false
          return statusOf ok) s (splitArgs args)

/-! ### Pieces between lines that fit -/

/-- Where a piece ends. -/
inductive CutPoint where
  /-- Before the line with a number. -/
  | line (n : Nat)
  /-- Before a line that fits, or some lines from there; the piece may be left out. -/
  | fitting (r : Regex) (offset : Int) (kept : Bool)

/-- Read where a piece ends. -/
def CutPoint.read? (t : Octets) : Option CutPoint :=
  match t with
  | c :: r =>
    if c = '/' ∨ c = '%' then
      match (r.reverse.span (· != c)) with
      | (back, _ :: body) =>
        let offset := if back.isEmpty then some 0 else Octets.int? back.reverse
        match Regex.basic? (Octets.toText body.reverse), offset with
        | some e, some k => some (.fitting e k (c == '/'))
        | _, _ => none
      | _ => none
    else (Octets.nat? t).map .line
  | [] => none

/-- The numbers of lines start with one at least and do not fall. -/
def inOrder (points : List (CutPoint × Option Nat)) : Bool :=
  let numbers := points.filterMap fun (p, _) => match p with
    | .line n => some n
    | .fitting _ _ _ => none
  (1 :: numbers).zip numbers |>.all fun (m, n) => m ≤ n

/-- Points, each as often as a count in braces says; none for as often as possible. -/
def cutPoints? : List Octets → Option (List (CutPoint × Option Nat))
  | [] => some []
  | t :: rest => do
    let point ← CutPoint.read? t
    match rest with
    | (b :: r) :: more =>
      if b = '\x7b' then
        let count := r.dropLast
        let times ← if count = ['*'] then some none else (Octets.nat? count).map some
        let others ← cutPoints? more
        return (point, times) :: others
      else
        let others ← cutPoints? ((b :: r) :: more)
        return (point, some 0) :: others
    | rest => return (point, some 0) :: (← cutPoints? rest)
termination_by ts => ts.length

/-- The number of lines before the next end, seen from a line, where the first few are not looked
    at; none if there is none. -/
def CutPoint.next? (p : CutPoint) (passed skip : Nat) (ls : List Octets) : Option Nat :=
  match p with
  | .line n => if passed < n ∧ n ≤ passed + ls.length then some (n - 1 - passed) else none
  | .fitting r offset _ =>
    match (ls.drop skip).findIdx? fun l => r.occursIn (Octets.toText (cutEnd '\n' l).1) with
    | some i =>
      let at' : Int := (i + skip : Nat) + offset
      if at' < 0 ∨ (ls.length : Int) < at' then none else some at'.toNat
    | none => none

/-- The number of lines behind an end that were looked at already. -/
def CutPoint.seen : CutPoint → Nat
  | .line _ => 0
  | .fitting _ offset _ => 1 + (-offset).toNat

/-- Cut lines, of which the first few were looked at already; pieces so far are in reverse order,
    and the line behind an end is left out if `hides`.  Also whether all ends were found. -/
def cutLines (hides : Bool) : Nat → List (CutPoint × Option Nat) → Nat → Nat → Nat →
    List Octets → List Octets → List Octets × Bool
  | 0, _, _, _, _, done, _ => (done.reverse, false)
  | _, [], _, _, _, done, ls => ((ls.flatten :: done).reverse, true)
  | fuel + 1, (p, times) :: points, round, skip, passed, done, ls =>
    let target := match p with
      | .line n => CutPoint.line (n * (round + 1))
      | p => p
    match target.next? passed skip ls with
    | none =>
      let mayEnd := match p with
        | .line _ => false
        | .fitting _ _ _ => times.isNone
      ((ls.flatten :: done).reverse, mayEnd)
    | some k =>
      let done := match p with
        | .fitting _ _ false => done
        | _ => (ls.take k).flatten :: done
      let hidden := if hides then 1 else 0
      let rest := ls.drop (k + hidden)
      let again := match times with
        | none => true
        | some n => round < n
      if again then
        cutLines hides fuel ((p, times) :: points) (round + 1) (p.seen - hidden)
          (passed + k + hidden) done rest
      else cutLines hides fuel points 0 (p.seen - hidden) (passed + k + hidden) done rest

/-- The name of a piece behind its front, by a format with one number; none if it is no such
    format. -/
def pieceName? (format : Octets) (n : Nat) : Option Octets :=
  let rec go : Nat → Octets → Octets → Bool → Option Octets
    | 0, _, _, _ => none
    | _, [], done, used => if used then some done.reverse else none
    | fuel + 1, '%' :: '%' :: t, done, used => go fuel t ('%' :: done) used
    | fuel + 1, '%' :: t, done, used =>
      let flags := t.takeWhile fun c => c = '-' ∨ c = '0' ∨ c = '#' ∨ c = ' ' ∨ c = '+' ∨ c = '\''
      let rest := t.drop flags.length
      let width := rest.takeWhile Char.isDigit
      let rest := rest.drop width.length
      let (precision, rest) : Option Octets × Octets := match rest with
        | '.' :: r => (some (r.takeWhile Char.isDigit), r.dropWhile Char.isDigit)
        | r => (none, r)
      let spec (c : Char) : Printf.Spec := {
        flags, width := (Octets.nat? width).getD 0
        precision := precision.map fun t => (Octets.nat? t).getD 0, conversion := c }
      match rest with
      | c :: r =>
        if used then none
        else if c = 'd' ∨ c = 'i' then
          go fuel r (((spec c).int n).reverse ++ done) true
        else if c = 'u' ∨ c = 'o' ∨ c = 'x' ∨ c = 'X' then
          go fuel r (((spec c).nat n).reverse ++ done) true
        else none
      | [] => none
    | fuel + 1, c :: t, done, used => go fuel t (c :: done) used
  go (format.length + 1) format [] false

/-- Cut a file at lines that fit. -/
def csplit : Tool :=
  withOptions (OptionSpec.of "b:f:kn:sqz" [("suffix-format", "b"), ("prefix", "f"),
    ("keep-files", "k"), ("digits", "n"), ("quiet", "s"), ("silent", "s"),
    ("elide-empty-files", "z"), ("suppress-matched", "suppress")]) 1 fun s p => do
  match p.operands with
  | source :: specs =>
    match ← Input.content source, (cutPoints? specs).filter inOrder with
    | .error e, _ =>
      s.complainOf source e
      return 1
    | .ok _, none => s.fail 1 "invalid pattern"
    | .ok t, some points =>
      let named (i : Nat) : Option Octets := match p.value? "b" with
        | some format => pieceName? format i
        | none =>
          let width := ((p.value? "n").bind Octets.nat?).getD 2
          some (Octets.padLeft width '0' (Octets.ofNat i))
      if (named 0).isNone then s.fail 1 "invalid format"
      else
      let ls := wholeRecords '\n' t
      let most := ls.length + specs.length + 2
      let (pieces, ok) := cutLines (p.has "suppress") most points 0 0 0 [] ls
      let pieces := if p.has "z" then pieces.filter fun q => !q.isEmpty else pieces
      let front := (p.value? "f").getD "xx".toList
      let quiet := p.has "s" || p.has "q"
      for (piece, i) in pieces.zipIdx do
        if ok || p.has "k" then
          let name := front ++ (named i).getD []
          discard (Sys.writeFile name .write piece)
        if !quiet then discard (Sys.print (Octets.ofNat piece.length ++ ['\n']))
      if !ok then s.complain "match not found"
      return statusOf ok
  | [] => s.fail 1 "missing operand"

end Tool

end FenceSync.Shell
