import FenceSync.Shell.Tool.Order

namespace FenceSync.Shell

/-!
# Programs that compare lines

* `Tool.uniq` looks at lines that repeat the one before.
* `Tool.comm` puts two files that are in order side by side.
* `Tool.join` puts lines of two files together that have a field in common.
-/

namespace Tool

/-! ### Repeated lines -/

/-- What is compared of lines. -/
structure UniqManner where
  fields : Nat
  chars : Nat
  width : Option Nat
  folded : Bool

/-- What is compared of a line. -/
def UniqManner.key (m : UniqManner) (line : Octets) : Octets :=
  let t := (SortKey.skipFields none m.fields line).drop m.chars
  let t := match m.width with
    | some n => t.take n
    | none => t
  if m.folded then t.map Char.toUpper else t

/-- Runs of lines with the same keys; the run so far is in reverse order, as are those before. -/
def runsOf (key : Octets → Octets) :
    List (List Octets) → Octets → List Octets → List Octets → List (List Octets)
  | done, _, [], [] => done.reverse
  | done, _, run, [] => (run.reverse :: done).reverse
  | done, k, run, l :: ls =>
    let kl := key l
    if run.isEmpty then runsOf key done kl [l] ls
    else if kl = k then runsOf key done k (l :: run) ls
    else runsOf key (run.reverse :: done) kl [l] ls

/-- Runs with empty lines around them. -/
def delimited (how : String) (stop : Char) (runs : List Octets) : Octets :=
  match how with
  | "prepend" => runs.flatMap fun r => stop :: r
  | "append" => runs.flatMap fun r => r ++ [stop]
  | "separate" => Octets.join [stop] runs
  | "both" => if runs.isEmpty then [] else stop :: runs.flatMap fun r => r ++ [stop]
  | _ => runs.flatten

/-- Arguments with old options such as `-3` in the new form. -/
def uniqArgs (args : List Octets) : List Octets :=
  args.map fun a => match a with
    | '-' :: d :: ds => if (d :: ds).all Char.isDigit then '-' :: 'f' :: d :: ds else a
    | a => a

/-- A word that options may have. -/
def wordOf? (usual : String) (words : List String) (t : Octets) : Option String :=
  if t.isEmpty then some usual
  else words.find? fun w => t.isPrefixOf w.toList

/-- Look at lines that repeat the one before. -/
def uniq : Tool := fun s args =>
  withOptions (OptionSpec.of "cdDf:is:uw:z" [("count", "c"), ("repeated", "d"),
    ("all-repeated?", "all"), ("skip-fields", "f"), ("ignore-case", "i"), ("skip-chars", "s"),
    ("unique", "u"), ("check-chars", "w"), ("zero-terminated", "z"), ("group?", "group")]) 1
    (fun s p => do
    let stop := if p.has "z" then '\x00' else '\n'
    let number (key : String) : Option (Option Nat) := match p.value? key with
      | none => some none
      | some t => (Octets.nat? t).map some
    let all := if p.has "all" then
        wordOf? "none" ["none", "prepend", "separate"] ((p.value? "all").getD [])
      else if p.has "D" then some "none" else some ""
    let group := if p.has "group" then
        wordOf? "separate" ["separate", "prepend", "append", "both"] ((p.value? "group").getD [])
      else some ""
    match number "f", number "s", number "w", all, group with
    | some fields, some chars, some width, some all, some group =>
      let clash := (all != "" && p.has "c") ||
        (group != "" && (all != "" || p.has "c" || p.has "d" || p.has "u"))
      if clash || 2 < p.operands.length then s.fail 1 "invalid options"
      else
        match ← Input.content (p.operands.headD ['-']) with
        | .error e =>
          s.complainOf (p.operands.headD ['-']) e
          return 1
        | .ok t =>
          let m : UniqManner := ⟨fields.getD 0, chars.getD 0, width, p.has "i"⟩
          let runs := runsOf m.key [] [] [] (Octets.records stop t)
          let text (r : List Octets) : Octets := r.flatMap fun l => l ++ [stop]
          let out : Octets :=
            if group != "" then delimited group stop (runs.map text)
            else
              let kept := runs.filter fun r =>
                (!p.has "u" || r.length = 1) && (!(p.has "d" || all != "") || 1 < r.length)
              if all != "" then delimited all stop (kept.map text)
              else kept.flatMap fun r =>
                (if p.has "c" then Octets.padLeft 7 ' ' (Octets.ofNat r.length) ++ [' '] else []) ++
                  text (r.take 1)
          match p.operands.drop 1 with
          | path :: _ =>
            if path = ['-'] then Sys.printStatus out
            else match ← Sys.writeFile path .write out with
              | .ok () => return 0
              | .error e =>
                s.complainOf path e
                return 1
          | [] => Sys.printStatus out
    | _, _, _, _, _ => s.fail 1 "invalid number") s (uniqArgs args)

/-! ### Lines of two files -/

/-- When it is checked that files are in order. -/
inductive OrderCheck where
  | always
  /-- Once a line was found that has no partner. -/
  | whenUnpaired
  | never
  deriving DecidableEq, Repr

/-- The check that options ask for. -/
def orderCheck (p : Parsed) : OrderCheck :=
  match p.last? ["check", "nocheck"] with
  | some "check" => .always
  | some _ => .never
  | none => .whenUnpaired

/-- Whether a file is looked at for its order, and what was found. -/
structure Disorder where
  check : OrderCheck
  /-- A line was found that has no partner. -/
  unpaired : Bool
  /-- Which files are out of order. -/
  first : Bool
  second : Bool

namespace Disorder

/-- Some file is out of order. -/
def any (d : Disorder) : Bool := d.first || d.second

/-- Work stops here. -/
def halts (d : Disorder) : Bool := d.check == .always && d.any

/-- Compare a line of a file with the one before. -/
def look (d : Disorder) (isFirst : Bool) (order : Ordering) : Disorder :=
  if (d.check = .always ∨ (d.check = .whenUnpaired ∧ d.unpaired)) && order == .gt then
    if isFirst then { d with first := true } else { d with second := true }
  else d

end Disorder

/-- A file of which lines are taken one after the other. -/
structure LineFeed where
  /-- The two lines before. -/
  last : Option Octets
  lastButOne : Option Octets
  rest : List Octets

/-- Go on to the next line, and look at the order of what was passed. -/
def LineFeed.advance (f : LineFeed) (isFirst : Bool) (d : Disorder) : LineFeed × Disorder :=
  match f.rest with
  | [] => (f, d)
  | l :: rest =>
    let g : LineFeed := ⟨some l, f.last, rest⟩
    match rest with
    | next :: _ => (g, d.look isFirst (compare l next))
    | [] => match g.lastButOne with
      | some before => (g, d.look isFirst (compare before l))
      | none => (g, d)

/-- The lines in three columns: those of the first file alone, of the second alone, and of both. -/
def columnsOf : Nat → List (Nat × Octets) → LineFeed → LineFeed → Disorder →
    List (Nat × Octets) × Disorder
  | 0, done, _, _, d => (done.reverse, d)
  | n + 1, done, a, b, d =>
    if d.halts then (done.reverse, d)
    else match a.rest, b.rest with
      | [], [] => (done.reverse, d)
      | x :: _, [] =>
        let (a, d) := a.advance true { d with unpaired := true }
        columnsOf n ((1, x) :: done) a b d
      | [], y :: _ =>
        let (b, d) := b.advance false { d with unpaired := true }
        columnsOf n ((2, y) :: done) a b d
      | x :: _, y :: _ =>
        match compare x y with
        | .lt =>
          let (a, d) := a.advance true { d with unpaired := true }
          columnsOf n ((1, x) :: done) a b d
        | .gt =>
          let (b, d) := b.advance false { d with unpaired := true }
          columnsOf n ((2, y) :: done) a b d
        | .eq =>
          let (a, d) := a.advance true d
          let (b, d) := b.advance false d
          columnsOf n ((3, x) :: done) a b d

/-- Read two files. -/
def readTwo (s : Setting) (first second : Octets) : Prog (Option (Octets × Octets)) := do
  match ← Input.content first with
  | .error e =>
    s.complainOf first e
    return none
  | .ok t =>
    match ← Input.content second with
    | .error e =>
      s.complainOf second e
      return none
    | .ok u => return some (t, u)

/-- Put two files that are in order side by side. -/
def comm : Tool :=
  withOptions (OptionSpec.of "123z" [("check-order", "check"), ("nocheck-order", "nocheck"),
    ("output-delimiter=", "delimiter"), ("total", "total"), ("zero-terminated", "z")]) 1
    fun s p => do
  match p.operands with
  | [first, second] =>
    match ← readTwo s first second with
    | none => return 1
    | some (t, u) =>
      let stop := if p.has "z" then '\x00' else '\n'
      let sep := (p.value? "delimiter").getD ['\t']
      let sep := if sep.isEmpty then ['\x00'] else sep
      let a := Octets.records stop t
      let b := Octets.records stop u
      let (found, d) := columnsOf (a.length + b.length + 1) [] ⟨none, none, a⟩ ⟨none, none, b⟩
        ⟨orderCheck p, false, false, false⟩
      let shows (n : Nat) : Bool := !p.has (Octets.toString (Octets.ofNat n))
      let front (n : Nat) : Octets :=
        ((List.range (n - 1)).filter fun i => shows (i + 1)).flatMap fun _ => sep
      let lines := found.flatMap fun (n, l) => if shows n then front n ++ l ++ [stop] else []
      let count (n : Nat) : Octets := Octets.ofNat (found.countP fun e => e.1 == n)
      let total := if p.has "total" && !d.halts then
        Octets.join sep [count 1, count 2, count 3, "total".toList] ++ [stop] else []
      let ok ← Sys.print (lines ++ total)
      if d.any then s.complain "input is not in sorted order"
      return statusOf (ok && !d.any)
  | _ => s.fail 1 "two files are needed"

/-! ### Fields in common -/

/-- What is printed of a pair of lines. -/
inductive JoinColumn where
  | common
  /-- A field of one of the files, counted from zero. -/
  | field (isFirst : Bool) (n : Nat)
  deriving DecidableEq, Repr

/-- How lines are put together. -/
structure JoinPlan where
  separator : Option Char
  /-- The fields that are compared. -/
  first : Nat
  second : Nat
  folded : Bool
  filler : Octets
  columns : List JoinColumn
  /-- How many fields lines have, if that is fixed. -/
  widths : Option (Nat × Nat)
  stop : Char

namespace JoinPlan

/-- Fields that blanks separate; blanks behind the last one make an empty one. -/
def blankFields : Nat → Octets → List Octets
  | 0, _ => []
  | n + 1, t =>
    let field := t.takeWhile fun c => !isGap c
    match t.drop field.length with
    | [] => [field]
    | t => match t.dropWhile isGap with
      | [] => [field, []]
      | t => field :: blankFields n t

/-- The fields of a line. -/
def fields (j : JoinPlan) (line : Octets) : List Octets :=
  if line.isEmpty then []
  else match j.separator with
    | some '\n' => [line]
    | some c => Octets.fields c line
    | none => match line.dropWhile isGap with
      | [] => []
      | t => blankFields t.length t

/-- Compare the fields in common. -/
def compare (j : JoinPlan) (m n : Nat) (a b : List Octets) : Ordering :=
  let x := a.getD m []
  let y := b.getD n []
  if j.folded then Ord.compare (x.map Char.toUpper) (y.map Char.toUpper) else Ord.compare x y

/-- What is printed of a field. -/
def shown (j : JoinPlan) (line : Option (List Octets)) (n : Nat) : Octets :=
  let t := (line.getD []).getD n []
  if t.isEmpty then j.filler else t

/-- The fields of a line other than the common one. -/
def others (j : JoinPlan) (line : Option (List Octets)) (common width : Nat) : List Octets :=
  ((List.range width).filter (· != common)).map (j.shown line)

/-- A pair of lines, of which one may be missing. -/
def pair (j : JoinPlan) (a b : Option (List Octets)) : Octets :=
  let common := if a.isSome then j.shown a j.first else j.shown b j.second
  let pieces :=
    if !j.columns.isEmpty then j.columns.map fun c => match c with
      | .common => common
      | .field true n => j.shown a n
      | .field false n => j.shown b n
    else
      let width (pick : Nat × Nat → Nat) (line : Option (List Octets)) : Nat :=
        (j.widths.map pick).getD (line.getD []).length
      common :: j.others a j.first (width (·.1) a) ++ j.others b j.second (width (·.2) b)
  Octets.join [match j.separator with
    | some c => c
    | none => ' '] pieces ++ [j.stop]

end JoinPlan

/-- Lines of one file that were not yet used, the one before, and how they are compared with it. -/
structure JoinSide where
  isFirst : Bool
  before : Option (List Octets)
  rest : List (List Octets)

namespace JoinSide

/-- The field that is compared. -/
def common (x : JoinSide) (j : JoinPlan) : Nat := if x.isFirst then j.first else j.second

/-- Take the next line and look at its order. -/
def next? (x : JoinSide) (j : JoinPlan) (d : Disorder) :
    Option (List Octets × JoinSide × Disorder) :=
  match x.rest with
  | [] => none
  | l :: rest =>
    let seen := if x.isFirst then d.first else d.second
    let d := match x.before with
      | some m => if seen then d else d.look x.isFirst (j.compare (x.common j) (x.common j) m l)
      | none => d
    some (l, { x with before := some l, rest }, d)

/-- Take lines as long as they go with a line of the other file; those taken are in reverse
    order. -/
def takeSame (j : JoinPlan) (order : List Octets → Ordering) :
    Nat → JoinSide → Disorder → List (List Octets) →
    List (List Octets) × Option (List Octets) × JoinSide × Disorder
  | 0, x, d, done => (done, none, x, d)
  | n + 1, x, d, done =>
    match x.next? j d with
    | none => (done, none, x, d)
    | some (l, x, d) =>
      if order l = .eq then takeSame j order n x d (l :: done) else (done, some l, x, d)

end JoinSide

/-- Which lines are printed: pairs, and lines of the first and of the second file alone. -/
structure JoinWish where
  pairs : Bool
  first : Bool
  second : Bool

/-- Put lines together; the current line of each file is given. -/
def joinFrom (j : JoinPlan) (w : JoinWish) : Nat → List Octets → Option (List Octets) →
    Option (List Octets) → JoinSide → JoinSide → Disorder → List Octets × Disorder
  | 0, out, _, _, _, _, d => (out, d)
  | n + 1, out, a, b, x, y, d =>
    if d.halts then (out, d)
    else
      let step (x : JoinSide) (d : Disorder) : Option (List Octets) × JoinSide × Disorder :=
        match x.next? j d with
        | some (l, x, d) => (some l, x, d)
        | none => (none, x, d)
      match a, b with
      | none, none => (out, d)
      | some l, none =>
        let (next, x, d) := step x d
        joinFrom j w n (if w.first then j.pair (some l) none :: out else out) next none x y d
      | none, some r =>
        let (next, y, d) := step y d
        joinFrom j w n (if w.second then j.pair none (some r) :: out else out) none next x y d
      | some l, some r =>
        match j.compare j.first j.second l r with
        | .lt =>
          let (next, x, d) := step x d
          joinFrom j w n (if w.first then j.pair (some l) none :: out else out) next b x y
            { d with unpaired := true }
        | .gt =>
          let (next, y, d) := step y d
          joinFrom j w n (if w.second then j.pair none (some r) :: out else out) a next x y
            { d with unpaired := true }
        | .eq =>
          let (ls, a, x, d) := x.takeSame j (fun m => j.compare j.first j.second m r)
            (x.rest.length + 1) d [l]
          let (rs, b, y, d) := y.takeSame j (fun m => j.compare j.first j.second l m)
            (y.rest.length + 1) d [r]
          let pairs := ls.reverse.flatMap fun l => rs.reverse.map fun r => j.pair (some l) (some r)
          joinFrom j w n (if w.pairs then pairs.reverse ++ out else out) a b x y d

/-- A column that a description such as `2.1` names. -/
def JoinColumn.read? (t : Octets) : Option JoinColumn :=
  match t with
  | ['0'] => some .common
  | f :: '.' :: n =>
    match Octets.nat? n with
    | some (n + 1) =>
      if f = '1' then some (.field true n)
      else if f = '2' then some (.field false n)
      else none
    | _ => none
  | _ => none

/-- Arguments with the lists of columns put together. -/
def joinArgs : List Octets → List Octets
  | ['-', 'o'] :: t :: rest =>
    let more := rest.takeWhile fun u => (JoinColumn.read? u).isSome
    ('-' :: 'o' :: Octets.join [','] (t :: more)) :: joinArgs (rest.drop more.length)
  | a :: rest => a :: joinArgs rest
  | [] => []
termination_by args => args.length
decreasing_by all_goals simp_wf <;> omega

/-- Put lines of two files together that have a field in common. -/
def join : Tool := fun s args =>
  withOptions (OptionSpec.of "a:e:i1:2:j:o:t:v:z" [("ignore-case", "i"), ("zero-terminated", "z"),
    ("check-order", "check"), ("nocheck-order", "nocheck"), ("header", "header")]) 1
    (fun s p => do
    let field (keys : List String) : Option Nat :=
      match (p.given.filter fun e => keys.contains e.1).map (·.2) |>.eraseDups with
      | [] => some 0
      | [t] => match Octets.nat? t with
        | some (n + 1) => some n
        | _ => none
      | _ => none
    let sides := p.values "a" ++ p.values "v"
    let auto := p.value? "o" == some "auto".toList
    let words := (p.values "o").flatMap fun t =>
      Octets.fields ',' (t.map fun c => if isGap c then ',' else c)
    let columns : Option (List JoinColumn) := if auto then some []
      else (words.filter fun t => !t.isEmpty).mapM JoinColumn.read?
    let separator : Option (Option Char) := match (p.values "t").eraseDups with
      | [] => some none
      | [[]] => some (some '\n')
      | [[c]] => some (some c)
      | [['\\', '0']] => some (some '\x00')
      | _ => none
    match p.operands, field ["1", "j"], field ["2", "j"], columns, separator with
    | [one, two], some first, some second, some columns, some separator =>
      if sides.any fun t => t != ['1'] && t != ['2'] then s.fail 1 "invalid file number"
      else if one = ['-'] && two = ['-'] then s.fail 1 "both files cannot be standard input"
      else match ← readTwo s one two with
        | none => return 1
        | some (t, u) =>
          let stop := if p.has "z" then '\x00' else '\n'
          let plan : JoinPlan := {
            separator, first, second, folded := p.has "i", filler := (p.value? "e").getD []
            columns, widths := none, stop }
          let as := (Octets.records stop t).map plan.fields
          let bs := (Octets.records stop u).map plan.fields
          let plan := if auto then
            { plan with widths := some ((as.headD []).length, (bs.headD []).length) } else plan
          let wish : JoinWish := {
            pairs := !p.has "v", first := sides.contains ['1'], second := sides.contains ['2'] }
          let headed := p.has "header" && !(as.isEmpty && bs.isEmpty)
          let header := if headed then [plan.pair (some (as.headD [])) (some (bs.headD []))] else []
          let as := if headed then as.drop 1 else as
          let bs := if headed then bs.drop 1 else bs
          let (out, d) := joinFrom plan wish (as.length + bs.length + 2) header as.head? bs.head?
            ⟨true, as.head?, as.drop 1⟩ ⟨false, bs.head?, bs.drop 1⟩
            ⟨orderCheck p, false, false, false⟩
          let ok ← Sys.print out.reverse.flatten
          if d.any then s.complain "input is not in sorted order"
          return statusOf (ok && !d.any)
    | _, _, _, _, _ => s.fail 1 "invalid argument") s (joinArgs args)

end Tool

end FenceSync.Shell
