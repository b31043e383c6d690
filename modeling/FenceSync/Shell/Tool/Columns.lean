import FenceSync.Shell.Tool.Basic

namespace FenceSync.Shell

/-!
# Columns

* `PlaceList.read?` reads a list of numbers and ranges such as `1,3-5,7-`.
* `Tool.cut` prints parts of lines.
* `Tool.paste` puts lines of several files side by side.
-/

/-- Ranges of numbers, each with its first and, unless it is open, its last one. -/
abbrev PlaceList := List (Nat × Option Nat)

namespace PlaceList

/-- Read a number or a range, counted from one. -/
def readRange? (t : Octets) : Option (Nat × Option Nat) :=
  match t.span (· != '-') with
  | (ds, []) => match Octets.nat? ds with
    | some (n + 1) => some (n + 1, some (n + 1))
    | _ => none
  | (ds, _ :: es) =>
    let bound (u : Octets) : Option (Option Nat) := if u.isEmpty then some none
      else (Octets.nat? u).map some
    match bound ds, bound es with
    | some none, some (some n) => if n = 0 then none else some (1, some n)
    | some (some m), some none => if m = 0 then none else some (m, none)
    | some (some m), some (some n) => if m = 0 ∨ n < m then none else some (m, some n)
    | _, _ => none

/-- Put a range in front of others that start later, as one with those that it meets. -/
def join (r : Nat × Option Nat) : PlaceList → PlaceList
  | [] => [r]
  | s :: rest =>
    match r.2 with
    | none => [r]
    | some n =>
      if s.1 ≤ n then join (r.1, s.2.map (max n)) rest else r :: s :: rest

/-- Read ranges with commas or blanks between them; those that meet become one. -/
def read? (t : Octets) : Option PlaceList :=
  let pieces := Octets.fields ',' (t.map fun c => if Octets.isBlank c then ',' else c)
  (pieces.mapM readRange?).map fun rs =>
    (rs.mergeSort fun a b => a.1 ≤ b.1).foldr join []

/-- The places that are in no range, from a given one on. -/
def complementFrom : Nat → PlaceList → PlaceList
  | n, [] => [(n, none)]
  | n, (a, b) :: rest =>
    let front := if n < a then [(n, some (a - 1))] else []
    match b with
    | none => front
    | some b => front ++ complementFrom (b + 1) rest

/-- The places that are in no range. -/
def complement (l : PlaceList) : PlaceList := complementFrom 1 l

/-- The pieces of a list that the ranges cover. -/
def pick {α : Type} (l : PlaceList) (xs : List α) : List (List α) :=
  l.filterMap fun (a, b) =>
    let ys := xs.drop (a - 1)
    let ys := match b with
      | some b => ys.take (b + 1 - a)
      | none => ys
    if ys.isEmpty then none else some ys

end PlaceList

namespace Tool

/-! ### Parts of lines -/

/-- What is printed of a line: its octets or its fields. -/
structure CutPlan where
  places : PlaceList
  /-- Fields end with this; octets are meant if there is none. -/
  fieldEnd : Option Octets
  /-- What stands between fields or ranges in the output. -/
  between : Octets
  /-- Lines with one field are left out. -/
  drops : Bool
  stop : Char

/-- The parts of a line that are printed. -/
def CutPlan.line (c : CutPlan) (line : Octets) : Octets :=
  match c.fieldEnd with
  | none => Octets.join c.between (c.places.pick line) ++ [c.stop]
  | some sep =>
    match Text.splitOn sep line with
    | [_] => if c.drops then [] else line ++ [c.stop]
    | fields => Octets.join c.between (c.places.pick fields).flatten ++ [c.stop]

/-- Print parts of lines. -/
def cut : Tool :=
  withOptions (OptionSpec.of "b:c:d:f:nsz" [("bytes", "b"), ("characters", "c"), ("delimiter", "d"),
    ("fields", "f"), ("only-delimited", "s"), ("zero-terminated", "z"),
    ("complement", "complement"),
    ("output-delimiter=", "output")]) 1 fun s p => do
  match p.given.filter fun e => ["b", "c", "f"].contains e.1 with
  | [(kind, list)] =>
    let ofFields := kind == "f"
    let sep := (p.value? "d").getD ['\t']
    let sep := if sep.isEmpty then ['\x00'] else sep
    match PlaceList.read? list with
    | none => s.fail 1 "invalid list"
    | some places =>
      if sep.length ≠ 1 ∨ (!ofFields ∧ (p.has "d" ∨ p.has "s")) then s.fail 1 "invalid delimiter"
      else
        let between := match p.value? "output" with
          | some [] => ['\x00']
          | some t => t
          | none => if ofFields then sep else []
        let stop := if p.has "z" then '\x00' else '\n'
        let plan : CutPlan := {
          places := if p.has "complement" then places.complement else places
          fieldEnd := if ofFields then some sep else none, between, drops := p.has "s", stop }
        let f := Filter.ofMap fun r => plan.line (cutEnd stop r).1
        if ofFields && sep = [stop] then
          -- lines are the fields of each file
          let (found, ok) ← Input.contents s p.files
          let out := found.flatMap fun e =>
            let (body, _) := cutEnd stop e.2
            if e.2.isEmpty then [] else plan.line body
          return statusOf ((← Sys.print out) && ok)
        else
          return statusOf (← f.overEach stop s () p.files)
  | _ => s.fail 1 "one list is needed"

/-! ### Lines side by side -/

/-- The separators that a list stands for, of which some are empty; none if it ends in a
    backslash. -/
def pasteSeparators? : Octets → Option (List Octets)
  | [] => some []
  | ['\\'] => none
  | '\\' :: c :: t =>
    let sep := match c with
      | 'n' => ['\n']
      | 't' => ['\t']
      | '0' => []
      | 'b' => ['\x08']
      | 'f' => ['\x0c']
      | 'r' => ['\r']
      | 'v' => ['\x0b']
      | c => [c]
    (pasteSeparators? t).map (sep :: ·)
  | c :: t => (pasteSeparators? t).map ([c] :: ·)

/-- The separator behind so many pieces. -/
def separatorAt (seps : List Octets) (n : Nat) : Octets := seps.getD (n % seps.length) []

/-- Take the next line of each file; files with the same name share their lines. -/
def takeRow : Table Octets (List Octets) → List Octets →
    List (Option Octets) × Table Octets (List Octets)
  | texts, [] => ([], texts)
  | texts, f :: fs =>
    match (texts.get? f).getD [] with
    | [] =>
      let (row, texts) := takeRow texts fs
      (none :: row, texts)
    | l :: ls =>
      let (row, texts) := takeRow (texts.set f ls) fs
      (some l :: row, texts)

/-- Pieces with separators between them. -/
def pasted (seps : List Octets) (stop : Char) (pieces : List Octets) : Octets :=
  let last := pieces.length - 1
  (pieces.zipIdx.flatMap fun (t, i) => t ++ if i < last then separatorAt seps i else []) ++ [stop]

/-- Lines of files side by side; rows so far are in reverse order. -/
def pastedRows (seps : List Octets) (stop : Char) (files : List Octets) :
    Nat → Table Octets (List Octets) → List Octets → List Octets
  | 0, _, done => done.reverse
  | n + 1, texts, done =>
    let (row, texts) := takeRow texts files
    if row.all Option.isNone then done.reverse
    else pastedRows seps stop files n texts (pasted seps stop (row.map (·.getD [])) :: done)

/-- Put lines of files side by side. -/
def paste : Tool :=
  withOptions (OptionSpec.of "d:sz" [("delimiters", "d"), ("serial", "s"),
    ("zero-terminated", "z")]) 1
    fun s p => do
  let stop := if p.has "z" then '\x00' else '\n'
  match pasteSeparators? ((p.value? "d").getD ['\t']) with
  | none => s.fail 1 "delimiter list ends with an unescaped backslash"
  | some seps =>
    let seps := if seps.isEmpty then [[]] else seps
    let (found, ok) ← Input.contents s (if p.has "s" then p.files else p.files.eraseDups)
    if p.has "s" then
      let out := found.flatMap fun e => pasted seps stop (Octets.records stop e.2)
      return statusOf ((← Sys.print out) && ok)
    else if !ok then return 1
    else
      -- a file that is named twice is read twice, but there is one standard input
      let names := p.files.zipIdx.map fun (f, i) =>
        if f = ['-'] then f else f ++ '\x00' :: Octets.ofNat i
      let texts := names.eraseDups.map fun n =>
        let text := (found.lookup (n.takeWhile (· != '\x00'))).getD []
        (n, Octets.records stop text)
      let count := (texts.map fun e => e.2.length).foldl (· + ·) 1
      Sys.printStatus (pastedRows seps stop names count texts []).flatten

end Tool

end FenceSync.Shell
