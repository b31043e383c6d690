import FenceSync.Shell.Tool.Basic

namespace FenceSync.Shell

/-!
# Other orders

* `Tool.shuf` prints lines in an order of its own.
* `Tool.tsort` puts items in an order in which each pair stays in order.
-/

namespace Tool

/-! ### Any order -/

/-- Lines that take turns from both ends, at most so many. -/
def shuffled {α : Type} : Nat → List α → List α
  | 0, _ => []
  | n + 1, xs =>
    match xs with
    | [] => []
    | x :: rest => x :: shuffled n rest.reverse

/-- The numbers from one to another. -/
def range? (t : Octets) : Option (Nat × Nat) :=
  match t.span (· != '-') with
  | (a, _ :: b) => match Octets.nat? a, Octets.nat? b with
    | some m, some n => if m ≤ n + 1 then some (m, n) else none
    | _, _ => none
  | _ => none

/-- Print lines in an order of its own. -/
def shuf : Tool :=
  withOptions (OptionSpec.of "ei:n:o:rz" [("echo", "e"), ("input-range", "i"), ("head-count", "n"),
    ("output", "o"), ("repeat", "r"), ("zero-terminated", "z"), ("random-source=", "source")]) 1
    fun s p => do
  let stop := if p.has "z" then '\x00' else '\n'
  let counts := (p.values "n").map Octets.nat?
  let given : Option (Except Octets (List Octets)) :=
    match p.has "e", p.values "i" with
    | true, [] => some (.ok p.operands)
    | false, [r] => match range? r with
      | some (m, n) =>
        if p.operands.isEmpty then
          some (.ok ((List.range (n + 1 - m)).map fun i => Octets.ofNat (m + i)))
        else none
      | none => none
    | false, [] => if p.operands.length ≤ 1 then some (.error (p.operands.headD ['-'])) else none
    | _, _ => none
  match given, counts.contains none with
  | some given, false =>
    let limit := (counts.filterMap id).min?
    let lines : Except FileError (List Octets) ← match given with
      | .ok ls => pure (.ok ls)
      | .error path => do
        match ← Input.content path with
        | .ok t => pure (.ok (Octets.records stop t))
        | .error e => pure (.error e)
    match lines with
    | .error e =>
      s.complainOf (p.operands.headD ['-']) e
      return 1
    | .ok lines =>
      let chosen := if p.has "r" && !lines.isEmpty then
          (List.range (limit.getD 1000000)).map fun i => lines.getD (i * 7 % lines.length) []
        else (shuffled lines.length lines).take (limit.getD lines.length)
      if p.has "r" && lines.isEmpty && limit != some 0 then s.fail 1 "no lines to repeat"
      else
        let text := chosen.flatMap fun l => l ++ [stop]
        match p.value? "o" with
        | none => Sys.printStatus text
        | some path => match ← Sys.writeFile path .write text with
          | .ok () => return 0
          | .error e =>
            s.complainOf path e
            return 1
  | _, _ => s.fail 1 "invalid arguments"

/-! ### Pairs in order -/

/-- Items, each with how many others have to come first and those that come later, the one that was
    named last in front. -/
abbrev Partial := Table Octets (Nat × List Octets)

/-- Add an item. -/
def Partial.add (g : Partial) (a : Octets) : Partial := if g.has a then g else g.set a (0, [])

/-- Add a pair. -/
def Partial.addPair (g : Partial) (a b : Octets) : Partial :=
  let g := (g.add a).add b
  if a = b then g
  else (g.modify b fun (n, later) => (n + 1, later)).modify a fun (n, later) => (n, b :: later)

/-- Pairs of items; none if one is left alone. -/
def pairsOf? : List Octets → Option (List (Octets × Octets))
  | [] => some []
  | [_] => none
  | a :: b :: rest => (pairsOf? rest).map ((a, b) :: ·)

/-- Items without others before them that are left, then those that they were before; items so far
    are in reverse order. -/
def Partial.drain : Nat → Partial → List Octets → List Octets → List Octets × Partial
  | 0, g, _, done => (done, g)
  | _, g, [], done => (done, g)
  | n + 1, g, a :: queue, done =>
    let later := ((g.get? a).getD (0, [])).2
    let (g, freed) := later.foldl (fun (g, freed) b =>
      let left := ((g.get? b).getD (1, [])).1 - 1
      (Table.modify g b fun (_, l) => (left, l), if left = 0 then b :: freed else freed))
      (Table.erase g a, [])
    Partial.drain n g (queue ++ freed.reverse) (a :: done)

/-- Go back from an item to one that has to come before it, until one comes again. -/
def Partial.loopFrom (g : Partial) : Nat → List Octets → Octets → List Octets
  | 0, seen, _ => seen
  | n + 1, seen, a =>
    if seen.contains a then seen
    else match g.find? fun e => e.2.2.contains a with
      | some e => Partial.loopFrom g n (a :: seen) e.1
      | none => a :: seen

/-- All items in order; a loop is cut open somewhere.  Also whether there was none. -/
def Partial.order : Nat → Partial → List Octets → Bool → List Octets × Bool
  | 0, _, done, fine => (done.reverse, fine)
  | n + 1, g, done, fine =>
    let free := (g.filter fun e => e.2.1 == 0).map (·.1)
    match free.mergeSort fun a b => !Octets.before b a with
    | [] =>
      match (g.loopFrom g.length [] ((g.map (·.1)).headD [])).head? with
      | some a => if g.isEmpty then (done.reverse, fine)
        else Partial.order n (Table.modify g a fun (_, l) => (0, l)) done false
      | none => (done.reverse, fine)
    | free =>
      let (done, g) := Partial.drain (g.length + 1) g free done
      Partial.order n g done fine

/-- Print items in an order in which each pair stays in order. -/
def tsort : Tool := withOptions (OptionSpec.of "" []) 1 fun s p => do
  match p.operands.drop 1 with
  | _ :: _ => s.fail 1 "extra operand"
  | [] =>
    let path := p.operands.headD ['-']
    match ← Input.content path with
    | .error e =>
      s.complainOf path e
      return 1
    | .ok t =>
      let words := (Octets.fields ' ' (t.map fun c =>
        if Octets.isBlank c || c == '\n' then ' ' else c)).filter fun w => !w.isEmpty
      match pairsOf? words with
      | none => s.fail 1 "odd number of items"
      | some pairs =>
        let g := pairs.foldl (fun g e => Partial.addPair g e.1 e.2) ([] : Partial)
        let (items, fine) := Partial.order (2 * g.length + 2) g [] true
        if !fine then s.complain "input contains a loop"
        let ok ← Sys.print (Octets.unlines items)
        return statusOf (ok && fine)

end Tool

end FenceSync.Shell
