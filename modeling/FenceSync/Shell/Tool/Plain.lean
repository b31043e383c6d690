import FenceSync.Shell.Test
import FenceSync.Shell.Tool.Basic

namespace FenceSync.Shell

/-!
# Programs that only print or decide

* `Tool.echo`, `Tool.printf` and `Tool.yes` print their arguments.
* `Tool.test` decides a test.
* `Tool.basename` and `Tool.dirname` take paths apart.
-/

namespace Tool

/-- Do nothing, with a status. -/
def succeed (status : Nat) : Tool := fun _ _ => return status

/-- Print the arguments. -/
def echo : Tool := fun _ args => do
  return if ← Sys.print (Echo.run .program false args) then 0 else 1

/-- Fill arguments into a format. -/
def printf : Tool := fun s args => do
  match if args.head? = some ['-', '-'] then args.drop 1 else args with
  | [] => s.fail 1 "missing operand"
  | format :: rest =>
    let r := Printf.run .program format rest
    for t in r.faults do
      s.complain t
    let ok ← Sys.print r.out
    return if ok && r.faults.isEmpty then 0 else 1

/-- Print a line again and again, at most so many times. -/
def yesFrom (t : Octets) : Nat → Prog Nat
  | 0 => return 0
  | n + 1 => do if ← Sys.print t then yesFrom t n else return 1

/-- Print a line again and again. -/
def yes : Tool := fun _ args => do
  let line := Octets.join [' '] (if args.isEmpty then [['y']] else args) ++ ['\n']
  let block := (List.replicate (1 + 4096 / line.length) line).flatten
  yesFrom block 1000000000

/-- Decide a test. -/
def test : Tool := fun s args => do
  match if s.name = ['['] then TestExpr.unbracketed? args else some args with
  | none => s.fail 2 "missing ]"
  | some args =>
    match TestExpr.ofArgs .program args with
    | .error t => s.fail 2 t
    | .ok e =>
      match ← TestExpr.eval .program (fun _ _ => none) e with
      | .ok b => return if b then 0 else 1
      | .error t => s.fail 2 t

/-- A path without slashes at its end, if it has anything else. -/
def withoutSlashes (t : Octets) : Octets :=
  match (t.reverse.dropWhile (· == '/')).reverse with
  | [] => if t.isEmpty then [] else ['/']
  | u => u

/-- The last name of a path. -/
def lastName (t : Octets) : Octets :=
  let t := withoutSlashes t
  if t = ['/'] then t else (t.reverse.takeWhile (· != '/')).reverse

/-- A name without an ending, unless it is nothing else. -/
def withoutEnding (ending t : Octets) : Octets :=
  if ending.isSuffixOf t && ending ≠ t then t.take (t.length - ending.length) else t

/-- Print the last names of paths. -/
def basename : Tool :=
  withOptions ((OptionSpec.of "as:z" [("multiple", "a"), ("suffix", "s"), ("zero", "z")]).ordered) 1
    fun s p => do
  let stop := if p.has "z" then '\x00' else '\n'
  let several := p.has "a" || p.has "s"
  match p.operands with
  | [] => s.fail 1 "missing operand"
  | first :: rest =>
    if !several && 1 < rest.length then s.fail 1 "extra operand"
    else
      let ending := if several then (p.value? "s").getD [] else rest.headD []
      let names := if several then first :: rest else [first]
      Sys.printStatus (names.flatMap fun n => withoutEnding ending (lastName n) ++ [stop])

/-- The directory of a path. -/
def dirOf (t : Octets) : Octets :=
  let t := withoutSlashes t
  if t = ['/'] then t
  else
    let front := t.take (t.length - (t.reverse.takeWhile (· != '/')).length)
    if front.isEmpty then ['.'] else withoutSlashes front

/-- Print the directories of paths. -/
def dirname : Tool := withOptions (OptionSpec.of "z" [("zero", "z")]) 1 fun s p => do
  let stop := if p.has "z" then '\x00' else '\n'
  if p.operands.isEmpty then s.fail 1 "missing operand"
  else Sys.printStatus (p.operands.flatMap fun n => dirOf n ++ [stop])

end Tool

end FenceSync.Shell
