import FenceSync.Regex.Posix
import FenceSync.Shell.Builtin.Session

namespace FenceSync.Shell

/-!
# Conditions

What stands between double brackets: words are neither split nor taken as file names, and texts can
be matched against patterns and regular expressions.

* `Sh.holds` decides a condition.
-/

namespace Sh

/-- A regular expression in which quoted characters stand for themselves. -/
def regexText (w : Marked) : Octets :=
  w.flatMap fun c =>
    if c.2 && ".*+?()[]\x7b\x7d|^$\\".toList.contains c.1 then ['\\', c.1] else [c.1]

/-- Match a text against a regular expression, and keep what its groups hold. -/
def matchRegex (t : Octets) (w : Marked) : Sh Bool := do
  let anyCase ← option "nocasematch"
  let recase (t : Text) : Text := if anyCase then t.map Char.toLower else t
  match Regex.extended? (recase (Octets.toText (regexText w))) with
  | none =>
    setStatus 2
    return false
  | some r =>
    let chars ← characters t
    match r.search? (recase chars) with
    | none =>
      putValue "BASH_REMATCH".toList (.list [])
      return false
    | some (p, q) =>
      let whole := (chars.drop p.pos).take (q.pos - p.pos)
      let groups := (List.range r.groupCount).map fun k => (q.held (k + 1)).getD []
      let found ← (whole :: groups).mapM octets
      putValue "BASH_REMATCH".toList (.list (found.zipIdx.map fun (t, k) => (k, t)))
      return true

/-- Match a text against a pattern. -/
def matchPattern (t : Octets) (w : Marked) : Sh Bool := do
  let ps ← pattern true w
  return Pattern.accepts (← option "nocasematch") ps (← characters t)

/-- A test of one word. -/
def holdsUnary (op : Octets) (t : Octets) : Sh Bool := do
  let hooks : Hooks := default
  Builtin.test hooks "test".toList [op, t]
  return (← get).status == 0

/-- Decide a condition. -/
def holds (h : Hooks) : Condition → Sh Bool
  | .word w => do return !(← textOf h w).isEmpty
  | .unary op w => do
    let t ← textOf h w
    match op with
    | ['-', 'n'] => return !t.isEmpty
    | ['-', 'z'] => return t.isEmpty
    | op => holdsUnary op t
  | .binary op a b => do
    let s ← textOf h a
    match Octets.toString op with
    | "==" | "=" => matchPattern s (← markedOf h b)
    | "!=" => return !(← matchPattern s (← markedOf h b))
    | "=~" => matchRegex s (← markedOf h b)
    | "<" => return Octets.before s (← textOf h b)
    | ">" => return Octets.before (← textOf h b) s
    | "-nt" | "-ot" | "-ef" => FileTest.relates true (Octets.toString op) s (← textOf h b)
    | op =>
      let t ← textOf h b
      match ← compute? s, ← compute? t with
      | .ok m, .ok n =>
        match op with
        | "-eq" => return m == n
        | "-ne" => return m != n
        | "-lt" => return m < n
        | "-le" => return m ≤ n
        | "-gt" => return n < m
        | _ => return n ≤ m
      | .error text, _ | _, .error text =>
        complain s!"arithmetic expression: {text}"
        return false
  | .not c => do return !(← holds h c)
  | .and c d => do if ← holds h c then holds h d else return false
  | .or c d => do if ← holds h c then return true else holds h d

end Sh

end FenceSync.Shell
