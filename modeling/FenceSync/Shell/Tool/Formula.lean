import FenceSync.Regex.Posix
import FenceSync.Shell.Tool.Basic

namespace FenceSync.Shell

/-!
# Formulas of words

Each word of the arguments is an operator, a bracket or a value.

* `Formula.ofWords?` reads words, and `Formula.eval` finds the value.
* `Tool.expr` prints it.
-/

/-- What a formula is worth. -/
inductive FormulaValue where
  | int (n : Int)
  | text (t : Octets)
  deriving DecidableEq, Repr, Inhabited

namespace FormulaValue

/-- The value as a text. -/
def shown : FormulaValue → Octets
  | .int n => Octets.ofInt n
  | .text t => t

/-- The value as a number. -/
def int? : FormulaValue → Option Int
  | .int n => some n
  | .text t => match t with
    | '-' :: ds => (Octets.nat? ds).map fun n => -(n : Int)
    | ds => (Octets.nat? ds).map fun n => (n : Int)

/-- The value counts as nothing: it is zero or empty. -/
def isNull : FormulaValue → Bool
  | .int n => n == 0
  | .text [] => true
  | .text ('-' :: ds) => !ds.isEmpty && ds.all (· == '0')
  | .text ds => ds.all (· == '0')

end FormulaValue

/-- A formula. -/
inductive Formula where
  | value (t : Octets)
  /-- An operator between two formulas. -/
  | pair (op : String) (a b : Formula)
  | length (a : Formula)
  | index (a b : Formula)
  | part (a b c : Formula)
  deriving Repr, Inhabited

namespace Formula

/-- Operators, those that bind weakest first; a level holds those that bind alike. -/
def levels : List (List String) :=
  [["|"], ["&"], ["<", "<=", "=", "==", "!=", ">=", ">"], ["+", "-"], ["*", "/", "%"], [":"]]

/-- Read a formula whose operators bind at least as strong as those of the first level given, in at
    most so many steps. -/
def read? : Nat → List (List String) → List Octets → Option (Formula × List Octets)
  | 0, _, _ => none
  | n + 1, ops :: stronger, ws => do
    let (a, ws) ← read? n stronger ws
    rest n ops stronger a ws
  | n + 1, [], w :: ws =>
    match Octets.toString w with
    | "+" => match ws with
      | v :: ws => some (.value v, ws)
      | [] => none
    | "length" => do
      let (a, ws) ← read? n [] ws
      return (.length a, ws)
    | "match" => do
      let (a, ws) ← read? n [] ws
      let (b, ws) ← read? n [] ws
      return (.pair ":" a b, ws)
    | "index" => do
      let (a, ws) ← read? n [] ws
      let (b, ws) ← read? n [] ws
      return (.index a b, ws)
    | "substr" => do
      let (a, ws) ← read? n [] ws
      let (b, ws) ← read? n [] ws
      let (c, ws) ← read? n [] ws
      return (.part a b c, ws)
    | "(" => match read? n levels ws with
      | some (a, [')'] :: ws) => some (a, ws)
      | _ => none
    | ")" => none
    | _ => some (.value w, ws)
  | _ + 1, [], [] => none
where
  /-- Read what follows a formula by operators of one level. -/
  rest : Nat → List String → List (List String) → Formula → List Octets →
      Option (Formula × List Octets)
    | 0, _, _, _, _ => none
    | n + 1, ops, stronger, a, ws =>
      match ws with
      | [] => some (a, [])
      | w :: more =>
        if ops.contains (Octets.toString w) then do
          let (b, ws) ← read? n stronger more
          rest n ops stronger (.pair (Octets.toString w) a b) ws
        else some (a, ws)

/-- Read words as a formula. -/
def ofWords? (ws : List Octets) : Option Formula :=
  match read? (20 * (ws.length + 1)) levels ws with
  | some (a, []) => some a
  | _ => none

/-- How much of a text an expression matches at its start, or the text of its first group. -/
def matched (t pattern : Octets) : Except String FormulaValue :=
  match Regex.basic? (Octets.toText pattern) with
  | none => .error "invalid regular expression"
  | some r =>
    match r.longestAt (Spot.start (Octets.toText t)) with
    | some p =>
      if 0 < r.groupCount then .ok (.text (Octets.ofText ((p.held 1).getD [])))
      else .ok (.int p.pos)
    | none => .ok (if 0 < r.groupCount then .text [] else .int 0)

/-- What a comparison says of an order. -/
def compares (op : String) (o : Ordering) : Bool :=
  match op with
  | "<" => o == .lt
  | "<=" => o != .gt
  | "=" | "==" => o == .eq
  | "!=" => o != .eq
  | ">=" => o != .lt
  | _ => o == .gt

/-- Compute with two numbers. -/
def compute (op : String) (m n : Int) : Except String FormulaValue :=
  match op with
  | "+" => .ok (.int (m + n))
  | "-" => .ok (.int (m - n))
  | "*" => .ok (.int (m * n))
  | _ =>
    if n = 0 then .error "division by zero"
    else if op = "/" then .ok (.int (Int.tdiv m n))
    else .ok (.int (Int.tmod m n))

/-- The value of a formula. -/
def eval : Formula → Except String FormulaValue
  | .value t => .ok (.text t)
  | .pair "|" a b => do
    let x ← eval a
    if !x.isNull then return x
    let y ← eval b
    return if y.isNull then .int 0 else y
  | .pair "&" a b => do
    let x ← eval a
    if x.isNull then return .int 0
    let y ← eval b
    return if y.isNull then .int 0 else x
  | .pair op a b => do
    let x ← eval a
    let y ← eval b
    if op = ":" then matched x.shown y.shown
    else if ["<", "<=", "=", "==", "!=", ">=", ">"].contains op then
      let order := match x.int?, y.int? with
        | some m, some n => compare m n
        | _, _ => compare x.shown y.shown
      return .int (if compares op order then 1 else 0)
    else match x.int?, y.int? with
      | some m, some n => compute op m n
      | _, _ => .error "non-integer argument"
  | .length a => do return .int (Octets.toText (← eval a).shown).length
  | .index a b => do
    let t := Octets.toText (← eval a).shown
    let set := Octets.toText (← eval b).shown
    return .int (match t.findIdx? set.contains with
      | some n => n + 1
      | none => 0)
  | .part a b c => do
    let t := Octets.toText (← eval a).shown
    match (← eval b).int?, (← eval c).int? with
    | some m, some n =>
      if m ≤ 0 ∨ n ≤ 0 then return .text []
      else return .text (Octets.ofText ((t.drop (m.toNat - 1)).take n.toNat))
    | _, _ => return .text []

end Formula

namespace Tool

/-- Print what a formula is worth; the status says whether that is nothing. -/
def expr : Tool := fun s args => do
  let args := if args.head? = some ['-', '-'] then args.drop 1 else args
  match Formula.ofWords? args with
  | none => s.fail 2 "syntax error"
  | some f => match f.eval with
    | .error t => s.fail 2 t
    | .ok v =>
      discard (Sys.print (v.shown ++ ['\n']))
      return if v.isNull then 1 else 0

end Tool

end FenceSync.Shell
