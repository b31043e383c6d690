import FenceSync.Shell.State

namespace FenceSync.Shell

/-!
# Arithmetic

Numbers have 64 bits and wrap around.

* `Expr` is an expression, and `Expr.ofOctets?` reads one.
* `Expr.eval` computes it; variables that hold no number are read as expressions in one dialect.
* `Sh.compute` reads and computes a text.
-/

/-- Operators between two operands. -/
inductive BinaryOp where
  | add | sub | mul | div | mod | power
  | shiftLeft | shiftRight
  | lt | le | gt | ge | eq | ne
  | bitAnd | bitXor | bitOr
  deriving DecidableEq, Repr

/-- An expression. -/
inductive Expr where
  | number (n : Int)
  /-- A variable, or an element of a list by the text between the brackets. -/
  | variable (name : Octets) (sub : Option Octets)
  | negative (e : Expr)
  | complement (e : Expr)
  | not (e : Expr)
  | binary (op : BinaryOp) (e f : Expr)
  | and (e f : Expr)
  | or (e f : Expr)
  | choose (test e f : Expr)
  /-- An assignment, by way of an operator or not. -/
  | assign (name : Octets) (sub : Option Octets) (op : Option BinaryOp) (e : Expr)
  /-- A variable is changed by one; its value before or after. -/
  | step (name : Octets) (sub : Option Octets) (amount : Int) (after : Bool)
  | sequence (e f : Expr)
  deriving Repr, Inhabited

namespace Expr

/-! ### Reading -/

/-- A text without white space in front. -/
def skip (t : Octets) : Octets := t.dropWhile Octets.isSpace

/-- What follows an operator, if it comes next and none of the longer ones does. -/
def operator? (op : String) (notBefore : List Char) (t : Octets) : Option Octets :=
  (Text.after? op.toList (skip t)).filter fun r => !(r.head?.any notBefore.contains)

/-- The operators by level, the weakest first; each with the characters that must not follow. -/
def levels : List (List (String × List Char × BinaryOp)) := [
  [("|", ['|', '='], .bitOr)],
  [("^", ['='], .bitXor)],
  [("&", ['&', '='], .bitAnd)],
  [("==", [], .eq), ("!=", [], .ne)],
  [("<=", [], .le), (">=", [], .ge), ("<", ['<'], .lt), (">", ['>'], .gt)],
  [("<<", ['='], .shiftLeft), (">>", ['='], .shiftRight)],
  [("+", ['='], .add), ("-", ['='], .sub)],
  [("*", ['*', '='], .mul), ("/", ['='], .div), ("%", ['='], .mod)]]

/-- The operators of assignments. -/
def assignments : List (String × Option BinaryOp) := [
  ("<<=", some .shiftLeft), (">>=", some .shiftRight), ("+=", some .add), ("-=", some .sub),
  ("*=", some .mul), ("/=", some .div), ("%=", some .mod), ("&=", some .bitAnd),
  ("^=", some .bitXor), ("|=", some .bitOr)]

/-- Reading a part: the result and what follows. -/
abbrev Step := Octets → Option (Expr × Octets)

/-- The value of a digit in a base up to 64. -/
def wideDigit? (base : Nat) (c : Char) : Option Nat :=
  let v :=
    if c.isDigit then some (c.toNat - 48)
    else if c.isLower then some (c.toNat - 87)
    else if c.isUpper then some (if base ≤ 36 then c.toNat - 55 else c.toNat - 29)
    else if c = '@' then some 62
    else if c = '_' then some 63
    else none
  v.filter fun n => n < base

/-- The value of a numeral, which starts with a digit. -/
def numeral? (bash : Bool) (w : Octets) : Option Int :=
  match w.span (· != '#') with
  | (b, '#' :: ds) =>
    if !bash then none
    else (Octets.nat? b).bind fun base =>
      if base < 2 ∨ 64 < base ∨ ds = [] then none
      else (ds.foldlM (fun n c => (wideDigit? base c).map (base * n + ·)) 0).map fun n : Nat => n
  | _ =>
    match w with
    | '0' :: 'x' :: ds | '0' :: 'X' :: ds => (Octets.natIn? 16 ds).map fun n : Nat => n
    | '0' :: d :: ds => (Octets.natIn? 8 (d :: ds)).map fun n : Nat => n
    | ds => (Octets.nat? ds).map fun n : Nat => n

/-- The text between brackets and what follows; `depth` counts further brackets, and the text is in
    reverse order. -/
def cutBrackets : Nat → Octets → Octets → Option (Octets × Octets)
  | _, _, [] => none
  | depth, done, '[' :: t => cutBrackets (depth + 1) ('[' :: done) t
  | 0, done, ']' :: t => some (done.reverse, t)
  | depth + 1, done, ']' :: t => cutBrackets depth (']' :: done) t
  | depth, done, c :: t => cutBrackets depth (c :: done) t

/-- Read a name and a subscript. -/
def readName? (bash : Bool) (t : Octets) : Option ((Octets × Option Octets) × Octets) :=
  let t := skip t
  let name := t.takeWhile Octets.inName
  if !Octets.isName name then none
  else match t.drop name.length with
    | '[' :: r =>
      if bash then (cutBrackets 0 [] r).map fun (sub, rest) => ((name, some sub), rest)
      else some ((name, none), '[' :: r)
    | r => some ((name, none), r)

/-- Read a numeral, a variable or an expression in parentheses. -/
def primary (bash : Bool) (inner : Step) : Step := fun t =>
  match skip t with
  | '(' :: r =>
    match inner r with
    | some (e, r) =>
      match skip r with
      | ')' :: r => some (e, r)
      | _ => none
    | none => none
  | c :: r =>
    if c.isDigit then
      let w := (c :: r).takeWhile fun d => Octets.inName d || d == '#' || d == '@'
      (numeral? bash w).map fun n => (.number n, (c :: r).drop w.length)
    else match readName? bash (c :: r) with
      | none => none
      | some ((name, sub), r) =>
        if !bash then some (.variable name sub, r)
        else match operator? "++" [] r with
          | some r => some (.step name sub 1 false, r)
          | none =>
            match operator? "--" [] r with
            | some r => some (.step name sub (-1) false, r)
            | none => some (.variable name sub, r)
  | [] => none

/-- Read an operand with its signs, in at most so many steps. -/
def operand (bash : Bool) (inner : Step) : Nat → Step
  | 0, _ => none
  | n + 1, t =>
    let changed (r : Octets) (amount : Int) : Option (Expr × Octets) :=
      (readName? bash r).map fun ((name, sub), r) => (.step name sub amount true, r)
    let after (r : Octets) (f : Expr → Expr) : Option (Expr × Octets) :=
      (operand bash inner n r).map fun (e, r) => (f e, r)
    match skip t with
    | '+' :: '+' :: r =>
      if bash then (changed r 1).or (after ('+' :: r) id) else after ('+' :: r) id
    | '-' :: '-' :: r =>
      if bash then (changed r (-1)).or (after ('-' :: r) .negative)
      else after ('-' :: r) .negative
    | '+' :: r => after r id
    | '-' :: r => after r .negative
    | '~' :: r => after r .complement
    | '!' :: r => after r .not
    | r => primary bash inner r

/-- Read powers, in at most so many steps. -/
def powers (bash : Bool) (inner : Step) : Nat → Step
  | 0, _ => none
  | n + 1, t =>
    match operand bash inner (t.length + 1) t with
    | none => none
    | some (e, r) =>
      match if bash then operator? "**" ['='] r else none with
      | some r => (powers bash inner n r).map fun (f, r) => (.binary .power e f, r)
      | none => some (e, r)

/-- Read further operands of one level behind an expression, in at most so many steps. -/
def chainFrom (ops : List (String × List Char × BinaryOp)) (higher : Step) :
    Nat → Expr → Octets → Option (Expr × Octets)
  | 0, e, t => some (e, t)
  | n + 1, e, t =>
    match ops.findSome? fun (op, notBefore, b) =>
        (operator? op notBefore t).map fun r => (b, r) with
    | none => some (e, t)
    | some (b, r) =>
      match higher r with
      | none => none
      | some (f, r) => chainFrom ops higher n (.binary b e f) r

/-- Read operands of some levels. -/
def chains (bash : Bool) (inner : Step) :
    List (List (String × List Char × BinaryOp)) → Step
  | [], t => powers bash inner (t.length + 1) t
  | ops :: more, t =>
    match chains bash inner more t with
    | none => none
    | some (e, r) => chainFrom ops (chains bash inner more) (t.length + 1) e r

/-- Read further operands of a logical operator. -/
def logicFrom (op : String) (join : Expr → Expr → Expr) (higher : Step) :
    Nat → Expr → Octets → Option (Expr × Octets)
  | 0, e, t => some (e, t)
  | n + 1, e, t =>
    match operator? op [] t with
    | none => some (e, t)
    | some r =>
      match higher r with
      | none => none
      | some (f, r) => logicFrom op join higher n (join e f) r

/-- Read operands between `&&`. -/
def conjunction (bash : Bool) (inner : Step) : Step := fun t =>
  (chains bash inner levels t).bind fun (e, r) =>
    logicFrom "&&" .and (chains bash inner levels) (t.length + 1) e r

/-- Read operands between `||`. -/
def disjunction (bash : Bool) (inner : Step) : Step := fun t =>
  (conjunction bash inner t).bind fun (e, r) =>
    logicFrom "||" .or (conjunction bash inner) (t.length + 1) e r

/-- Read an expression without commas, or with them; in at most so many nested steps. -/
def read (bash : Bool) : Nat → Bool → Step
  | 0, _, _ => none
  | n + 1, commas, t =>
    let whole := read bash n bash
    let single := read bash n false
    let assigned : Option (Expr × Octets) :=
      match readName? bash t with
      | none => none
      | some ((name, sub), r) =>
        let found := (operator? "=" ['='] r).map fun r => ((none : Option BinaryOp), r)
        let found := found.or (assignments.findSome? fun (op, b) =>
          (operator? op [] r).map fun r => (b, r))
        match found with
        | none => none
        | some (b, r) => (single r).map fun (e, r) => (.assign name sub b e, r)
    let conditional : Option (Expr × Octets) :=
      match disjunction bash whole t with
      | none => none
      | some (e, r) =>
        match operator? "?" [] r with
        | none => some (e, r)
        | some r =>
          match whole r with
          | none => none
          | some (f, r) =>
            match operator? ":" [] r with
            | none => none
            | some r => (single r).map fun (g, r) => (.choose e f g, r)
    match assigned.or conditional with
    | none => none
    | some (e, r) =>
      if !commas then some (e, r)
      else match operator? "," [] r with
        | some r => (read bash n true r).map fun (f, r) => (.sequence e f, r)
        | none => some (e, r)

/-- Read a text; an empty one stands for zero. -/
def ofOctets? (bash : Bool) (t : Octets) : Option Expr :=
  if (skip t).isEmpty then some (.number 0)
  else match read bash (t.length + 2) bash t with
    | some (e, r) => if (skip r).isEmpty then some e else none
    | none => none

/-! ### Computing -/

/-- One more than the largest number of 64 bits. -/
def modulus : Nat := 18446744073709551616

/-- A number wrapped around. -/
def wrap (n : Int) : Int := Int.bmod n modulus

/-- The bits of a number. -/
def bits (n : Int) : Nat := (n % modulus).toNat

/-- A truth value as a number. -/
def ofBool (b : Bool) : Int := if b then 1 else 0

/-- A power, wrapped around at every step. -/
def power (b : Int) : Nat → Int
  | 0 => 1
  | n + 1 => wrap (b * power b n)

/-- Compute a binary operator. -/
def compute (op : BinaryOp) (m n : Int) : Except String Int :=
  match op with
  | .add => .ok (wrap (m + n))
  | .sub => .ok (wrap (m - n))
  | .mul => .ok (wrap (m * n))
  | .div => if n = 0 then .error "division by zero" else .ok (wrap (Int.tdiv m n))
  | .mod => if n = 0 then .error "division by zero" else .ok (wrap (Int.tmod m n))
  | .power =>
    if n < 0 then .error "exponent less than 0"
    else .ok (power m (if 64 ≤ n ∧ m % 2 = 0 then 64 else n.toNat))
  | .shiftLeft => .ok (wrap ((bits m <<< (bits n % 64) : Nat) : Int))
  | .shiftRight => .ok (m >>> (bits n % 64))
  | .lt => .ok (ofBool (decide (m < n)))
  | .le => .ok (ofBool (decide (m ≤ n)))
  | .gt => .ok (ofBool (decide (n < m)))
  | .ge => .ok (ofBool (decide (n ≤ m)))
  | .eq => .ok (ofBool (decide (m = n)))
  | .ne => .ok (ofBool (decide (m ≠ n)))
  | .bitAnd => .ok (wrap ((bits m &&& bits n : Nat) : Int))
  | .bitXor => .ok (wrap ((bits m ^^^ bits n : Nat) : Int))
  | .bitOr => .ok (wrap ((bits m ||| bits n : Nat) : Int))

/-- Computing can fail with a message. -/
abbrev Calc := ExceptT String Sh

/-- A step of the shell. -/
def sh {α : Type} (a : Sh α) : Calc α := ExceptT.lift a

/-- The number that a whole text stands for in the simpler dialect. -/
def plainNumber? (t : Octets) : Option Int :=
  let (minus, ds) := Octets.cutSign (skip t)
  (numeral? false ds).map fun n => if minus then -n else n

/-- Compute the number of an element. -/
def elementIndex (evalText : Octets → Calc Int) (es : List (Nat × Octets)) (sub : Octets) :
    Calc Nat := do
  let n ← evalText sub
  if n < 0 then
    let last : Nat := (es.getLast?.map fun e => e.1 + 1).getD 0
    if n + last < 0 then throw "bad array subscript" else return (n + last).toNat
  else return n.toNat

/-- The text of a variable or an element. -/
def load (evalText : Octets → Calc Int) (name : Octets) (sub : Option Octets) :
    Calc (Option Octets) := do
  match sub with
  | none =>
    if let some t ← sh (Sh.value? name) then return some t
    -- the arguments of the shell
    return none
  | some sub =>
    match ((← sh (Sh.binding? name)).map Variable.value).getD .unset with
    | .map es => return es.get? sub
    | .list es => return es.lookup (← elementIndex evalText es sub)
    | .text t => return if (← evalText sub) = 0 then some t else none
    | .unset => return none

/-- Set a variable or an element to a number. -/
def store (evalText : Octets → Calc Int) (name : Octets) (sub : Option Octets) (n : Int) :
    Calc Unit := do
  let t := Octets.ofInt n
  match sub with
  | none => sh (Sh.putText name t)
  | some sub =>
    match ((← sh (Sh.binding? name)).map Variable.value).getD .unset with
    | .map es => sh (Sh.putValue name (.map (es.set sub t)))
    | .list es =>
      let i ← elementIndex evalText es sub
      sh (Sh.putValue name (.list (insertElement i t es)))
    | .text u =>
      let i ← elementIndex evalText [(0, u)] sub
      sh (Sh.putValue name (.list (insertElement i t [(0, u)])))
    | .unset =>
      let i ← elementIndex evalText [] sub
      sh (Sh.putValue name (.list [(i, t)]))

/-- The number that a variable holds. -/
def numberOf (evalText : Octets → Calc Int) (name : Octets) (t : Option Octets) : Calc Int := do
  match t with
  | none =>
    if ← sh (Sh.flag 'u') then throw s!"{Octets.toString name}: unbound variable" else return 0
  | some t =>
    if ← sh Sh.isBash then evalText t
    else if (skip t).isEmpty then return 0
    else match plainNumber? t with
      | some n => return n
      | none => throw s!"Illegal number: {Octets.toString t}"

/-- Compute an expression; `evalText` reads and computes the text of a variable or a subscript. -/
def evalWith (evalText : Octets → Calc Int) : Expr → Calc Int
  | .number n => return wrap n
  | .variable name sub => do numberOf evalText name (← load evalText name sub)
  | .negative e => do return wrap (-(← evalWith evalText e))
  | .complement e => do return wrap (-(← evalWith evalText e) - 1)
  | .not e => do return ofBool ((← evalWith evalText e) == 0)
  | .binary op e f => do
    let m ← evalWith evalText e
    let n ← evalWith evalText f
    match compute op m n with
    | .ok r => return r
    | .error text => throw text
  | .and e f => do
    if (← evalWith evalText e) = 0 then return 0
    else return ofBool ((← evalWith evalText f) != 0)
  | .or e f => do
    if (← evalWith evalText e) ≠ 0 then return 1
    else return ofBool ((← evalWith evalText f) != 0)
  | .choose e f g => do
    if (← evalWith evalText e) ≠ 0 then evalWith evalText f else evalWith evalText g
  | .assign name sub op e => do
    match op with
    | none =>
      let n ← evalWith evalText e
      store evalText name sub n
      return n
    | some op =>
      let m ← numberOf evalText name (← load evalText name sub)
      let n ← evalWith evalText e
      match compute op m n with
      | .ok r =>
        store evalText name sub r
        return r
      | .error text => throw text
  | .step name sub amount after => do
    let m ← numberOf evalText name (← load evalText name sub)
    let n := wrap (m + amount)
    store evalText name sub n
    return if after then n else m
  | .sequence e f => do
    discard (evalWith evalText e)
    evalWith evalText f

/-- Read and compute a text; variables lead to further texts at most so many times. -/
def evalText : Nat → Octets → Calc Int
  | 0, _ => throw "expression recursion level exceeded"
  | n + 1, t => do
    let bash ← sh Sh.isBash
    match ofOctets? bash t with
    | some e => evalWith (evalText n) e
    | none => throw s!"syntax error: \"{Octets.toString t}\""

/-- How far variables lead to further texts. -/
def depthLimit : Nat := 200

end Expr

namespace Sh

/-- Read and compute a text. -/
def compute? (t : Octets) : Sh (Except String Int) := (Expr.evalText Expr.depthLimit t).run

/-- Read and compute a text; what is run is given up at a fault. -/
def compute (t : Octets) : Sh Int := do
  match ← compute? t with
  | .ok n => return n
  | .error text => giveUp .number s!"arithmetic expression: {text}"

/-- Read and compute the text of a subscript or of a number; a fault ends the shell. -/
def computeOrEnd (t : Octets) : Sh Int := do
  match ← compute? t with
  | .ok n => return n
  | .error text => fail (if ← isBash then 1 else 2) s!"arithmetic expression: {text}"

end Sh

end FenceSync.Shell
