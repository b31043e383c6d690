import FenceSync.Shell.Expand

namespace FenceSync.Shell

/-!
# Assignments

* `Sh.assignText` sets a variable as its attributes say, and `Sh.assignElement` an element.
* `Sh.assign` carries out an assignment of a script.
* `Sh.withAssigned` runs something with variables set for a while.
-/

namespace Sh

/-- What is assigned to a variable, given what it holds so far. -/
def assigned (v : Variable) (append : Bool) (old t : Octets) : Sh Octets := do
  if v.number then
    let n ← computeOrEnd t
    let m ← if append then computeOrEnd old else pure 0
    return Octets.ofInt (Expr.wrap (m + n))
  else return if append then old ++ t else t

/-- Set a variable to a text, or append to it. -/
def assignText (name : Octets) (append : Bool) (t : Octets) : Sh Unit := do
  let v ← variableOrNew name
  putText name (← assigned v append (v.text?.getD []) t)

/-- The elements of a variable that holds no keys. -/
def numbered (v : Value) : List (Nat × Octets) :=
  match v with
  | .list es => es
  | .text t => [(0, t)]
  | _ => []

/-- The number of the element behind the last one. -/
def nextNumber (es : List (Nat × Octets)) : Nat := (es.getLast?.map fun e => e.1 + 1).getD 0

/-- Set an element of a variable, or append to it; the key is a text of which the number is
    computed. -/
def assignElement (name key : Octets) (append : Bool) (t : Octets) : Sh Unit := do
  let v ← variableOrNew name
  match v.value with
  | .map es =>
    if key.isEmpty then giveUp .fixed s!"{Octets.toString name}: bad array subscript"
    putValue name (.map (es.set key (← assigned v append ((es.get? key).getD []) t)))
  | value =>
    let es := numbered value
    let n ← computeOrEnd key
    let n := if n < 0 then n + nextNumber es else n
    if n < 0 then
      giveUp .fixed s!"{Octets.toString name}[{Octets.toString key}]: bad array subscript"
    else
      let t ← assigned v append ((es.lookup n.toNat).getD []) t
      putValue name (.list (insertElement n.toNat t es))

/-- The text between the brackets of an element: a key or an expression. -/
def keyText (h : Hooks) (isMap : Bool) (sub : Word) : Sh Octets := do
  if isMap then textOf h sub
  else return Marked.text (Piece.joined [' '] (← Expand.pieces h .quoted sub))

/-- Assign elements one after the other, those without a key from a number on. -/
def assignElements (h : Hooks) (name : Octets) (isMap : Bool) : Nat → List Element → Sh Unit
  | _, [] => pure ()
  | next, .at sub append w :: es => do
    let key ← keyText h isMap sub
    let t ← textOf h w
    discard (attempt false (assignElement name key append t))
    let next ← if isMap then pure next else do pure ((← computeOrEnd key).toNat + 1)
    assignElements h name isMap next es
  | next, .next w :: es => do
    let ts ← if isMap then pure [] else fields h w
    for (t, k) in ts.zipIdx do
      assignElement name (Octets.ofNat (next + k)) false t
    assignElements h name isMap (next + ts.length) es

/-- Assign keys and values that take turns. -/
def assignPairs (name : Octets) : List Octets → Sh Unit
  | [] => pure ()
  | [k] => assignElement name k false []
  | k :: t :: rest => do
    assignElement name k false t
    assignPairs name rest

/-- Assign a list. -/
def assignList (h : Hooks) (name : Octets) (append : Bool) (es : List Element) : Sh Unit := do
  let v ← variableOrNew name
  let isMap := match v.value with
    | .map _ => true
    | _ => false
  let bare := es.all fun e => match e with
    | .next _ => true
    | .at _ _ _ => false
  -- what is assigned may refer to what the variable holds so far
  if isMap then
    if bare then
      let ts ← es.mapM fun e => match e with
        | .next w => fields h w
        | .at _ _ _ => pure []
      if !append then putValue name (.map [])
      assignPairs name ts.flatten
    else
      if !append then putValue name (.map [])
      assignElements h name true 0 es
  else if bare then
    let ts ← es.mapM fun e => match e with
      | .next w => fields h w
      | .at _ _ _ => pure []
    let ts ← ts.flatten.mapM (assigned v false [])
    let old := if append then numbered v.value else []
    let start := nextNumber old
    putValue name (.list (old ++ ts.zipIdx.map fun (t, k) => (start + k, t)))
  else
    let old := if append then numbered v.value else []
    putValue name (.list old)
    assignElements h name false (nextNumber old) es

/-- Carry out an assignment. -/
def assign (h : Hooks) : Assign → Sh Unit
  | .scalar name none append w => do assignText name append (← textOf h w)
  | .scalar name (some (.at [])) _ _ =>
    giveUp .fixed s!"{Octets.toString name}: bad array subscript"
  | .scalar name (some (.at sub)) append w => do
    let isMap := match (← variableOrNew name).value with
      | .map _ => true
      | _ => false
    let key ← keyText h isMap sub
    assignElement name key append (← textOf h w)
  | .scalar name (some (.all _)) _ _ =>
    giveUp .fixed s!"{Octets.toString name}: bad array subscript"
  | .list name append es => assignList h name append es

/-- The name of the variable that is assigned. -/
def assignName : Assign → Octets
  | .scalar name _ _ _ => name
  | .list name _ _ => name

/-- Set variables for programs as long as something runs. -/
def withAssigned {α : Type} (h : Hooks) (assigns : List Assign) (body : Sh α) : Sh α := do
  let old := (← get).vars
  for a in assigns do
    -- what must not change keeps its value
    let done ← attempt false do
      assign h a
      modify fun s => { s with
        vars := s.vars.modify (assignName a) fun v => { v with exported := true } }
    if !done then
      if ← flag 'e' then throw .quit
  let restored : Sh Unit := modify fun s =>
    { s with vars := assigns.foldl (fun vars a => match old.get? (assignName a) with
        | some v => vars.set (assignName a) v
        | none => vars.erase (assignName a)) s.vars }
  try
    let r ← body
    restored
    return r
  catch j =>
    restored
    throw j

end Sh

end FenceSync.Shell
