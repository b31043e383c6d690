import FenceSync.Shell.Printf

namespace FenceSync.Shell

/-!
# Tests

What stands between brackets, or behind the name `test`.

* `TestExpr` is a test made of others, and `TestExpr.ofArgs` reads one.
* `TestExpr.eval` decides it; `FileTest.holds` is a test of a file.
-/

/-- A test. -/
inductive TestExpr where
  /-- A text that is not empty. -/
  | word (t : Octets)
  | unary (op : Char) (t : Octets)
  | binary (op : Octets) (s t : Octets)
  | not (e : TestExpr)
  | and (e f : TestExpr)
  | or (e f : TestExpr)
  | never
  deriving Repr

namespace FileTest

/-- The permissions of the node at a path. -/
def mode? (path : Octets) : Prog (Option Nat) := do
  match ← Sys.node? true path with
  | some (place, n) => return some (← Sys.modeOf place n)
  | none => return none

/-- Some bits of the permissions are set. -/
def hasBits (bits : Nat) (path : Octets) : Prog Bool := do
  return (← mode? path).any fun m => m &&& bits != 0

/-- A test of a file. -/
def holds (op : Char) (path : Octets) : Prog Bool := do
  match op with
  | 'e' | 'r' | 'w' | 'a' | 'O' | 'G' | 'N' => Sys.existsAt path
  | 'f' =>
    match ← Sys.node? true path with
    | some (_, .file _) => return true
    | _ => return false
  | 'd' => Sys.isDir path
  | 's' =>
    match ← Sys.node? true path with
    | some (_, .file content) => return !content.isEmpty
    | some (_, .dir) => return true
    | _ => return false
  | 'x' =>
    match ← Sys.node? true path with
    | some (_, .dir) => return true
    | some _ => hasBits 0o111 path
    | none => return false
  | 'h' | 'L' =>
    match ← Sys.node? false path with
    | some (_, .link _) => return true
    | _ => return false
  | 'c' =>
    match ← Sys.node? true path with
    | some (_, .null) | some (_, .zeros) | some (_, .full) | some (_, .noise) => return true
    | _ => return false
  | 'u' => hasBits 0o4000 path
  | 'g' => hasBits 0o2000 path
  | 'k' => hasBits 0o1000 path
  | _ => return false

/-- The time of the last change of a file. -/
def time? (path : Octets) : Prog (Option Int) := do
  match ← Sys.node? true path with
  | some (place, _) => return some ((← Sys.tree).mark place).time
  | none => return none

/-- The first file was changed later; if `lenient`, a missing one was never changed. -/
def isNewer (lenient : Bool) (a b : Octets) : Prog Bool := do
  match ← time? a, ← time? b with
  | some s, some t => return t < s
  | some _, none => return lenient
  | _, _ => return false

/-- A test of two files. -/
def relates (lenient : Bool) (op : String) (a b : Octets) : Prog Bool := do
  match op with
  | "-nt" => isNewer lenient a b
  | "-ot" => isNewer lenient b a
  | _ =>
    match ← Sys.node? true a, ← Sys.node? true b with
    | some (p, _), some (q, _) => return p == q
    | _, _ => return false

end FileTest

namespace TestExpr

/-! ### Reading -/

/-- The operators on one text. -/
def unaryOps (s : Speaker) : List Char :=
  "bcdefghkLnOprsStuwxzGN".toList ++ (if s.isBash then ['a', 'o', 'v', 'R'] else [])

/-- The operator on one text. -/
def unaryOp? (s : Speaker) (t : Octets) : Option Char :=
  match t with
  | ['-', c] => if (unaryOps s).contains c then some c else none
  | _ => none

/-- The text is an operator between two others. -/
def isBinaryOp (s : Speaker) (t : Octets) : Bool :=
  (["=", "!=", "-eq", "-ne", "-gt", "-ge", "-lt", "-le", "-nt", "-ot", "-ef", "<", ">"] ++
    if s.isPosix then [] else ["=="]).any fun op => op.toList == t

/-- Reading a part: a test and what follows. -/
abbrev Step := List Octets → Except String (TestExpr × List Octets)

/-- Read a test that is not made of others, or one in parentheses. -/
def primary (s : Speaker) (inner : Step) : Step
  | [] => .error "argument expected"
  | a :: rest =>
    match rest with
    | op :: b :: more =>
      if isBinaryOp s op then .ok (.binary op a b, more)
      else single a rest
    | _ => single a rest
where
  single (a : Octets) (rest : List Octets) : Except String (TestExpr × List Octets) :=
    if a = ['('] then
      match inner rest with
      | .ok (e, b :: more) => if b = [')'] then .ok (e, more) else .error "closing paren expected"
      | .ok (_, []) => .error "closing paren expected"
      | .error t => .error t
    else match unaryOp? s a, rest with
      | some c, b :: more => .ok (.unary c b, more)
      | _, _ => .ok (.word a, rest)

/-- Read a test with marks of negation, in at most so many steps. -/
def negation (s : Speaker) (inner : Step) : Nat → Step
  | 0, _ => .error "too deep"
  | n + 1, as =>
    match as with
    | ['!'] :: rest =>
      if rest.isEmpty then .ok (.word ['!'], [])
      else match negation s inner n rest with
        | .ok (e, more) => .ok (.not e, more)
        | .error t => .error t
    | as => primary s inner as

/-- Read tests with an operator between them, in at most so many steps. -/
def chain (op : String) (join : TestExpr → TestExpr → TestExpr) (higher : Step) : Nat → Step
  | 0, _ => .error "too deep"
  | n + 1, as =>
    match higher as with
    | .error t => .error t
    | .ok (e, a :: more) =>
      if a = op.toList then
        match chain op join higher n more with
        | .ok (f, rest) => .ok (join e f, rest)
        | .error t => .error t
      else .ok (e, a :: more)
    | .ok (e, []) => .ok (e, [])

/-- Read a test, in at most so many nested steps. -/
def read (s : Speaker) : Nat → Step
  | 0, _ => .error "too deep"
  | n + 1, as =>
    let size := as.length + 1
    chain "-o" .or (chain "-a" .and (negation s (read s n) size) size) size as

/-- Read a test of many arguments. -/
def readAll (s : Speaker) (as : List Octets) : Except String TestExpr :=
  match read s (as.length + 1) as with
  | .error t => .error t
  | .ok (e, []) => .ok e
  | .ok (_, a :: _) => .error s!"{Octets.toString a}: unexpected operator"

/-- Read a test of one or two arguments. -/
def ofTwo (s : Speaker) (as : List Octets) : Except String TestExpr :=
  match as with
  | [] => .ok .never
  | [a] => .ok (.word a)
  | [a, b] =>
    if a = ['!'] then .ok (.not (.word b))
    else match unaryOp? s a with
      | some c => .ok (.unary c b)
      | none => .error s!"{Octets.toString a}: unary operator expected"
  | as => readAll s as

/-- Read a test of three arguments. -/
def ofThree (s : Speaker) (as : List Octets) : Except String TestExpr :=
  match as with
  | [a, op, b] =>
    if isBinaryOp s op then .ok (.binary op a b)
    else if op = ['-', 'a'] then .ok (.and (.word a) (.word b))
    else if op = ['-', 'o'] then .ok (.or (.word a) (.word b))
    else if a = ['!'] then (ofTwo s [op, b]).map .not
    else if a = ['('] ∧ b = [')'] then .ok (.word op)
    else .error s!"{Octets.toString op}: binary operator expected"
  | as => ofTwo s as

/-- Read a test from its arguments, whose number decides how they are taken. -/
def ofArgs (s : Speaker) (as : List Octets) : Except String TestExpr :=
  match as with
  | [_, _, _] => ofThree s as
  | [a, b, c, d] =>
    if a = ['!'] then (ofThree s [b, c, d]).map .not
    else if a = ['('] ∧ d = [')'] then ofTwo s [b, c]
    else readAll s as
  | as => if as.length ≤ 2 then ofTwo s as else readAll s as

/-! ### Deciding -/

/-- A number in a test. -/
def number (t : Octets) : Except String Int :=
  let trimmed := ((t.dropWhile Octets.isSpace).reverse.dropWhile Octets.isSpace).reverse
  match Octets.int? trimmed with
  | some n => .ok n
  | none => .error s!"{Octets.toString t}: integer expression expected"

/-- Compare two texts or files, or the numbers they stand for. -/
def compare (s : Speaker) (op : Octets) (a b : Octets) : Prog (Except String Bool) := do
  let numbers (p : Int → Int → Bool) : Except String Bool :=
    match number a, number b with
    | .ok m, .ok n => .ok (p m n)
    | .error t, _ => .error t
    | _, .error t => .error t
  match Octets.toString op with
  | "=" | "==" => return .ok (a == b)
  | "!=" => return .ok (a != b)
  | "<" => return .ok (Octets.before a b)
  | ">" => return .ok (Octets.before b a)
  | "-eq" => return numbers fun m n => m == n
  | "-ne" => return numbers fun m n => m != n
  | "-gt" => return numbers fun m n => n < m
  | "-ge" => return numbers fun m n => n ≤ m
  | "-lt" => return numbers fun m n => m < n
  | "-le" => return numbers fun m n => m ≤ n
  | op => return .ok (← FileTest.relates (!s.isPosix) op a b)

/-- Decide a test; some operators ask the shell. -/
def eval (s : Speaker) (ask : Char → Octets → Option Bool) : TestExpr → Prog (Except String Bool)
  | .never => return .ok false
  | .word t => return .ok (!t.isEmpty)
  | .unary op t => do
    match op with
    | 'n' => return .ok (!t.isEmpty)
    | 'z' => return .ok t.isEmpty
    | 't' =>
      match number t with
      | .ok _ => return .ok false
      | .error e => return .error e
    | op =>
      match ask op t with
      | some b => return .ok b
      | none => return .ok (← FileTest.holds op t)
  | .binary op a b => compare s op a b
  | .not e => do return (← eval s ask e).map (!·)
  | .and e f => do
    match ← eval s ask e with
    | .ok true => eval s ask f
    | r => return r
  | .or e f => do
    match ← eval s ask e with
    | .ok false => eval s ask f
    | r => return r

/-- The arguments without the bracket that closes them, for a test in brackets. -/
def unbracketed? (as : List Octets) : Option (List Octets) :=
  if as.getLast? = some [']'] then some as.dropLast else none

end TestExpr

end FenceSync.Shell
