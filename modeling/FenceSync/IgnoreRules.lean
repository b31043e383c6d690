import FenceSync.Glob.Written
import FenceSync.Path

namespace FenceSync

/-!
# Ignore rules

An ignore file has one rule a line.  A rule is a glob, matched from the directory of the file if
there is a slash inside it and at any depth otherwise; `!` in front keeps what it matches, and a
slash behind lets it match directories only.  Lines that start with `#` are comments.

* `IgnoreRule.ofLine?` reads a rule, and `IgnoreRules.ofBytes?` a file.
* `IgnoreRules.verdict?` is the word of the last rule that matches a path.
* `IgnoreRules.excludes` asks for a path, and then for the directories it lies in.
-/

/-- A rule. -/
structure IgnoreRule where
  glob : WrittenGlob
  /-- What the rule matches is kept. -/
  keeps : Bool
  /-- The rule matches directories only. -/
  dirsOnly : Bool
  deriving DecidableEq, Repr

/-- Why a line is no rule. -/
inductive IgnoreFault where
  | glob (line : Text) (cause : GlobFault)
  | notUtf8
  deriving DecidableEq, Repr

/-- A fault in words. -/
def IgnoreFault.message : IgnoreFault → String
  | .glob line cause => cause.messageIn line
  | .notUtf8 => "stream did not contain valid UTF-8"

/-! ### Lines -/

/-- A line without white space at its end, unless a backslash stands before the last blank. -/
def trimRule (line : Text) : Text :=
  if (Text.before? ['\\', ' '] line).isSome then line else Text.trimEnd line

/-- What a rule says in front of its glob. -/
structure RuleStart where
  keeps : Bool
  /-- A slash ties the glob to the directory. -/
  anchored : Bool
  rest : Text

/-- Cut the marks in front of a glob. -/
def cutRuleStart (line : Text) : RuleStart :=
  match line with
  | '\\' :: '!' :: t => ⟨false, false, '!' :: t⟩
  | '\\' :: '#' :: t => ⟨false, false, '#' :: t⟩
  | '!' :: '/' :: t => ⟨true, true, t⟩
  | '!' :: t => ⟨true, false, t⟩
  | '/' :: t => ⟨false, true, t⟩
  | t => ⟨false, false, t⟩

/-- Cut a slash at the end, with a backslash before it. -/
def cutRuleEnd (t : Text) : Bool × Text :=
  match Text.before? ['/'] t with
  | none => (false, t)
  | some u => (true, (Text.before? ['\\'] u).getD u)

/-- Two stars and a slash. -/
def anyDirs : Text := ['*', '*', '/']

/-- The glob of a rule, for paths seen from the directory. -/
def fullGlob (anchored : Bool) (t : Text) : Text :=
  let t :=
    if anchored ∨ '/' ∈ t ∨ t = ['*', '*'] then t else anyDirs ++ t
  if (Text.before? ['/', '*', '*'] t).isSome then t ++ ['/', '*'] else t

/-- Read a line; blank lines and comments are no rules. -/
def IgnoreRule.ofLine? (line : Text) : Except IgnoreFault (Option IgnoreRule) :=
  let line' := trimRule line
  if line.head? = some '#' ∨ line' = [] then .ok none
  else
    let start := cutRuleStart line'
    let (dirsOnly, t) := cutRuleEnd start.rest
    match WrittenGlob.ofText? true (fullGlob start.anchored t) with
    | .ok g => .ok (some ⟨g, start.keeps, dirsOnly⟩)
    | .error e => .error (.glob line' e)

/-! ### Files -/

namespace IgnoreRules

/-- The lines of a file, without what ends them. -/
def byteLines (bs : Bytes) : List Bytes :=
  let lines := bs.splitOn 0x0A
  let lines := if lines.getLast? = some [] then lines.dropLast else lines
  lines.map fun line => if line.getLast? = some 0x0D then line.dropLast else line

/-- Read numbered lines up to the first one that is no text; faults have the number of their
    line. -/
def readLines (n : Nat) : List Bytes → List IgnoreRule × List (Nat × IgnoreFault)
  | [] => ([], [])
  | line :: lines =>
    match Bytes.text? line with
    | none => ([], [(n, .notUtf8)])
    | some t =>
      let t := if n = 1 then t.dropWhile (· == '\uFEFF') else t
      let (rules, faults) := readLines (n + 1) lines
      match IgnoreRule.ofLine? t with
      | .ok none => (rules, faults)
      | .ok (some r) => (r :: rules, faults)
      | .error e => (rules, (n, e) :: faults)

/-- Read a file; all faults if there are any. -/
def ofBytes? (bs : Bytes) : Except (List (Nat × IgnoreFault)) (List IgnoreRule) :=
  match readLines 1 (byteLines bs) with
  | (rules, []) => .ok rules
  | (_, faults) => .error faults

/-- The faults of a file in words. -/
def faultsMessage (path : Path) (faults : List (Nat × IgnoreFault)) : String :=
  String.intercalate "\n"
    (faults.map fun f => s!"{path.toString}: line {f.1}: {f.2.message}")

/-! ### Matching -/

/-- What the last rule that matches a path makes of it: whether the path is excluded. -/
def verdict? (rules : List IgnoreRule) (path : Text) (isDir : Bool) : Option Bool :=
  (rules.reverse.find? fun r => (isDir || !r.dirsOnly) && r.glob.accepts path).map
    fun r => !r.keeps

/-- At most so many of the directories that a path lies in, the nearest one first. -/
def dirsAbove : Nat → Path → List Path
  | 0, _ => []
  | n + 1, p =>
    match p.parent? with
    | none => []
    | some q => q :: dirsAbove n q

/-- The text of a path as it is seen from a directory with the given spelling. -/
def seenFrom (dir source : Path) : Text :=
  let t := (Text.after? dir.spelling source.spelling).getD source.spelling
  (Text.after? ['/'] t).getD t

/-- The rules of a directory exclude a file: they have a verdict on it, or else on the nearest
    directory around it. -/
def excludes (rules : List IgnoreRule) (dir source : Path) : Bool :=
  let t := seenFrom dir source
  source.isUnder dir &&
    ((verdict? rules t false).or
      ((dirsAbove t.length ⟨t⟩).findSome? fun d => verdict? rules d.spelling true)).getD false

end IgnoreRules

end FenceSync
