import FenceSync.Shell.Arithmetic
import FenceSync.Shell.Brace
import FenceSync.Shell.Field
import FenceSync.Shell.Filename
import FenceSync.Shell.Subshell

namespace FenceSync.Shell

/-!
# Expanding words

* `Found` is what a parameter leads to, and `Sh.find` looks it up.
* `Expand.pieces` replaces the parts of a word by what they stand for.
* `Sh.fields`, `Sh.textOf` and `Sh.patternOf` make fields, a text or a pattern of a word.
-/

/-! ### Parameters -/

/-- What a parameter leads to. -/
inductive Found where
  | one (t : Option Octets)
  /-- Several values, which make up one text between double quotes if `joined`. -/
  | many (ts : List Octets) (joined : Bool)
  deriving Repr, Inhabited

/-- Apply a function to every text. -/
def Found.mapM (f : Octets → Sh Octets) : Found → Sh Found
  | .one none => return .one none
  | .one (some t) => return .one (some (← f t))
  | .many ts joined => return .many (← ts.mapM f) joined

/-- There is no value. -/
def Found.isUnset : Found → Bool
  | .one none => true
  | _ => false

/-- How bare text in a word is to be taken. -/
structure Expanding where
  /-- The word stands between double quotes. -/
  isQuoted : Bool
  /-- Bare text belongs to a value. -/
  asValue : Bool

/-- Expanding words within others. -/
abbrev Expander := Expanding → Word → Sh (List Piece)

/-- Expansions of plain words. -/
def Expanding.plain : Expanding := ⟨false, false⟩

/-- Expansions between double quotes. -/
def Expanding.quoted : Expanding := ⟨true, false⟩

namespace Sh

/-- A parameter is not set although it has to be. -/
def failUnset {α : Type} (name : Octets) (text : Octets) : Sh α := do
  let message := Octets.toString (name ++ ": ".toList ++ text)
  if ← isBash then fail (if (← Sys.self) = (← get).pid then 127 else 1) message else fail 2 message

/-- The place of a key among those of a map: a hash of 32 bits, of which ten count. -/
def slotOf (key : Octets) : Nat :=
  key.foldl (fun n c =>
    let c := if c.toNat < 0x80 then c.toNat else c.toNat + 0xFFFFFF00
    (n * 16777619 % 4294967296) ^^^ c) 2166136261 % 1024

/-- The entries of a map in the order of their places, those set last first where these are the
    same. -/
def entriesOf (es : Table Octets Octets) : Table Octets Octets :=
  es.reverse.mergeSort fun a b => slotOf a.1 ≤ slotOf b.1

/-- Elements of a list, in order. -/
def elementsOf (v : Value) : List Octets :=
  match v with
  | .unset => []
  | .text t => [t]
  | .list es => es.map (·.2)
  | .map es => (entriesOf es).map (·.2)

/-- Keys of a list, in order. -/
def keysOf (v : Value) : List Octets :=
  match v with
  | .unset => []
  | .text _ => [['0']]
  | .list es => es.map fun e => Octets.ofNat e.1
  | .map es => (entriesOf es).map (·.1)

/-- The value of a variable, lists that the shell makes up included. -/
def wholeValue (name : Octets) : Sh Value := do
  let s ← get
  let numbered (ts : List Octets) : Value := .list ((List.range ts.length).zip ts)
  match if s.dialect = .bash then Octets.toString name else "" with
  | "PIPESTATUS" => return numbered (s.pipeStatus.map Octets.ofNat)
  | "FUNCNAME" => return if s.calls.isEmpty then .unset else numbered s.calls
  | "BASH_VERSINFO" => return numbered (["5", "2", "15", "1", "release"].map String.toList)
  | "DIRSTACK" => return numbered ((← value? "PWD".toList).getD [] :: s.dirs)
  | "GROUPS" => return numbered [['0']]
  | "BASH_ARGV" => return .unset
  | _ =>
    match ← madeUp? name with
    | some t => return .text t
    | none => return ((← binding? name).map Variable.value).getD .unset

/-- The value of a parameter whose name is a mark or a number. -/
def special? (name : Octets) : Sh (Option Found) := do
  let s ← get
  match name with
  | ['@'] => return some (.many s.args false)
  | ['*'] => return some (.many s.args true)
  | ['#'] => return some (.one (some (Octets.ofNat s.args.length)))
  | ['?'] => return some (.one (some (Octets.ofNat s.status)))
  | ['$'] => return some (.one (some (Octets.ofNat s.pid)))
  | ['!'] => return some (.one (s.lastJob.map Octets.ofNat))
  | ['-'] =>
    let usual := if s.dialect = .bash then ['h', 'B', 'c'] else []
    return some (.one (some (s.flags.filter (fun c => !usual.contains c) ++ usual)))
  | _ =>
    match Octets.nat? name with
    | some 0 => return some (.one (some s.name))
    | some n => return some (.one s.args[n - 1]?)
    | none => return none

end Sh

namespace Expand

/-! ### Values -/

/-- A word as one text. -/
def text (inner : Expander) (w : Word) : Sh Octets := do
  let ps ← inner .plain w
  return Marked.text (Piece.joined ((← Sh.separators).take 1) ps)

/-- A word as a pattern. -/
def marked (inner : Expander) (w : Word) : Sh Marked := do
  let ps ← inner .plain w
  return Piece.joined ((← Sh.separators).take 1) ps

/-- A word as a number. -/
def number (inner : Expander) (w : Word) : Sh Int := do
  Sh.compute (Marked.text (Piece.joined [' '] (← inner .quoted w)))

/-- The key of an element in a value. -/
def element (inner : Expander) (name : Octets) (v : Value) (sub : Word) : Sh (Option Octets) := do
  if sub.isEmpty then Sh.giveUp .word s!"{Octets.toString name}: bad array subscript"
  match v with
  | .map es => return es.get? (← text inner sub)
  | v =>
    let n ← Sh.computeOrEnd (Marked.text (Piece.joined [' '] (← inner .quoted sub)))
    let es := match v with
      | .list es => es
      | .text t => [(0, t)]
      | _ => []
    let count : Nat := match v with
      | .text _ => 0
      | _ => (es.getLast?.map fun e => e.1 + 1).getD 0
    if n < 0 then
      if n + count < 0 then
        Sh.complain s!"{Octets.toString name}: bad array subscript"
        return none
      else return es.lookup (n + count).toNat
    else return es.lookup n.toNat

/-- What a parameter leads to. -/
def find (inner : Expander) (name : Octets) (sub : Option Subscript) : Sh Found := do
  match ← Sh.special? name with
  | some f => return f
  | none =>
    match sub with
    | none =>
      match ← Sh.wholeValue name with
      | .text t => return .one (some t)
      | .list es => return .one (es.lookup 0)
      | .map es => return .one (es.get? ['0'])
      | .unset => return .one none
    | some (.all joined) => return .many (Sh.elementsOf (← Sh.wholeValue name)) joined
    | some (.at w) => return .one (← element inner name (← Sh.wholeValue name) w)

/-- Texts as they stand in a word. -/
def emit (e : Expanding) (f : Found) : Sh (List Piece) := do
  let origin := if e.isQuoted then Origin.quoted else .value
  match f with
  | .one none => return []
  | .one (some t) => return [.text origin t]
  | .many ts joined =>
    if joined && e.isQuoted then
      return [.text .quoted (Octets.join ((← Sh.separators).take 1) ts)]
    else
      let joined := joined || !(← Sh.isBash)
      return (ts.map fun t => Piece.text origin t).intersperse (.cut joined)

/-- Fail if a parameter has to be set and is not. -/
def demand (name : Octets) (f : Found) : Sh Unit := do
  match f with
  | .one none => if ← Sh.flag 'u' then Sh.failUnset name "parameter not set".toList
  | _ => pure ()

/-! ### Operations -/

/-- The value of a parameter is empty: a list is if it makes up an empty text. -/
def isBlank (separator : Octets) : Found → Bool
  | .one t => (t.getD []).isEmpty
  | .many [] _ => true
  | .many ts joined => (Octets.join (if joined then separator else [' ']) ts).isEmpty

/-- A parameter without a value: none, or with `colon` also an empty one. -/
def isMissing (e : Expanding) (colon : Bool) (f : Found) : Sh Bool := do
  let separators ← Sh.separators
  let inBash ← Sh.isBash
  let isUnset := match f with
    | .one t => t.isNone
    | .many ts _ => inBash && ts.isEmpty
  return isUnset || colon && isBlank (if e.isQuoted then separators.take 1 else [' ']) f

/-- What is in front of a match at the end of a text. -/
def beforeEnd? (ps : List Pattern) (longest : Bool) (t : Text) : Option Text :=
  -- the shortest match at the end starts last
  let starts := (List.range (t.length + 1)).filter fun k => Pattern.accepts false ps (t.drop k)
  (if longest then starts.head? else starts.getLast?).map t.take

/-- Cut a match off a text at its start, or at its end. -/
def trimmed (ps : List Pattern) (atEnd longest : Bool) (t : Text) : Text :=
  if atEnd then (beforeEnd? ps longest t).getD t
  else
    let rests := Pattern.leftOf false ps t
    (if longest then rests.getLast? else rests.head?).getD t

/-- The texts up to the last one that ends in a match, which is cut off. -/
def beforeLast? (ps : List Pattern) : List Text → Option (List Text)
  | [] => none
  | t :: ts =>
    match beforeLast? ps ts with
    | some ts => some (t :: ts)
    | none => (beforeEnd? ps false t).map ([·])

/-- Cut a match off texts in a row, where a match never goes beyond a text.  What follows a match at
    the end is cut off too, and so is all that follows a first text that is the longest match at the
    start; otherwise only the first text is cut, and looked at for a longest match. -/
def trimmedAcross (ps : List Pattern) (atEnd longest : Bool) (ts : List Text) : List Text :=
  match ts with
  | [] => []
  | t :: rest =>
    match atEnd, longest with
    | true, true => ((beforeEnd? ps true t).map ([·])).getD ts
    | true, false => (beforeLast? ps ts).getD ts
    | false, true =>
      if Pattern.accepts false ps t then [[]] else trimmed ps false true t :: rest
    | false, false => trimmed ps false false t :: rest

/-- Cut a match off a value. -/
def trim (atEnd longest : Bool) (pattern : Marked) (t : Octets) : Sh Octets := do
  let ps ← Sh.pattern (← Sh.option "extglob") pattern
  Sh.octets (trimmed ps atEnd longest (← Sh.characters t))

/-- Cut a match off what a parameter leads to. -/
def trimFound (e : Expanding) (atEnd longest : Bool) (pattern : Marked) (f : Found) : Sh Found := do
  if ← Sh.isBash then Found.mapM (trim atEnd longest pattern) f
  else
    match f with
    | .one _ => Found.mapM (trim atEnd longest pattern) f
    | .many ts joined =>
      if joined && e.isQuoted then
        let t := Octets.join ((← Sh.separators).take 1) ts
        return .one (some (← trim atEnd longest pattern t))
      else
        let ps ← Sh.pattern false pattern
        let ts ← ts.mapM Sh.characters
        return .many (← (trimmedAcross ps atEnd longest ts).mapM Sh.octets) joined

/-- Part of a text from an offset on; both may count from the end. -/
def sliceOf {α : Type} (offset : Int) (length : Option Int) (ts : List α) :
    Except String (List α) :=
  let n : Int := ts.length
  let start := if offset < 0 then n + offset else offset
  if start < 0 ∨ n < start then .ok []
  else
    match length with
    | none => .ok (ts.drop start.toNat)
    | some m =>
      let stop := if m < 0 then n + m else start + m
      if stop < start then .error "substring expression < 0"
      else .ok ((ts.drop start.toNat).take (stop - start).toNat)

/-- Part of a value. -/
def sliceText (offset : Int) (length : Option Int) (t : Octets) : Sh Octets := do
  match sliceOf offset length (← Sh.characters t) with
  | .ok t => Sh.octets t
  | .error text => Sh.giveUp .number text

/-- What stands for a match: the replacement with the match put in for its marks. -/
def filled (replacement : Marked) (found : Octets) : Octets :=
  match replacement with
  | [] => []
  | ('\\', false) :: c :: w =>
    if c.1 = '&' ∨ c.1 = '\\' then c.1 :: filled w found else '\\' :: c.1 :: filled w found
  | ('&', false) :: w => found ++ filled w found
  | c :: w => c.1 :: filled w found

/-- Replace matches in a text: `how` says which.  The result so far is in reverse order, and at most
    so many characters are gone through. -/
def replaceFrom (ps : List Pattern) (how : Char) (fill : Text → Text) : Nat → Text → Text → Text
  | 0, done, t => done.reverse ++ t
  | n + 1, done, t =>
    match (Pattern.leftOf false ps t).getLast? with
    | some rest =>
      let k := t.length - rest.length
      if k = 0 then
        match t with
        | [] => done.reverse
        | c :: t => replaceFrom ps how fill n (c :: done) t
      else
        let done := (fill (t.take k)).reverse ++ done
        if how = '/' then replaceFrom ps how fill n done rest else done.reverse ++ rest
    | none =>
      match t with
      | [] => done.reverse
      | c :: t => replaceFrom ps how fill n (c :: done) t

/-- Replace matches in a value. -/
def replaced (how : Char) (pattern replacement : Marked) (t : Octets) : Sh Octets := do
  let ps ← Sh.pattern (← Sh.option "extglob") pattern
  let chars ← Sh.characters t
  let fill ← do
    if replacement.any fun c => c == ('&', false) || c == ('\\', false) then
      pure fun (found : Text) =>
        if chars.all (·.toNat < 0x80) then filled replacement found
        else Octets.toText (filled replacement (Octets.ofText found))
    else
      let fixed ← Sh.characters (Marked.text replacement)
      pure fun _ => fixed
  let result := match how with
    | '#' =>
      match (Pattern.leftOf false ps chars).getLast? with
      | some rest => fill (chars.take (chars.length - rest.length)) ++ rest
      | none => chars
    | '%' =>
      let starts := List.range (chars.length + 1)
      match starts.find? (fun k => Pattern.accepts false ps (chars.drop k)) with
      | some k => chars.take k ++ fill (chars.drop k)
      | none => chars
    | how => if ps.isEmpty then chars else replaceFrom ps how fill (chars.length + 1) [] chars
  if result.all (·.toNat < 0x80) then return result else Sh.octets result

/-- A character in the other case, or in the one asked for. -/
def recasedChar (how : Char) (c : Char) : Char :=
  if how = '^' then capitalOf c
  else if how = ',' then smallOf c
  else if smallOf c ≠ c then smallOf c
  else capitalOf c

/-- A value with its case changed where a pattern matches. -/
def recased (how : Char) (everywhere : Bool) (pattern : Marked) (t : Octets) : Sh Octets := do
  let ps ← Sh.pattern (← Sh.option "extglob") pattern
  let change (c : Char) : Char :=
    if ps.isEmpty || Pattern.accepts false ps [c] then recasedChar how c else c
  match ← Sh.characters t with
  | [] => return []
  | c :: rest => Sh.octets (change c :: if everywhere then rest.map change else rest)

/-- A character of a text that is written with escapes. -/
def escapedChar (c : Char) : Octets :=
  match c with
  | '\x07' => ['\\', 'a']
  | '\x08' => ['\\', 'b']
  | '\t' => ['\\', 't']
  | '\n' => ['\\', 'n']
  | '\x0b' => ['\\', 'v']
  | '\x0c' => ['\\', 'f']
  | '\r' => ['\\', 'r']
  | '\x1b' => ['\\', 'E']
  | '\\' => ['\\', '\\']
  | '\'' => ['\\', '\'']
  | c =>
    if c.toNat < 0x20 ∨ 0x7F ≤ c.toNat then
      '\\' :: Octets.padLeft 3 '0' (Nat.toDigits 8 c.toNat)
    else [c]

/-- The text between single quotes, a quote in it set apart. -/
def singleQuoted (t : Octets) : Octets :=
  ['\''] ++ t.flatMap (fun c => if c = '\'' then "'\\''".toList else [c]) ++ ['\'']

/-- The text needs escapes to be shown: it has control characters, or is no UTF-8. -/
def needsEscapes (t : Octets) : Bool :=
  t.any Octets.isControl || (t.any (0x80 ≤ ·.toNat) && (Bytes.text? (Octets.toBytes t)).isNone)

/-- The text as a word that stands for it, always between quotes. -/
def quotedWord (t : Octets) : Octets :=
  if needsEscapes t then
    let shown := if (Bytes.text? (Octets.toBytes t)).isSome then
      t.flatMap fun c => if 0x80 ≤ c.toNat then [c] else escapedChar c
    else t.flatMap escapedChar
    "$'".toList ++ shown ++ ['\'']
  else singleQuoted t

/-- The text with backslashes in front of what is special to the shell. -/
def backslashed (t : Octets) : Octets :=
  if t.isEmpty then "''".toList
  else if needsEscapes t then quotedWord t
  else
    let special := " \t!\"#$&'()*,;<=>?[\\]^\x60\x7b|\x7d~".toList
    let mark (first : Bool) (c : Char) : Octets :=
      if c = '#' ∨ c = '~' then if first then ['\\', c] else [c]
      else if c = '=' then [c]
      else if special.contains c then ['\\', c] else [c]
    match t with
    | [] => []
    | c :: rest => mark true c ++ rest.flatMap (mark false)

/-- The letters of a variable's attributes. -/
def attributes (v : Variable) : Octets :=
  (match v.value with
    | .list _ => ['a']
    | .map _ => ['A']
    | _ => []) ++ (if v.number then ['i'] else []) ++ (v.recase.toList) ++
    (if v.refers then ['n'] else []) ++ (if v.fixed then ['r'] else []) ++
    (if v.exported then ['x'] else [])

/-- The text of a value with its escapes read. -/
def unescapedText (t : Octets) : Octets :=
  match Reading.cutEscaped (t.length + 2) [] (t.flatMap (fun c =>
      if c = '\'' then ['\\', '\''] else [c]) ++ ['\'']) with
  | some (u, _) => u
  | none => t

/-- A value as one of the transformations shows it. -/
def transformed (how : Char) (name : Octets) (t : Octets) : Sh Octets := do
  match how with
  | 'Q' | 'K' | 'k' => return quotedWord t
  | 'U' => Sh.recase capitalOf t
  | 'L' => Sh.recase smallOf t
  | 'u' => recased '^' false [] t
  | 'E' => return unescapedText t
  | 'P' => return t
  | 'a' => return ((← Sh.binding? name).map attributes).getD []
  | 'A' =>
    let flags := ((← Sh.binding? name).map attributes).getD []
    let assign := name ++ '=' :: quotedWord t
    return if flags.isEmpty then assign else "declare -".toList ++ flags ++ ' ' :: assign
  | _ => Sh.fail (if (← Sys.self) = (← get).pid then 127 else 1) "bad substitution"

/-- Give a parameter a value. -/
def assignDefault (inner : Expander) (name : Octets) (sub : Option Subscript) (t : Octets) :
    Sh Unit := do
  if !Octets.isName name then
    Sh.giveUp .word s!"{Octets.toString name}: bad variable name"
  match sub with
  | some (.at w) =>
    match ← Sh.wholeValue name with
    | .map es => Sh.putValue name (.map (es.set (← text inner w) t))
    | v =>
      let n ← number inner w
      let es := match v with
        | .list es => es
        | .text u => [(0, u)]
        | _ => []
      Sh.putValue name (.list (insertElement n.toNat t es))
  | _ => Sh.putText name t

/-- What a parameter and its operator stand for; a reference leads further at most so often. -/
def param (inner : Expander) (e : Expanding) :
    Nat → Octets → Option Subscript → ParamOp → Sh (List Piece)
  | 0, name, _, _ => Sh.fail 1 s!"{Octets.toString name}: invalid indirect expansion"
  | n + 1, name, sub, op => do
    let quoting : Expanding := ⟨e.isQuoted, !e.isQuoted⟩
    match op with
    | .bad => Sh.giveUp .word "Bad substitution"
    | .plain =>
      let f ← find inner name sub
      demand name f
      emit e f
    | .length =>
      let f ← find inner name sub
      demand name f
      let count ← match f with
        | .one t => do pure (← Sh.characters (t.getD [])).length
        | .many ts _ =>
          if ← Sh.isBash then pure ts.length
          else pure (Octets.join ((← Sh.separators).take 1) ts).length
      emit e (.one (some (Octets.ofNat count)))
    | .keys => emit e (.many (Sh.keysOf (← Sh.wholeValue name)) (match sub with
        | some (.all joined) => joined
        | _ => false))
    | .names joined =>
      let found := ((← get).vars.keys.filter name.isPrefixOf).mergeSort fun a b =>
        !Octets.before b a
      emit e (.many found joined)
    | .indirect op =>
      match ← find inner name sub with
      | .one (some target) =>
        match target.span (· != '[') with
        | (base, '[' :: index) =>
          let sub : Subscript :=
            if index = ['@', ']'] then .all false
            else if index = ['*', ']'] then .all true
            else .at [.bare index.dropLast]
          param inner e n base (some sub) op
        | _ =>
          if Octets.isName target || (target.all Char.isDigit && !target.isEmpty) ||
              ["@", "*", "#", "?", "-", "$", "!"].contains (Octets.toString target) then
            param inner e n target none op
          else Sh.giveUp .word s!"{Octets.toString target}: invalid variable name"
      | .one none =>
        if ← Sh.flag 'u' then Sh.failUnset name "unbound variable".toList
        else Sh.giveUp .word s!"{Octets.toString name}: invalid indirect expansion"
      | .many ts _ => param inner e n (Octets.join [' '] ts) none op
    | .default colon kind w =>
      let f ← find inner name sub
      match ← isMissing e colon f, kind with
      | false, .alternative => inner quoting w
      | true, .alternative => return []
      | false, _ => emit e f
      | true, .use => inner quoting w
      | true, .assign =>
        assignDefault inner name sub (← text inner w)
        emit e (← find inner name sub)
      | true, .complain =>
        let t ← text inner w
        Sh.failUnset name (if t.isEmpty then "parameter not set".toList else t)
    | .trim atEnd longest w =>
      let f ← find inner name sub
      demand name f
      if f.isUnset then return []
      emit e (← trimFound e atEnd longest (← marked inner w) f)
    | .slice offset length =>
      let f ← find inner name sub
      demand name f
      if f.isUnset then return []
      let first ← number inner offset
      let most ← length.mapM (number inner)
      match f with
      | .one t => emit e (.one (← t.mapM (sliceText first most)))
      | .many ts joined =>
        let shell ← get
        let ts := if name = ['@'] ∨ name = ['*'] then shell.name :: ts else ts
        let value ← Sh.wholeValue name
        let part : Except String (List Octets) := match value with
          | .list es =>
            -- elements count by their numbers
            let top : Int := ((es.getLast?.map fun e => e.1 + 1).getD 0 : Nat)
            let start := if first < 0 then top + first else first
            let kept := (es.filter fun e => start ≤ e.1).map (·.2)
            if start < 0 then .ok [] else sliceOf 0 most kept
          | _ =>
            if most.any (· < 0) then .error "substring expression < 0"
            else sliceOf first most ts
        match part with
        | .ok ts => emit e (.many ts joined)
        | .error t => Sh.giveUp .number t
    | .replace how p r =>
      let f ← find inner name sub
      demand name f
      if f.isUnset then return []
      let p ← marked inner p
      let r ← marked inner r
      emit e (← Found.mapM (replaced how p r) f)
    | .recase how everywhere p =>
      let f ← find inner name sub
      demand name f
      if f.isUnset then return []
      let p ← marked inner p
      emit e (← Found.mapM (recased how everywhere p) f)
    | .transform how =>
      let f ← find inner name sub
      demand name f
      emit e (← Found.mapM (transformed how name) f)

/-- The home directory of a user. -/
def home? (user : Octets) : Sh (Option Octets) := do
  match Octets.toString user with
  | "" => return some ((← Sh.value? "HOME".toList).getD "/root".toList)
  | "root" => return some "/root".toList
  | "+" => if ← Sh.isBash then Sh.value? "PWD".toList else return none
  | "-" => if ← Sh.isBash then Sh.value? "OLDPWD".toList else return none
  | _ => return none

/-- The part stands for the elements of a list, each with its own field, so that there may be
    none. -/
def isEach (inner : Expander) : Part → Sh Bool
  | .param name sub op => do
    let listed := name == ['@'] || match sub with
      | some (.all false) => true
      | _ => false
    match op with
    | .names joined => return !joined
    | .default _ .alternative _ =>
      match ← find inner name sub with
      | .many ts _ => return listed && ts.isEmpty
      | .one _ => return false
    | .default .. => return false
    | _ => return listed
  | _ => return false

/-- What a word between double quotes stands for: at least an empty field, unless it stands for the
    elements of lists and there are none. -/
def doubled (inner : Expander) (w : Word) : Sh (List Piece) := do
  let found ← w.mapM fun p => inner .quoted [p]
  if Piece.holdsText found.flatten then return found.flatten
  else
    let each ← w.mapM (isEach inner)
    let lists := (each.zip found).filter (·.1)
    let isList ← match w with
      | [.param ['@'] none .plain] => pure true
      | _ => Sh.isBash
    if isList && !lists.isEmpty && lists.all (·.2.isEmpty) then return []
    else return [.text .quoted []]

/-- What a part of a word stands for. -/
def part (h : Hooks) (inner : Expander) (e : Expanding) (p : Part) : Sh (List Piece) := do
  let origin := if e.isQuoted then Origin.quoted else .value
  match p with
  | .bare t =>
    return [.text (if e.isQuoted then .quoted else if e.asValue then .value else .script) t]
  | .quoted t => return [.text .quoted t]
  | .double w => doubled inner w
  | .tilde user =>
    match ← home? user with
    | some t => return [.text .quoted t]
    | none => return [.text .script ('~' :: user)]
  | .param name sub op => param inner e 10 name sub op
  | .capture body =>
    match Sh.readAlone? body with
    | some w =>
      if ← Sh.isBash then
        let t ← Sys.readFile (← text inner w)
        Sh.noteCapture (if t.toBool then 0 else 1)
        return [.text origin (Sh.captured (t.toOption.getD []))]
      else return [.text origin (← Sh.capture h body)]
    | none => return [.text origin (← Sh.capture h body)]
  | .arithmetic ps =>
    let n ← number inner ps
    return [.text origin (Octets.ofInt n)]
  | .stream toRead body => return [.text .quoted (← Sh.stream h toRead body)]

/-- The pieces of a word, in at most so many nested steps. -/
def piecesFrom (h : Hooks) : Nat → Expander
  | 0, _, _ => Sh.fail 2 "word nested too deeply"
  | n + 1, e, w => do
    let found ← w.mapM (part h (piecesFrom h n) e)
    return found.flatten

/-- How deeply words may be nested. -/
def depthLimit : Nat := 1000

/-- The pieces of a word. -/
def pieces (h : Hooks) : Expander := piecesFrom h depthLimit

end Expand

namespace Sh

/-- The fields of a word that stands for itself alone. -/
def fieldsOf (h : Hooks) (w : Word) : Sh (List Octets) := do
  match w.mapM (fun p => match p with
      | .bare t => if t.any (fun c => "*?[\\".toList.contains c) then none else some t
      | .quoted t => some t
      | _ => none) with
  | some ts =>
    if (← option "extglob") && w.any (fun p => match p with
        | .bare t => t.contains '('
        | _ => false) then
      return (← filenames (Marked.of false ts.flatten))
    else return if w.isEmpty then [] else [ts.flatten]
  | none =>
    let ps ← Expand.pieces h .plain w
    let fs := Piece.fields (← separators) ps
    return (← fs.mapM filenames).flatten

/-- The fields of a word. -/
def fields (h : Hooks) (w : Word) : Sh (List Octets) := do
  if ← isBash then
    return (← w.alternatives.mapM (fieldsOf h)).flatten
  else fieldsOf h w

/-- A word as one text. -/
def textOf (h : Hooks) (w : Word) : Sh Octets := Expand.text (Expand.pieces h) w

/-- A word as a pattern. -/
def markedOf (h : Hooks) (w : Word) : Sh Marked := Expand.marked (Expand.pieces h) w

end Sh

end FenceSync.Shell
