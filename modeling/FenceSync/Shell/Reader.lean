import FenceSync.Shell.Script
import FenceSync.Shell.Table

namespace FenceSync.Shell

/-!
# Reading scripts

A script is read a line at a time, or as many lines as a command takes, so that a command can run
before what follows it is read.

* `Source` is a script as far as it is read.
* `Reading.parts` reads a word, `Reading.commands` a list of commands.
* `Source.next` reads the next line.
-/

/-! ### Sources -/

/-- A script as far as it is read. -/
structure Source where
  rest : Octets
  line : Nat
  /-- Lines of here-documents on the current line. -/
  owed : Nat
  dialect : Dialect
  /-- Patterns may have alternatives. -/
  extended : Bool
  aliases : Table Octets Octets
  /-- The aliases whose texts are being read, with what was left of the script behind them. -/
  busy : List (Octets × Nat)
  deriving Repr, Inhabited

/-- Why a script cannot be read. -/
inductive ReadFault where
  | unexpected (line : Nat) (token : Octets)
  | unfinished (line : Nat)
  /-- The script is nested too deeply. -/
  | tooDeep
  deriving DecidableEq, Repr

/-- A fault in words. -/
def ReadFault.message : ReadFault → String
  | .unexpected _ t => "Syntax error: \"" ++ Octets.toString t ++ "\" unexpected"
  | .unfinished _ => "Syntax error: end of file unexpected"
  | .tooDeep => "Syntax error: nested too deeply"

/-- Reading a part of a script. -/
abbrev Reading := StateT Source (Except ReadFault)

/-- Where a word can end, and what is special in it. -/
inductive WordMode where
  /-- A word of a command; after a colon a home directory may stand if `assigned`. -/
  | word (assigned : Bool)
  /-- Between double quotes. -/
  | double
  /-- A here-document. -/
  | document
  /-- Behind the operator of a parameter. -/
  | brace
  /-- Behind the operator of a parameter between double quotes. -/
  | braceDouble
  /-- A pattern to be replaced. -/
  | pattern
  /-- The start of a slice. -/
  | slice
  /-- Between square brackets. -/
  | subscript
  /-- A regular expression. -/
  | regex
  deriving DecidableEq, Repr

namespace Reading

/-! ### Characters -/

/-- What is left. -/
def rest : Reading Octets := do return (← get).rest

/-- The dialect knows more than the usual commands. -/
def isBash : Reading Bool := do return (← get).dialect == .bash

/-- Go on by some characters. -/
def advance (n : Nat) : Reading Unit := modify fun s =>
  let feeds := (s.rest.take n).countP (· == '\n')
  { s with
    rest := s.rest.drop n
    line := s.line + feeds + (if feeds = 0 then 0 else s.owed)
    owed := if feeds = 0 then s.owed else 0 }

/-- What is left starts with a text. -/
def sees (t : String) : Reading Bool := do return t.toList.isPrefixOf (← rest)

/-- Go past a text, if it comes next. -/
def eat (t : String) : Reading Bool := do
  if ← sees t then
    advance t.length
    return true
  else return false

/-- Fail because of what comes next. -/
def fail {α : Type} : Reading α := do
  let s ← get
  match s.rest with
  | [] => throw (.unfinished s.line)
  | c :: _ => throw (.unexpected s.line [c])

/-- Go past a text, which has to come next. -/
def expect (t : String) : Reading Unit := do
  if !(← eat t) then fail

/-- The characters that end words. -/
def isMeta (c : Char) : Bool := " \t\n;&|<>()".toList.contains c

/-- Blanks, continued lines and a comment in front of a text, at most so many. -/
def blanksIn : Nat → Octets → Nat
  | 0, _ => 0
  | n + 1, t =>
    match t with
    | ' ' :: r | '\t' :: r => 1 + blanksIn n r
    | '\\' :: '\n' :: r => 2 + blanksIn n r
    | '#' :: r => 1 + (r.takeWhile (· != '\n')).length
    | _ => 0

/-- Go past blanks, continued lines and a comment. -/
def skipBlanks : Reading Unit := do
  let t ← rest
  advance (blanksIn t.length t)

/-- Go past blanks and line feeds, at most so many of these. -/
def skipFeedsFrom : Nat → Reading Unit
  | 0 => skipBlanks
  | n + 1 => do
    skipBlanks
    if ← eat "\n" then skipFeedsFrom n

/-- Go past blanks and line feeds. -/
def skipFeeds : Reading Unit := do skipFeedsFrom (← rest).length

/-- A bare word, if one comes next: it holds no quotes and nothing to be replaced. -/
def peekBare : Reading Octets := do
  let t ← rest
  let w := t.takeWhile fun c => !isMeta c
  return if w.any fun c => "'\"\\$\x60".toList.contains c then [] else w

/-- Go past a bare word, if it comes next. -/
def eatWord (w : String) : Reading Bool := do
  if (← peekBare) = w.toList then
    advance w.length
    return true
  else return false

/-- Go past a bare word, which has to come next. -/
def expectWord (w : String) : Reading Unit := do
  skipFeeds
  if !(← eatWord w) then fail

/-! ### Balanced text -/

/-- The text up to the parentheses that close two opened before, and what follows; `depth` counts
    further parentheses, and the text is in reverse order. -/
def cutArithmetic : Nat → Octets → Octets → Option (Octets × Octets)
  | _, _, [] => none
  | depth, done, '\\' :: c :: t => cutArithmetic depth (c :: '\\' :: done) t
  | depth, done, '(' :: t => cutArithmetic (depth + 1) ('(' :: done) t
  | 0, done, ')' :: ')' :: t => some (done.reverse, t)
  | 0, _, ')' :: _ => none
  | depth + 1, done, ')' :: t => cutArithmetic depth (')' :: done) t
  | depth, done, c :: t => cutArithmetic depth (c :: done) t

/-- The text up to a back quote, without the backslashes that are meant for it, and what follows;
    between double quotes they may be meant for those too.  The text is in reverse order. -/
def cutBackquote (inDouble : Bool) : Octets → Octets → Option (Octets × Octets)
  | _, [] => none
  | done, '\x60' :: t => some (done.reverse, t)
  | done, '\\' :: c :: t =>
    if c = '$' ∨ c = '\x60' ∨ c = '\\' ∨ (c = '"' ∧ inDouble) then
      cutBackquote inDouble (c :: done) t
    else cutBackquote inDouble (c :: '\\' :: done) t
  | done, c :: t => cutBackquote inDouble (c :: done) t

/-- The length of a subscript up to its closing bracket; `depth` counts further brackets. -/
def subscriptLength : Nat → Nat → Octets → Option Nat
  | _, _, [] => none
  | depth, n, '[' :: t => subscriptLength (depth + 1) (n + 1) t
  | 0, n, ']' :: _ => some n
  | depth + 1, n, ']' :: t => subscriptLength depth (n + 1) t
  | depth, n, _ :: t => subscriptLength depth (n + 1) t

/-- Pieces of an arithmetic text between semicolons. -/
def cutSemicolons (t : Octets) : List Octets := Text.splitOn [';'] t

/-! ### Escapes -/

/-- The UTF-8 form of a character code. -/
def utf8Of (n : Nat) : Octets :=
  if n.isValidChar then Octets.ofText [Char.ofNat n] else []

/-- At most so many digits in a base, and what follows. -/
def takeDigits (base most : Nat) (t : Octets) : Octets × Octets :=
  let ds := (t.take most).takeWhile fun c => (Octets.digit? base c).isSome
  (ds, t.drop ds.length)

/-- The value of digits in a base. -/
def valueIn (base : Nat) (ds : Octets) : Nat := (Octets.natIn? base ds).getD 0

/-- An octet by its number. -/
def octetOf (n : Nat) : Char := Char.ofNat (n % 256)

/-- What a backslash and a character stand for in most texts with escapes. -/
def simpleEscape? (c : Char) : Option Char :=
  match c with
  | 'a' => some '\x07'
  | 'b' => some '\x08'
  | 'f' => some '\x0c'
  | 'n' => some '\n'
  | 'r' => some '\r'
  | 't' => some '\t'
  | 'v' => some '\x0b'
  | '\\' => some '\\'
  | _ => none

/-- The text of a quotation with escapes, up to the closing quote, and what follows; the text is in
    reverse order. -/
def cutEscaped : Nat → Octets → Octets → Option (Octets × Octets)
  | 0, _, _ => none
  | _ + 1, _, [] => none
  | _ + 1, done, '\'' :: t => some (done.reverse, t)
  | n + 1, done, '\\' :: c :: t =>
    match simpleEscape? c with
    | some d => cutEscaped n (d :: done) t
    | none =>
      if c = 'e' ∨ c = 'E' then cutEscaped n ('\x1b' :: done) t
      else if c = '\'' ∨ c = '"' ∨ c = '?' then cutEscaped n (c :: done) t
      else if c = 'x' then
        let (ds, r) := takeDigits 16 2 t
        if ds = [] then cutEscaped n ('x' :: '\\' :: done) t
        else cutEscaped n (octetOf (valueIn 16 ds) :: done) r
      else if c = 'u' ∨ c = 'U' then
        let (ds, r) := takeDigits 16 (if c = 'u' then 4 else 8) t
        if ds = [] then cutEscaped n (c :: '\\' :: done) t
        else cutEscaped n ((utf8Of (valueIn 16 ds)).reverse ++ done) r
      else if c = 'c' then
        match t with
        | d :: r => cutEscaped n (Char.ofNat (d.toUpper.toNat % 32) :: done) r
        | [] => none
      else if '0' ≤ c ∧ c ≤ '7' then
        let (ds, r) := takeDigits 8 3 (c :: t)
        cutEscaped n (octetOf (valueIn 8 ds) :: done) r
      else cutEscaped n (c :: '\\' :: done) t
  | n + 1, done, c :: t => cutEscaped n (c :: done) t

/-! ### Words -/

/-- What reading a word or command needs of the other. -/
structure Inner where
  parts : WordMode → Reading Word
  commands : Reading (List Command)

/-- Read another text as if it stood here; the position stays. -/
def within {α : Type} (t : Octets) (r : Reading α) : Reading α := do
  let s ← get
  match r { s with rest := t, owed := 0, busy := [] } with
  | .ok (a, _) => return a
  | .error e => throw e

/-- Read all commands of another text. -/
def commandsOf (inner : Inner) (t : Octets) : Reading (List Command) :=
  within t do
    let cs ← inner.commands
    skipFeeds
    if (← rest) ≠ [] then fail
    return cs

/-- Read commands between parentheses, of which the first is read. -/
def captured (inner : Inner) : Reading (List Command) := do
  let cs ← inner.commands
  skipFeeds
  expect ")"
  return cs

/-- Read a text in which double quotes mean nothing. -/
def arithmeticParts (inner : Inner) (t : Octets) : Reading Word :=
  within (t.filter (· != '"')) (inner.parts .document)

/-- The parameters whose names are marks. -/
def isSpecial (c : Char) : Bool := "@*#?-$!".toList.contains c

/-- Read the name of a parameter between braces. -/
def paramName : Reading Octets := do
  match ← rest with
  | c :: t =>
    if Octets.startsName c then
      let name := c :: t.takeWhile Octets.inName
      advance name.length
      return name
    else if c.isDigit then
      let name := c :: t.takeWhile Char.isDigit
      advance name.length
      return name
    else if isSpecial c then
      advance 1
      return [c]
    else return []
  | [] => return []

/-- Read which elements of a list are meant, if a bracket comes next. -/
def subscript? (inner : Inner) : Reading (Option Subscript) := do
  if !(← isBash) || !(← eat "[") then return none
  else if ← eat "@]" then return some (.all false)
  else if ← eat "*]" then return some (.all true)
  else
    let ps ← inner.parts .subscript
    expect "]"
    return some (.at ps)

/-- Read a word behind the operator of a parameter. -/
def operand (inner : Inner) (inDouble : Bool) : Reading Word := do
  let w ← inner.parts (if inDouble then .braceDouble else .brace)
  expect "\x7d"
  return w

/-- Read a pattern behind the operator of a parameter. -/
def patternOperand (inner : Inner) : Reading Word := operand inner false

/-- Read what is no operator. -/
def badOp (inner : Inner) (inDouble : Bool) : Reading ParamOp := do
  discard (operand inner inDouble)
  return .bad

/-- Read the operators that only one dialect has. -/
def richOp (inner : Inner) (inDouble : Bool) : Reading ParamOp := do
  if ← eat ":" then
    let offset ← inner.parts .slice
    if ← eat ":" then
      let w ← inner.parts .brace
      expect "\x7d"
      return .slice offset (some w)
    else
      expect "\x7d"
      return .slice offset none
  else if ← eat "/" then
    let how ← if ← eat "/" then pure '/' else if ← eat "#" then pure '#'
      else if ← eat "%" then pure '%' else pure ' '
    let p ← inner.parts .pattern
    if ← eat "/" then return .replace how p (← operand inner false)
    else
      expect "\x7d"
      return .replace how p []
  else if ← eat "@" then
    match ← operand inner inDouble with
    | [.bare [c]] => return .transform c
    | _ => return .transform ' '
  else
    for how in ['^', ',', '~'] do
      if ← eat (how.toString ++ how.toString) then
        return .recase how true (← patternOperand inner)
      if ← eat how.toString then return .recase how false (← patternOperand inner)
    badOp inner inDouble

/-- Read the operator of a parameter, and all up to the closing brace. -/
def paramOp (inner : Inner) (inDouble : Bool) : Reading ParamOp := do
  if ← eat "\x7d" then return .plain
  for (mark, kind) in [('-', DefaultKind.use), ('=', .assign), ('?', .complain),
      ('+', .alternative)] do
    if ← eat (":" ++ mark.toString) then
      return .default true kind (← operand inner inDouble)
    if ← eat mark.toString then return .default false kind (← operand inner inDouble)
  for (mark, atEnd) in [("#", false), ("%", true)] do
    if ← eat (mark ++ mark) then return .trim atEnd true (← patternOperand inner)
    if ← eat mark then return .trim atEnd false (← patternOperand inner)
  if ← isBash then richOp inner inDouble else badOp inner inDouble

/-- Read a parameter behind `$` and an opening brace. -/
def braced (inner : Inner) (inDouble : Bool) : Reading Part := do
  let start ← get
  if (← sees "#") && !(← sees "#\x7d") then
    -- the length of a parameter, unless what follows is an operation on the number of arguments
    let attempt : Reading Part := do
      advance 1
      let name ← paramName
      if name = [] then fail
      let sub ← subscript? inner
      expect "\x7d"
      return .param name sub .length
    match attempt start with
    | .ok (p, s) =>
      set s
      return p
    | .error _ => set start
  if (← isBash) && (← sees "!") && !(← sees "!\x7d") then
    advance 1
    let name ← paramName
    if name ≠ [] then
      if ← eat "*\x7d" then return .param name none (.names true)
      if ← eat "@\x7d" then return .param name none (.names false)
      let sub ← subscript? inner
      match sub with
      | some (.all _) =>
        if ← eat "\x7d" then return .param name sub .keys
      | _ => pure ()
      return .param name sub (.indirect (← paramOp inner inDouble))
    else set start
  let name ← paramName
  if name = [] then
    let body := (← rest).takeWhile (· != '\x7d')
    advance (body.length + 1)
    return .param body none .bad
  else
    let sub ← subscript? inner
    return .param name sub (← paramOp inner inDouble)

/-- Read what a dollar sign starts, if it starts something. -/
def dollar (inner : Inner) (inDouble : Bool) : Reading (Option Part) := do
  let t ← rest
  match t with
  | '$' :: '\x7b' :: _ =>
    advance 2
    return some (← braced inner inDouble)
  | '$' :: '(' :: '(' :: u =>
    match cutArithmetic 0 [] u with
    | some (body, after) =>
      advance (t.length - after.length)
      return some (.arithmetic (← arithmeticParts inner body))
    | none =>
      advance 2
      return some (.capture (← captured inner))
  | '$' :: '(' :: _ =>
    advance 2
    return some (.capture (← captured inner))
  | '$' :: '\'' :: u =>
    if !inDouble && (← isBash) then
      match cutEscaped (u.length + 1) [] u with
      | some (body, after) =>
        advance (t.length - after.length)
        return some (.quoted body)
      | none => fail
    else return none
  | '$' :: '"' :: _ =>
    if !inDouble && (← isBash) then
      advance 2
      let ps ← inner.parts .double
      expect "\""
      return some (.double ps)
    else return none
  | '$' :: c :: u =>
    if Octets.startsName c then
      let name := c :: u.takeWhile Octets.inName
      advance (name.length + 1)
      return some (.param name none .plain)
    else if c.isDigit || isSpecial c then
      advance 2
      return some (.param [c] none .plain)
    else return none
  | _ => return none

/-- A character ends a word, outside of parentheses. -/
def ends (mode : WordMode) (c : Char) : Bool :=
  match mode with
  | .word _ => isMeta c
  | .double => c == '"'
  | .document => false
  | .brace | .braceDouble => c == '\x7d'
  | .pattern => c == '\x7d' || c == '/'
  | .slice => c == '\x7d' || c == ':'
  | .subscript => c == ']'
  | .regex => Octets.isBlank c || c == '\n' || c == ')'

/-- The mode is one between double quotes. -/
def isDouble (mode : WordMode) : Bool :=
  match mode with
  | .double | .document | .braceDouble => true
  | _ => false

/-- A backslash takes the meaning from a character. -/
def escapes (mode : WordMode) (c : Char) : Bool :=
  match mode with
  | .double => c == '$' || c == '\x60' || c == '"' || c == '\\'
  | .document => c == '$' || c == '\x60' || c == '\\'
  | .braceDouble => c == '$' || c == '\x60' || c == '"' || c == '\\' || c == '\x7d'
  | _ => true

/-- Parts with a bare text in front, in reverse order. -/
def flush (bare : Octets) (done : Word) : Word :=
  if bare.isEmpty then done else .bare bare.reverse :: done

/-- The user whose home directory a tilde stands for, if it does. -/
def tildeUser? (mode : WordMode) (t : Octets) : Option Octets :=
  let user := t.takeWhile fun c => c.isAlphanum || c == '-' || c == '_' || c == '.' || c == '+'
  match mode, t.drop user.length with
  | .word assigned, [] => if assigned then some user else some user
  | .word assigned, c :: _ =>
    if c = '/' ∨ isMeta c ∨ (assigned ∧ c = ':') then some user else none
  | _, _ => none

/-- Read parts of a word in at most so many steps; parts and a bare text so far are in reverse
    order, and `depth` counts open parentheses. -/
def partsFrom (inner : Inner) (mode : WordMode) :
    Nat → Nat → Word → Octets → Reading Word
  | 0, _, _, _ => throw .tooDeep
  | n + 1, depth, done, bare => do
    let t ← rest
    let again (done : Word) (bare : Octets) : Reading Word :=
      partsFrom inner mode n depth done bare
    let plain (c : Char) : Reading Word := do
      advance 1
      again done (c :: bare)
    match t with
    | [] => return (flush bare done).reverse
    | c :: u =>
      if depth = 0 && ends mode c then
        -- the start of a file for the output or input of commands
        match c, u, mode with
        | '<', '(' :: _, .word _ | '>', '(' :: _, .word _ =>
          if ← isBash then
            advance 2
            let cs ← captured inner
            again (.stream (c == '<') cs :: flush bare done) []
          else return (flush bare done).reverse
        | _, _, _ => return (flush bare done).reverse
      else match c with
        | '\\' =>
          match u with
          | [] =>
            advance 1
            again (.quoted ['\\'] :: flush bare done) []
          | '\n' :: _ =>
            advance 2
            again done bare
          | d :: _ =>
            advance 2
            if escapes mode d then again (.quoted [d] :: flush bare done) []
            else again (.quoted ['\\', d] :: flush bare done) []
        | '\'' =>
          if isDouble mode then plain c
          else
            let body := u.takeWhile (· != '\'')
            if body.length = u.length then throw (.unfinished (← get).line)
            else
              advance (body.length + 2)
              again (.quoted body :: flush bare done) []
        | '"' =>
          if mode = .document then plain c
          else
            advance 1
            let ps ← inner.parts .double
            expect "\""
            again (.double ps :: flush bare done) []
        | '\x60' =>
          match cutBackquote (isDouble mode) [] u with
          | some (body, after) =>
            advance (t.length - after.length)
            again (.capture (← commandsOf inner body) :: flush bare done) []
          | none => throw (.unfinished (← get).line)
        | '$' =>
          match ← dollar inner (isDouble mode) with
          | some p => again (p :: flush bare done) []
          | none => plain c
        | '~' =>
          let first := match mode with
            | .word true => done.isEmpty && (bare.isEmpty || bare.head? == some ':')
            | .word false => done.isEmpty && bare.isEmpty
            | _ => false
          match if first then tildeUser? mode u else none with
          | some user =>
            advance (user.length + 1)
            again (.tilde user :: flush bare done) []
          | none => plain c
        | '(' =>
          advance 1
          partsFrom inner mode n (if isDouble mode then 0 else depth + 1) done (c :: bare)
        | ')' =>
          advance 1
          partsFrom inner mode n (depth - 1) done (c :: bare)
        | c =>
          let opens := (← get).extended && !isDouble mode && "?*+@!".toList.contains c &&
            u.head? == some '('
          if opens then
            advance 2
            partsFrom inner mode n (depth + 1) done ('(' :: c :: bare)
          else plain c

/-! ### Redirections -/

/-- The operators of redirections; those of one dialect are marked. -/
def redirectOperators : List (String × RedirectKind × Bool) := [
  ("&>>", .outputs true, true), ("&>", .outputs false, true), ("<<<", .hereString, true),
  ("<<-", .document, false), ("<<", .document, false), ("<&", .copy, false),
  ("<>", .both, false), (">>", .append, false), (">&", .copy, false), (">|", .clobber, false),
  ("<", .read, false), (">", .write, false)]

/-- Read the word that ends a here-document, and whether it is quoted, in at most so many steps;
    the word so far is in reverse order. -/
def delimiter : Nat → Octets → Bool → Reading (Octets × Bool)
  | 0, _, _ => throw .tooDeep
  | n + 1, w, q => do
    match ← rest with
    | [] => return (w.reverse, q)
    | c :: t =>
      if isMeta c then return (w.reverse, q)
      else if c = '\\' then
        match t with
        | d :: _ =>
          advance 2
          delimiter n (if d = '\n' then w else d :: w) true
        | [] =>
          advance 1
          return (w.reverse, true)
      else if c = '\'' ∨ c = '"' then
        let body := t.takeWhile (· != c)
        advance (body.length + 2)
        delimiter n (body.reverse ++ w) true
      else
        advance 1
        delimiter n (c :: w) q

/-- Cut the lines of a here-document: the lines before the delimiter, how many lines that took, and
    what follows.  The lines so far are in reverse order. -/
def cutDocument (stop : Octets) (tabs : Bool) :
    Nat → List Octets → Octets → List Octets × Nat × Octets
  | 0, done, t => (done.reverse, done.length, t)
  | _ + 1, done, [] => (done.reverse, done.length, [])
  | n + 1, done, t =>
    let line := t.takeWhile (· != '\n')
    let after := t.drop (line.length + 1)
    let line := if tabs then line.dropWhile (· == '\t') else line
    if line = stop then (done.reverse, done.length + 1, after)
    else cutDocument stop tabs n (line :: done) after

/-- Lines end with a backslash that continues them, so that tabs in front of the next one stay. -/
def continues (line : Octets) : Bool := (line.reverse.takeWhile (· == '\\')).length % 2 == 1

/-- Read a here-document, which starts on the next line. -/
def document (inner : Inner) (tabs : Bool) : Reading Word := do
  skipBlanks
  let (stop, isQuoted) ← delimiter ((← rest).length + 1) [] false
  let t ← rest
  let line := t.takeWhile (· != '\n')
  let after := t.drop (line.length + 1)
  let (lines, count, after) := cutDocument stop tabs (after.length + 1) [] after
  modify fun s => { s with rest := line ++ '\n' :: after, owed := s.owed + count }
  let body := Octets.unlines lines
  if isQuoted then return [.quoted body] else within body (inner.parts .document)

/-- Read a redirection, if one comes next. -/
def redirect? (inner : Inner) : Reading (Option Redirect) := do
  let start ← get
  let t := start.rest
  let digits := t.takeWhile Char.isDigit
  let named : Option Octets := match t with
    | '\x7b' :: u =>
      let name := u.takeWhile Octets.inName
      match u.drop name.length with
      | '\x7d' :: '<' :: _ | '\x7d' :: '>' :: _ =>
        if Octets.isName name ∧ start.dialect = .bash then some name else none
      | _ => none
    | _ => none
  match named with
  | some name => advance (name.length + 2)
  | none =>
    match t.drop digits.length with
    | '<' :: _ | '>' :: _ => advance digits.length
    | '&' :: '>' :: _ => if digits ≠ [] ∨ start.dialect ≠ .bash then return none
    | _ => return none
  let bash := start.dialect == .bash
  if bash && ((← sees "<(") || (← sees ">(")) then
    set start
    return none
  for (op, kind, rich) in redirectOperators do
    if (!rich || bash) && (← eat op) then
      let usual := if op.toList.head? = some '<' then 0 else 1
      let fd := match kind with
        | .outputs _ => 1
        | _ => (Octets.nat? digits).getD usual
      match kind with
      | .document =>
        return some (.mk (some fd) named kind (← document inner (op == "<<-")))
      | _ =>
        skipBlanks
        let w ← inner.parts (.word false)
        if w.isEmpty then fail
        match kind, Word.bareText? w with
        | .copy, some name =>
          -- a file name instead of a descriptor
          if bash && op == ">&" && digits.isEmpty && named.isNone &&
              name.head? != some '-' && (Octets.nat? name).isNone &&
              !(name.getLast? == some '-' && (Octets.nat? name.dropLast).isSome) then
            return some (.mk (some 1) none (.outputs false) w)
          else return some (.mk (some fd) named kind w)
        | _, _ => return some (.mk (some fd) named kind w)
  fail

/-- Read redirections, in at most so many steps. -/
def redirectsFrom (inner : Inner) : Nat → List Redirect → Reading (List Redirect)
  | 0, done => return done.reverse
  | n + 1, done => do
    skipBlanks
    match ← redirect? inner with
    | some r => redirectsFrom inner n (r :: done)
    | none => return done.reverse

/-- Read redirections. -/
def redirects (inner : Inner) : Reading (List Redirect) := do
  redirectsFrom inner ((← rest).length + 1) []

/-! ### Assignments -/

/-- What an assignment starts with: the name, whether an element is meant, and whether the value is
    appended. -/
inductive AssignStart where
  | plain (name : Octets) (append : Bool)
  | element (name : Octets)

/-- The start of an assignment at the start of a text. -/
def assignStart? (bash : Bool) (t : Octets) : Option AssignStart :=
  let name := t.takeWhile Octets.inName
  if !Octets.isName name then none
  else match t.drop name.length with
    | '=' :: _ => some (.plain name false)
    | '+' :: '=' :: _ => if bash then some (.plain name true) else none
    | '[' :: u =>
      if !bash then none
      else match subscriptLength 0 0 u with
        | some n =>
          match u.drop (n + 1) with
          | '=' :: _ | '+' :: '=' :: _ => some (.element name)
          | _ => none
        | none => none
    | _ => none

/-- Read the elements of a list behind its parenthesis, in at most so many steps. -/
def elementsFrom (inner : Inner) : Nat → List Element → Reading (List Element)
  | 0, _ => throw .tooDeep
  | n + 1, done => do
    skipFeeds
    if ← eat ")" then return done.reverse
    else
      let indexed : Bool := match ← rest with
        | '[' :: u =>
          match subscriptLength 0 0 u with
          | some k =>
            match u.drop (k + 1) with
            | '=' :: _ | '+' :: '=' :: _ => true
            | _ => false
          | none => false
        | _ => false
      if indexed then
        advance 1
        let sub ← inner.parts .subscript
        expect "]"
        let append ← eat "+"
        expect "="
        let w ← inner.parts (.word true)
        elementsFrom inner n (.at sub append w :: done)
      else
        let w ← inner.parts (.word false)
        if w.isEmpty then fail
        elementsFrom inner n (.next w :: done)

/-- Read an assignment, if one comes next. -/
def assign? (inner : Inner) : Reading (Option Assign) := do
  let bash ← isBash
  match assignStart? bash (← rest) with
  | none => return none
  | some (.plain name append) =>
    advance (name.length + (if append then 2 else 1))
    if bash && (← eat "(") then
      return some (.list name append (← elementsFrom inner ((← rest).length + 1) []))
    else return some (.scalar name none append (← inner.parts (.word true)))
  | some (.element name) =>
    advance name.length
    let sub ← subscript? inner
    let append ← eat "+"
    expect "="
    return some (.scalar name sub append (← inner.parts (.word true)))

/-! ### Simple commands -/

/-- The commands whose arguments are read as assignments. -/
def declares (d : Dialect) (name : Octets) : Bool :=
  (["export", "readonly", "local"] ++ if d = .bash then ["declare", "typeset"] else []).any
    fun s => s.toList == name

/-- Put the text of an alias in place of its name, if one comes next in the place of a command; at
    most so many times. -/
def unalias : Nat → Reading Unit
  | 0 => pure ()
  | n + 1 => do
    let w ← peekBare
    let s ← get
    match if w = [] then none else s.aliases.get? w with
    | none => pure ()
    | some t =>
      let left := s.rest.length - w.length
      if s.busy.any fun b => b.1 == w && s.rest.length > b.2 then pure ()
      else
        set { s with rest := t ++ s.rest.drop w.length, busy := (w, left) :: s.busy }
        unalias n

/-- Read arguments and redirections, in at most so many steps; all are in reverse order. -/
def argumentsFrom (inner : Inner) (line : Nat) :
    Nat → List Assign → List Argument → List Redirect → Option Octets → Reading Command
  | 0, _, _, _, _ => throw .tooDeep
  | n + 1, assigns, args, rs, name => do
    skipBlanks
    match ← redirect? inner with
    | some r => argumentsFrom inner line n assigns args (r :: rs) name
    | none =>
      let finish : Reading Command := do
        if assigns.isEmpty && args.isEmpty && rs.isEmpty then fail
        return .simple line assigns.reverse args.reverse rs.reverse
      match ← rest with
      | [] => finish
      | c :: t =>
        let streams := (c == '<' || c == '>') && t.head? == some '('
        if isMeta c && !(streams && (← isBash)) then finish
        else if args.isEmpty then
          match ← assign? inner with
          | some a => argumentsFrom inner line n (a :: assigns) args rs name
          | none =>
            unalias 20
            let w ← inner.parts (.word false)
            if w.isEmpty then argumentsFrom inner line n assigns args rs name
            else argumentsFrom inner line n assigns (.word w :: args) rs (Word.bareText? w)
        else
          let s ← get
          if name.any (declares s.dialect) then
            match ← assign? inner with
            | some a => argumentsFrom inner line n assigns (.assign a :: args) rs name
            | none =>
              let w ← inner.parts (.word false)
              argumentsFrom inner line n assigns (.word w :: args) rs name
          else
            let w ← inner.parts (.word false)
            argumentsFrom inner line n assigns (.word w :: args) rs name

/-! ### Conditions -/

/-- What reading a condition needs of itself. -/
abbrev ConditionReader := Reading Condition

/-- The operators on one word. -/
def isUnaryOp (w : Octets) : Bool :=
  match w with
  | ['-', c] => "abcdefghknoprstuvwxzGLNORS".toList.contains c
  | _ => false

/-- The operators between two words that are words themselves. -/
def wordOps : List String :=
  ["==", "=~", "=", "!=", "-eq", "-ne", "-lt", "-le", "-gt", "-ge", "-nt", "-ot", "-ef"]

/-- Read one test. -/
def testOf (inner : Inner) : Reading Condition := do
  skipFeeds
  let op ← peekBare
  let start ← get
  if isUnaryOp op then
    advance op.length
    skipBlanks
    let next ← peekBare
    let t ← rest
    if next = "]]".toList ∨ "&&".toList.isPrefixOf t ∨ "||".toList.isPrefixOf t then set start
    else if (wordOps.map String.toList).contains next then set start
    else return .unary op (← inner.parts (.word false))
  let left ← inner.parts (.word false)
  skipBlanks
  let next ← peekBare
  if next = "=~".toList then
    advance 2
    skipBlanks
    return .binary next left (← inner.parts .regex)
  else if (wordOps.map String.toList).contains next then
    advance next.length
    skipBlanks
    modify fun s => { s with extended := true }
    let right ← inner.parts (.word false)
    modify fun s => { s with extended := start.extended }
    return .binary next left right
  else if ← eat "<" then
    skipBlanks
    return .binary ['<'] left (← inner.parts (.word false))
  else if ← eat ">" then
    skipBlanks
    return .binary ['>'] left (← inner.parts (.word false))
  else return .word left

mutual

/-- Read tests between `||`, in at most so many steps. -/
def anyOf (inner : Inner) : Nat → Reading Condition
  | 0 => throw .tooDeep
  | n + 1 => do
    let c ← allOf inner n
    skipFeeds
    if ← eat "||" then return .or c (← anyOf inner n) else return c

/-- Read tests between `&&`. -/
def allOf (inner : Inner) : Nat → Reading Condition
  | 0 => throw .tooDeep
  | n + 1 => do
    let c ← oneOf inner n
    skipFeeds
    if ← eat "&&" then return .and c (← allOf inner n) else return c

/-- Read a test, possibly negated or in parentheses. -/
def oneOf (inner : Inner) : Nat → Reading Condition
  | 0 => throw .tooDeep
  | n + 1 => do
    skipFeeds
    if ← eatWord "!" then return .not (← oneOf inner n)
    else if ← eat "(" then
      let c ← anyOf inner n
      skipFeeds
      expect ")"
      return c
    else testOf inner

end

/-! ### Compound commands -/

/-- Read commands up to a word. -/
def upTo (inner : Inner) (w : String) : Reading (List Command) := do
  let cs ← inner.commands
  expectWord w
  return cs

/-- Read a body between `do` and `done`, or between braces. -/
def loopBody (inner : Inner) : Reading (List Command) := do
  skipFeeds
  discard (eat ";")
  skipFeeds
  if (← isBash) && (← eatWord "\x7b") then upTo inner "\x7d"
  else
    expectWord "do"
    upTo inner "done"

/-- Read clauses of a branching command up to its end, in at most so many steps. -/
def clausesFrom (inner : Inner) : Nat → List Clause → Reading Command
  | 0, _ => throw .tooDeep
  | n + 1, done => do
    let test ← upTo inner "then"
    let body ← inner.commands
    let done := .mk test body :: done
    skipFeeds
    if ← eatWord "elif" then clausesFrom inner n done
    else if ← eatWord "else" then
      return .branch done.reverse (some (← upTo inner "fi"))
    else
      expectWord "fi"
      return .branch done.reverse none

/-- Read words up to the end of a line or a semicolon, in at most so many steps. -/
def wordsFrom (inner : Inner) : Nat → List Word → Reading (List Word)
  | 0, done => return done.reverse
  | n + 1, done => do
    skipBlanks
    match ← rest with
    | [] => return done.reverse
    | c :: t =>
      let streams := (c == '<' || c == '>') && t.head? == some '('
      if isMeta c && !(streams && (← isBash)) then return done.reverse
      else wordsFrom inner n ((← inner.parts (.word false)) :: done)

/-- Read the words of a command that goes through some. -/
def forWords (inner : Inner) : Reading (Option (List Word)) := do
  skipFeeds
  if ← eatWord "in" then
    let ws ← wordsFrom inner ((← rest).length + 1) []
    return some ws
  else return none

/-- Read a command that goes through words or numbers. -/
def forCommand (inner : Inner) : Reading Command := do
  skipBlanks
  if (← isBash) && (← sees "((") then
    let t ← rest
    match cutArithmetic 0 [] (t.drop 2) with
    | some (body, after) =>
      advance (t.length - after.length)
      match cutSemicolons body with
      | [a, b, c] =>
        let a ← arithmeticParts inner a
        let b ← arithmeticParts inner b
        let c ← arithmeticParts inner c
        skipBlanks
        return .forCount a b c (← loopBody inner)
      | _ => fail
    | none => fail
  else
    let name ← peekBare
    if !Octets.isName name then fail
    advance name.length
    let ws ← forWords inner
    return .forEach name ws (← loopBody inner)

/-- Read the patterns of a branch up to the parenthesis, in at most so many steps. -/
def patternsFrom (inner : Inner) : Nat → List Word → Reading (List Word)
  | 0, _ => throw .tooDeep
  | n + 1, done => do
    skipBlanks
    let w ← inner.parts (.word false)
    if w.isEmpty then fail
    skipBlanks
    if ← eat "|" then patternsFrom inner n (w :: done)
    else
      expect ")"
      return (w :: done).reverse

/-- Read branches of a choice up to its end, in at most so many steps. -/
def branchesFrom (inner : Inner) : Nat → List Branch → Reading (List Branch)
  | 0, _ => throw .tooDeep
  | n + 1, done => do
    skipFeeds
    if ← eatWord "esac" then return done.reverse
    else
      discard (eat "(")
      let ps ← patternsFrom inner n []
      let body ← inner.commands
      skipFeeds
      let bash ← isBash
      if ← eat ";;&" then branchesFrom inner n (.mk ps body .retry :: done)
      else if ← eat ";;" then branchesFrom inner n (.mk ps body .leave :: done)
      else if bash && (← eat ";&") then branchesFrom inner n (.mk ps body .fall :: done)
      else
        expectWord "esac"
        return (.mk ps body .leave :: done).reverse

/-- Read a choice. -/
def choice (inner : Inner) : Reading Command := do
  skipBlanks
  let w ← inner.parts (.word false)
  if w.isEmpty then fail
  expectWord "in"
  return .choose w (← branchesFrom inner ((← rest).length + 1) [])

/-- Read the body of a definition. -/
def definition (inner : Inner) (compound : Reading (Option Command)) (name : Octets) :
    Reading Command := do
  skipFeeds
  match ← compound with
  | some c =>
    let rs ← redirects inner
    return .define name (if rs.isEmpty then c else .redirected c rs)
  | none => fail

/-- Read a command that is made of others, if one comes next. -/
def compound (inner : Inner) : Reading (Option Command) := do
  let bash ← isBash
  if bash && (← sees "((") then
    let t ← rest
    match cutArithmetic 0 [] (t.drop 2) with
    | some (body, after) =>
      advance (t.length - after.length)
      return some (.compute (← arithmeticParts inner body))
    | none => pure ()
  if ← eat "(" then
    let cs ← captured inner
    return some (.subshell cs)
  else
    let n := (← rest).length + 1
    match Octets.toString (← peekBare) with
    | "\x7b" =>
      advance 1
      return some (.group (← upTo inner "\x7d"))
    | "if" =>
      advance 2
      return some (← clausesFrom inner n [])
    | "while" =>
      advance 5
      let test ← upTo inner "do"
      return some (.loop false test (← upTo inner "done"))
    | "until" =>
      advance 5
      let test ← upTo inner "do"
      return some (.loop true test (← upTo inner "done"))
    | "for" =>
      advance 3
      return some (← forCommand inner)
    | "case" =>
      advance 4
      return some (← choice inner)
    | "[[" =>
      if bash then
        advance 2
        let c ← anyOf inner n
        expectWord "]]"
        return some (.check c)
      else return none
    | _ => return none

/-- Read the parentheses behind the name of a definition, if they come next. -/
def parentheses : Reading Bool := do
  let start ← get
  skipBlanks
  if ← eat "(" then
    skipBlanks
    if ← eat ")" then return true
  set start
  return false

/-- A word that may be the name of a definition. -/
def isCommandName (bash : Bool) (w : Octets) : Bool :=
  if bash then !w.isEmpty && !w.any fun c => "$\x60'\"\\=/".toList.contains c
  else Octets.isName w

/-- Read a definition, if one comes next. -/
def define? (inner : Inner) : Reading (Option Command) := do
  let start ← get
  let bash ← isBash
  let w ← peekBare
  if bash && w = "function".toList then
    advance w.length
    skipBlanks
    let name ← peekBare
    advance name.length
    discard parentheses
    return some (← definition inner (compound inner) name)
  else if isCommandName bash w then
    advance w.length
    if ← parentheses then return some (← definition inner (compound inner) w)
    else
      set start
      return none
  else return none

/-- Read a command without what could follow it in a pipeline. -/
def command (inner : Inner) : Reading Command := do
  skipBlanks
  unalias 20
  match ← compound inner with
  | some c =>
    let rs ← redirects inner
    return if rs.isEmpty then c else .redirected c rs
  | none =>
    match ← define? inner with
    | some c => return c
    | none =>
      let w ← peekBare
      if ["then", "do", "done", "fi", "elif", "else", "esac", "\x7d"].any fun s =>
          s.toList == w then throw (.unexpected (← get).line w)
      let line := (← get).line
      argumentsFrom inner line ((← rest).length + 2) [] [] [] none

/-- Send the errors of a command where its output goes. -/
def withErrors (c : Command) : Command :=
  .redirected c [.mk (some 2) none .copy [.bare ['1']]]

/-- Read the commands of a pipeline, in at most so many steps. -/
def pipelineFrom (inner : Inner) : Nat → List Command → Reading (List Command)
  | 0, _ => throw .tooDeep
  | n + 1, done => do
    let c ← command inner
    skipBlanks
    let t ← rest
    if "||".toList.isPrefixOf t then return (c :: done).reverse
    else if (← isBash) && (← eat "|&") then
      skipFeeds
      pipelineFrom inner n (withErrors c :: done)
    else if ← eat "|" then
      skipFeeds
      pipelineFrom inner n (c :: done)
    else return (c :: done).reverse

/-- Read a pipeline, possibly negated; at most so many marks of negation are read. -/
def pipeline (inner : Inner) : Nat → Reading Command
  | 0 => throw .tooDeep
  | n + 1 => do
    skipBlanks
    unalias 20
    if ← eatWord "!" then return .negated (← pipeline inner n)
    else if (← isBash) && (← peekBare) = "time".toList then
      advance 4
      skipBlanks
      discard (eatWord "-p")
      pipeline inner n
    else
      match ← pipelineFrom inner ((← rest).length + 2) [] with
      | [c] => return c
      | cs => return .pipeline cs

/-- Read further pipelines behind a command, in at most so many steps. -/
def andOrFrom (inner : Inner) : Nat → Command → Reading Command
  | 0, _ => throw .tooDeep
  | n + 1, c => do
    skipBlanks
    if ← eat "&&" then
      skipFeeds
      andOrFrom inner n (.andThen c (← pipeline inner 50))
    else if ← eat "||" then
      skipFeeds
      andOrFrom inner n (.orElse c (← pipeline inner 50))
    else return c

/-- Read pipelines between `&&` and `||`. -/
def andOr (inner : Inner) : Reading Command := do
  let c ← pipeline inner 50
  andOrFrom inner ((← rest).length + 2) c

/-- The words that end a list of commands. -/
def closers : List String := ["then", "do", "done", "fi", "elif", "else", "esac", "\x7d"]

/-- A list of commands ends here. -/
def atEnd : Reading Bool := do
  match ← rest with
  | [] => return true
  | ')' :: _ => return true
  | ';' :: ';' :: _ => return true
  | ';' :: '&' :: _ => isBash
  | _ =>
    let w ← peekBare
    return closers.any fun s => s.toList == w

/-- Read commands on a line, or with `across` on many, in at most so many steps. -/
def listFrom (inner : Inner) (across : Bool) : Nat → List Command → Reading (List Command)
  | 0, _ => throw .tooDeep
  | n + 1, done => do
    if across then skipFeeds else skipBlanks
    if ← atEnd then return done.reverse
    else if !across && (← sees "\n") then return done.reverse
    else
      let c ← andOr inner
      skipBlanks
      if (← sees ";") && !(← sees ";;") && !((← sees ";&") && (← isBash)) then
        advance 1
        listFrom inner across n (c :: done)
      else if (← sees "&") then
        advance 1
        listFrom inner across n (.background c :: done)
      else if ← sees "\n" then
        if across then
          advance 1
          listFrom inner across n (c :: done)
        else return (c :: done).reverse
      else if ← atEnd then return (c :: done).reverse
      else fail

mutual

/-- Read a word, in at most so many nested steps. -/
def parts : Nat → WordMode → Reading Word
  | 0, _ => throw .tooDeep
  | n + 1, mode => do
    let inner : Inner := ⟨parts n, commands n⟩
    let t ← rest
    partsFrom inner mode (t.length + 2) 0 [] []

/-- Read commands up to the end of their list, in at most so many nested steps. -/
def commands : Nat → Reading (List Command)
  | 0 => throw .tooDeep
  | n + 1 => do
    let inner : Inner := ⟨parts n, commands n⟩
    listFrom inner true ((← rest).length + 2) []

end

/-- How deeply scripts may be nested. -/
def depthLimit : Nat := 1000

/-- Reading at the outermost level. -/
def outer : Inner := ⟨parts depthLimit, commands depthLimit⟩

end Reading

namespace Source

/-- A script of which nothing is read. -/
def ofOctets (d : Dialect) (t : Octets) : Source := ⟨t, 1, 0, d, false, [], []⟩

/-- Read the commands of the next line that has some; none at the end. -/
def next (s : Source) : Except ReadFault (Option (List Command) × Source) :=
  let read : Reading (Option (List Command)) := do
    Reading.skipFeeds
    match ← Reading.rest with
    | [] => return none
    | _ =>
      let cs ← Reading.listFrom Reading.outer false ((← Reading.rest).length + 2) []
      match ← Reading.rest with
      | [] => return some cs
      | '\n' :: _ =>
        Reading.advance 1
        return some cs
      | _ =>
        let w ← Reading.peekBare
        if w.isEmpty then Reading.fail else throw (.unexpected (← get).line w)
  read s

/-- Read a word that makes up a whole text. -/
def wordOf (d : Dialect) (mode : WordMode) (t : Octets) : Except ReadFault Word :=
  ((Reading.parts Reading.depthLimit mode) (ofOctets d t)).map (·.1)

end Source

end FenceSync.Shell
