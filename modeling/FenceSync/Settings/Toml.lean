import FenceSync.Text.Split

namespace FenceSync

/-!
# Settings files

Settings files hold keys and values in TOML.  No setting is a table, so only values at the top level
are read: strings, integers, booleans and arrays of strings.  Anything else is refused.

* `Toml.tokens?` cuts a file into tokens; `Toml.unescape?` reads the escapes of a string.
* `Toml.number?` reads an integer in one of four bases.
* `Toml.entries?` puts keys and values together.
-/

namespace Toml

/-- A value. -/
inductive Value where
  | text (t : Text)
  | number (n : Nat)
  | flag (b : Bool)
  | texts (ts : List Text)
  deriving DecidableEq, Repr

/-- A part of a settings file that is neither white space nor a comment. -/
inductive Token where
  /-- A bare key, number or boolean. -/
  | word (w : Text)
  /-- A string, on one line or on many. -/
  | text (multiline : Bool) (t : Text)
  | equals
  | comma
  | opening
  | closing
  | newline
  deriving DecidableEq, Repr

/-! ### Characters -/

/-- Allowed in comments and in strings. -/
def isPlain (c : Char) : Bool := c == '\t' || (0x20 ≤ c.toNat && c.toNat ≠ 0x7F)

/-- Part of a word. -/
def isWordChar (c : Char) : Bool := c.isAlphanum || c == '_' || c == '-' || c == '+'

/-- The value of a hexadecimal digit. -/
def hexValue? (c : Char) : Option Nat :=
  let n := c.toNat
  if c.isDigit then some (n - 0x30)
  else if 'a' ≤ c ∧ c ≤ 'f' then some (n - 0x61 + 10)
  else if 'A' ≤ c ∧ c ≤ 'F' then some (n - 0x41 + 10)
  else none

/-! ### Strings -/

/-- What the character behind a backslash stands for. -/
def shortEscape? : Char → Option Char
  | 'b' => some '\x08'
  | 't' => some '\t'
  | 'n' => some '\n'
  | 'f' => some '\x0c'
  | 'r' => some '\r'
  | 'e' => some '\x1b'
  | '"' => some '"'
  | '\\' => some '\\'
  | _ => none

/-- How many hexadecimal digits follow the character behind a backslash. -/
def hexLength? : Char → Option Nat
  | 'x' => some 2
  | 'u' => some 4
  | 'U' => some 8
  | _ => none

/-- The character with the given code point. -/
def scalar? (n : Nat) : Option Char := if n.isValidChar then some (Char.ofNat n) else none

/-- A place in a string. -/
inductive Place where
  | plain
  | escape
  /-- So many hexadecimal digits are still to come, after ones of this value. -/
  | digits (missing value : Nat)
  /-- Behind a backslash at the end of a line, before its newline. -/
  | gap
  /-- Behind that newline, where white space is skipped. -/
  | margin
  deriving DecidableEq, Repr

/-- Whether a character may stand in a string, given what follows it. -/
def isStringChar (multiline : Bool) (c : Char) (rest : Text) : Bool :=
  isPlain c || (multiline && (c == '\n' || (c == '\r' && rest.head? == some '\n')))

/-- Read the escapes in the part of a string that starts at the given place. -/
def unescapeFrom? (multiline : Bool) : Place → Text → Option Text
  | .plain, [] | .margin, [] => some []
  | _, [] => none
  | .plain, c :: t =>
    if c = '\\' then unescapeFrom? multiline .escape t
    else if isStringChar multiline c t then (unescapeFrom? multiline .plain t).map (c :: ·)
    else none
  | .escape, c :: t =>
    match shortEscape? c, hexLength? c with
    | some d, _ => (unescapeFrom? multiline .plain t).map (d :: ·)
    | none, some n => unescapeFrom? multiline (.digits n 0) t
    | none, none =>
      if !multiline then none
      else if c = '\n' then unescapeFrom? multiline .margin t
      else if c = ' ' ∨ c = '\t' ∨ (c = '\r' ∧ t.head? = some '\n') then
        unescapeFrom? multiline .gap t
      else none
  | .digits missing value, c :: t =>
    match hexValue? c with
    | none => none
    | some d =>
      let next := value * 16 + d
      if missing ≤ 1 then
        match scalar? next with
        | none => none
        | some e => (unescapeFrom? multiline .plain t).map (e :: ·)
      else unescapeFrom? multiline (.digits (missing - 1) next) t
  | .gap, c :: t =>
    if c = '\n' then unescapeFrom? multiline .margin t
    else if c = ' ' ∨ c = '\t' ∨ (c = '\r' ∧ t.head? = some '\n') then
      unescapeFrom? multiline .gap t
    else none
  | .margin, c :: t =>
    if c = ' ' ∨ c = '\t' ∨ c = '\n' ∨ (c = '\r' ∧ t.head? = some '\n') then
      unescapeFrom? multiline .margin t
    else if c = '\\' then unescapeFrom? multiline .escape t
    else if isStringChar multiline c t then (unescapeFrom? multiline .plain t).map (c :: ·)
    else none

/-- Check the characters of a string without escapes. -/
def literal? (multiline : Bool) : Text → Option Text
  | [] => some []
  | c :: t => if isStringChar multiline c t then (literal? multiline t).map (c :: ·) else none

/-- The content of a string from what stands between its quotes. -/
def content? (quote : Char) (multiline : Bool) (body : Text) : Option Text :=
  if quote = '"' then unescapeFrom? multiline .plain body else literal? multiline body

/-- The text up to a quote, and what follows the quote.  Where there are escapes, a quote behind a
    backslash does not count. -/
def cutQuoted? (quote : Char) (escaped : Bool) : Text → Option (Text × Text)
  | [] => none
  | c :: t =>
    if !escaped ∧ c = quote then some ([], t)
    else (cutQuoted? quote (!escaped && c == '\\' && quote == '"') t).map fun r => (c :: r.1, r.2)

/-- The number of quotes that a text starts with. -/
def quotesAhead (quote : Char) (t : Text) : Nat := (t.takeWhile (· == quote)).length

/-- The text up to three quotes, and what follows them.  Of four or five quotes in a row the last
    three end the text. -/
def cutTripleQuoted? (quote : Char) (escaped : Bool) : Text → Option (Text × Text)
  | [] => none
  | c :: t =>
    let more := (cutTripleQuoted? quote (!escaped && c == '\\' && quote == '"') t).map
      fun r => (c :: r.1, r.2)
    let run := if escaped then 0 else quotesAhead quote (c :: t)
    if run < 3 ∨ run = 4 ∨ run = 5 then more else some ([], t.drop 2)

/-- The text without a newline at its start. -/
def dropNewline : Text → Text
  | '\n' :: t => t
  | '\r' :: '\n' :: t => t
  | t => t

/-- A string token behind its first quote, and what follows it. -/
def cutString? (quote : Char) (t : Text) : Option (Token × Text) := do
  match Text.after? [quote, quote] t with
  | some rest =>
    let (body, rest) ← cutTripleQuoted? quote false rest
    return (.text true (← content? quote true (dropNewline body)), rest)
  | none =>
    let (body, rest) ← cutQuoted? quote false t
    return (.text false (← content? quote false body), rest)

/-! ### Tokens -/

/-- The token of a single character. -/
def symbol? : Char → Option Token
  | '=' => some .equals
  | ',' => some .comma
  | '[' => some .opening
  | ']' => some .closing
  | '\n' => some .newline
  | _ => none

/-- Cut off at most so many tokens. -/
def tokensFrom? : Nat → Text → Option (List Token)
  | _, [] => some []
  | 0, _ :: _ => none
  | n + 1, c :: t =>
    match symbol? c with
    | some token => (tokensFrom? n t).map (token :: ·)
    | none =>
      if c = ' ' ∨ c = '\t' ∨ (c = '\r' ∧ t.head? = some '\n') then tokensFrom? n t
      else if c = '#' then tokensFrom? n (t.dropWhile isPlain)
      else if c = '"' ∨ c = '\'' then do
        let (token, rest) ← cutString? c t
        (tokensFrom? n rest).map (token :: ·)
      else if isWordChar c then
        (tokensFrom? n (t.dropWhile isWordChar)).map (.word (c :: t.takeWhile isWordChar) :: ·)
      else none

/-- The tokens of a file, a byte order mark at its start aside. -/
def tokens? (t : Text) : Option (List Token) :=
  let t := (Text.after? ['\uFEFF'] t).getD t
  tokensFrom? t.length t

/-! ### Numbers -/

/-- Digits, with single underscores between them, in a base. -/
def digitsValue? (base : Nat) (t : Text) : Option Nat :=
  let runs := Text.splitOn ['_'] t
  if runs.any List.isEmpty then none
  else runs.flatten.foldlM (fun n c =>
    (hexValue? c).bind fun d => if d < base then some (n * base + d) else none) 0

/-- Decimal digits without a zero in front. -/
def decimal? (t : Text) : Option Nat :=
  if t.head? = some '0' ∧ t ≠ ['0'] then none else digitsValue? 10 t

/-- An integer that is not negative. -/
def number? : Text → Option Nat
  | '0' :: 'x' :: t => digitsValue? 16 t
  | '0' :: 'o' :: t => digitsValue? 8 t
  | '0' :: 'b' :: t => digitsValue? 2 t
  | '+' :: t => decimal? t
  | '-' :: t => (decimal? t).filter (· == 0)
  | t => decimal? t

/-! ### Entries -/

/-- A token that is a value by itself. -/
def value? : Token → Option Value
  | .text _ t => some (.text t)
  | .word w =>
    if w = "true".toList then some (.flag true)
    else if w = "false".toList then some (.flag false)
    else (number? w).map .number
  | _ => none

/-- A token that can be a key. -/
def key? : Token → Option Text
  | .word w => some w
  | .text false t => some t
  | _ => none

/-- A place between two tokens. -/
inductive Spot where
  /-- Before a line. -/
  | line
  /-- Behind a value. -/
  | ended
  /-- In an array, before an item or behind one; with the items so far. -/
  | array (key : Text) (items : List Text) (afterItem : Bool)
  deriving DecidableEq, Repr

/-- Put keys and values together, from the given place on. -/
def entriesFrom? : Spot → List Token → Option (List (Text × Value))
  | .line, [] | .ended, [] => some []
  | .line, .newline :: ts | .ended, .newline :: ts => entriesFrom? .line ts
  | .line, k :: .equals :: v :: ts =>
    match key? k, v with
    | some key, .opening => entriesFrom? (.array key [] false) ts
    | some key, v => do (entriesFrom? .ended ts).map ((key, ← value? v) :: ·)
    | none, _ => none
  | .array key items afterItem, .newline :: ts => entriesFrom? (.array key items afterItem) ts
  | .array key items _, .closing :: ts =>
    (entriesFrom? .ended ts).map ((key, .texts items) :: ·)
  | .array key items false, .text _ t :: ts => entriesFrom? (.array key (items ++ [t]) true) ts
  | .array key items true, .comma :: ts => entriesFrom? (.array key items false) ts
  | _, _ => none

/-- The keys and values of a file. -/
def entries? (t : Text) : Option (List (Text × Value)) := (tokens? t).bind (entriesFrom? .line)

end Toml

end FenceSync
