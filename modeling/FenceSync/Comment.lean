import FenceSync.Text.Basic

namespace FenceSync

/-!
# Comments

A block may carry its directive in a comment on its first line.  How a comment looks depends on
the language of the block.

* `CommentStyle` lists the styles, and `CommentStyle.ofLanguage?` finds the one of a language.
* `CommentStyle.first?` reads the comment that opens a block.
* `CommentStyle.render?` writes one.
-/

/-- The ways of writing a comment. -/
inductive CommentStyle where
  /-- There are no comments. -/
  | none
  /-- A comment follows `//`. -/
  | doubleSlash
  /-- A comment stands between `<!--` and `-->`. -/
  | markup
  /-- A comment follows `#`. -/
  | hash
  /-- A comment follows `'`. -/
  | singleQuote
  /-- A comment follows `%%`. -/
  | doublePercent
  /-- A comment follows `--`. -/
  | doubleHyphen
  deriving DecidableEq, Repr

namespace CommentStyle

/-! ### Languages -/

/-- The languages of each style. -/
def languages : List (CommentStyle × List String) := [
  (.none, ["json"]),
  (.doubleSlash,
    ["txt", "embedme",
     "c", "cpp", "cs", "java", "objectivec", "objc", "arduino", "ino",
     "ts", "tsx", "js", "jsx", "re", "scss", "php", "json5",
     "rust", "go", "golang", "swift", "kotlin", "scala",
     "proto"]),
  (.markup, ["html", "md", "xml"]),
  (.hash, ["py", "python", "bash", "sh", "shell", "yaml", "toml", "rb", "cr", "cmake"]),
  (.singleQuote, ["puml"]),
  (.doublePercent, ["mermaid"]),
  (.doubleHyphen, ["sql", "hs"])]

/-- All languages in alphabetical order. -/
def supported : List String :=
  (languages.flatMap (·.2)).mergeSort (fun s t => decide (s ≤ t))

/-- The small form of a character, as far as it is an ASCII letter; the Kelvin sign is the only
    other character whose small form is one. -/
def smallLetter (c : Char) : Char := if c = '\u212A' then 'k' else c.toLower

/-- The style of a language, whatever the case of its name. -/
def ofLanguage? (language : Text) : Option CommentStyle :=
  let name := String.ofList ((Text.trim language).map smallLetter)
  (languages.find? fun entry => entry.2.contains name).map (·.1)

/-! ### Reading -/

/-- What a comment of the styles without an end starts with. -/
def opening? : CommentStyle → Option Text
  | .none | .markup => Option.none
  | .doubleSlash => some ['/', '/']
  | .hash => some ['#']
  | .singleQuote => some ['\'']
  | .doublePercent => some ['%', '%']
  | .doubleHyphen => some ['-', '-']

/-- Starts with a newline of either kind. -/
def startsNewline : Text → Bool
  | '\n' :: _ | '\r' :: '\n' :: _ => true
  | _ => false

/-- The rest of a line that is ended by a newline. -/
def restOfLine? (t : Text) : Option Text :=
  let inLine (c : Char) : Bool := c ≠ '\r' && c ≠ '\n'
  if startsNewline (t.dropWhile inLine) then some (t.takeWhile inLine) else Option.none

/-- The word at the start of a text, if only white space lies between it and the first `-->` that
    can follow. -/
def wordBeforeEnd? : Text → Option Text
  | [] => Option.none
  | c :: t =>
    if (Text.after? ['-', '-', '>'] (Text.trimStart (c :: t))).isSome then some []
    else if isSpace c then Option.none
    else (wordBeforeEnd? t).map (c :: ·)

/-- The word inside the first one-word comment of a line. -/
def markupWord? : Text → Option Text
  | [] => Option.none
  | c :: t =>
    match Text.after? ['<', '!', '-', '-'] (c :: t) with
    | some rest => (wordBeforeEnd? (Text.trimStart rest)).or (markupWord? t)
    | Option.none => markupWord? t

/-- A line without the newline that ends it. -/
def withoutNewline (line : Text) : Text :=
  match Text.before? ['\r', '\n'] line with
  | some t => t
  | Option.none => (Text.before? ['\n'] line).getD line

/-- The comment that opens a block: on its first line that is not blank, and behind nothing but
    white space unless the style marks where comments end. -/
def first? (style : CommentStyle) (code : Text) : Option Text :=
  match style with
  | .markup =>
    match (Text.lines code).find? (fun line => !Text.isBlank line) with
    | some line => markupWord? (withoutNewline line)
    | Option.none => Option.none
  | style =>
    style.opening?.bind fun opening =>
      (Text.after? opening (Text.trimStart code)).bind restOfLine?

/-! ### Writing -/

/-- A comment with the given content. -/
def render? (style : CommentStyle) (content : Text) : Option Text :=
  let content := Text.trim content
  match style with
  | .markup => some ("<!-- ".toList ++ content ++ " -->".toList)
  | style => style.opening?.map fun opening => opening ++ ' ' :: content

end CommentStyle

end FenceSync
