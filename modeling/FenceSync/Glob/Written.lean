import FenceSync.Glob.Pattern
import FenceSync.Text.Split

namespace FenceSync

/-!
# Globs as written

A written glob knows its text.  What it asks of a path decides how it is matched: a glob that only
asks for the last name, or for what that name ends in, does not match a path that leads to two dots,
since two dots are no name.

* `WrittenGlob.ofText?` reads a glob, and `WrittenGlob.accepts` matches a path.
* `GlobDemand` is what a glob asks of a path.
* `WrittenGlob.census` counts globs by what they ask.
-/

/-- A glob with the text it was read from. -/
structure WrittenGlob where
  text : Text
  tokens : List GlobToken
  deriving DecidableEq, Repr

/-- What a glob asks of a path. -/
inductive GlobDemand where
  /-- The last name is a given one. -/
  | name (n : Text)
  /-- The path is a given one. -/
  | path (p : Text)
  /-- The last name ends with a given extension, dot included. -/
  | extension (e : Text)
  /-- The path starts with a given text. -/
  | opening (t : Text)
  /-- The path ends with a given text, or is that text without the slash in front. -/
  | ending (t : Text)
  /-- A given extension, and something else. -/
  | withExtension (e : Text)
  /-- The last name has a given form. -/
  | nameForm
  /-- Something else. -/
  | other
  deriving DecidableEq, Repr

/-- A demand that looks at the last name by itself. -/
def GlobDemand.asksForName : GlobDemand → Bool
  | .name _ | .extension _ | .withExtension _ => true
  | _ => false

namespace WrittenGlob

/-- Read a glob.  With `lenient`, a bracket that is not closed stands for itself. -/
def ofText? (lenient : Bool) (t : Text) : Except GlobFault WrittenGlob := do
  return ⟨t, ← readGlobTokens lenient t⟩

/-- What the glob matches.  Two stars alone match anything. -/
def glob (g : WrittenGlob) : Glob :=
  if g.tokens = [.leadingDirs] then Glob.anything else Glob.ofTokens g.tokens

/-- The glob as a regular expression. -/
def expression (g : WrittenGlob) : Text :=
  "(?-u)^".toList ++
    (if g.tokens = [.leadingDirs] then ".*".toList else expressionOf g.tokens) ++ ['$']

/-! ### What is asked of a path -/

/-- The text of parts that stand for themselves. -/
def literalText? (ts : List GlobToken) : Option Text :=
  ts.mapM fun t => match t with
    | .literal c => some c
    | _ => none

/-- The text of parts that stand for themselves, unless there are none. -/
def literalPath? (ts : List GlobToken) : Option Text :=
  (literalText? ts).filter fun t => t ≠ []

/-- A text without a slash. -/
def literalName? (ts : List GlobToken) : Option Text :=
  (literalPath? ts).filter fun t => !t.contains '/'

/-- The extension behind a star, if it has no further dot. -/
def starExtension? (ts : List GlobToken) : Option Text :=
  match ts with
  | .star :: .literal '.' :: rest =>
    (literalText? rest).bind fun t =>
      if t.contains '.' || t.contains '/' then none else some ('.' :: t)
  | _ => none

/-- The extension that parts end with, given in reverse order. -/
def finalExtension? (found : Text) : List GlobToken → Option Text
  | .literal '/' :: _ => none
  | .literal '.' :: _ => some ('.' :: found)
  | .literal c :: ts => finalExtension? (c :: found) ts
  | _ => none

/-- What a glob asks that starts with any directories. -/
def demandBehindDirs (ts : List GlobToken) : Option GlobDemand :=
  ((literalName? ts).map .name).or <|
    ((starExtension? ts).map .extension).or <|
      (literalPath? ts).map fun t => .ending ('/' :: t)

/-- What a glob asks that does not start with any directories. -/
def demandFromStart (ts : List GlobToken) : Option GlobDemand :=
  ((literalPath? ts).map .path).or <|
    match ts.getLast? with
    | some .inside => (literalText? ts.dropLast).map fun t => .opening (t ++ ['/'])
    | _ => none

/-- A part that stays in a name. -/
def staysInName : GlobToken → Bool
  | .literal c => c ≠ '/'
  | .any | .star => true
  | .byteClass c => !c.holds ByteClass.slash
  | _ => false

/-- The glob starts with any directories, and what follows stays in a name. -/
def formsName (ts : List GlobToken) : Bool :=
  match ts with
  | .leadingDirs :: rest => !rest.isEmpty && rest.all staysInName
  | _ => false

/-- What the glob asks of a path. -/
def demand (g : WrittenGlob) : GlobDemand :=
  let special := match g.tokens with
    | .leadingDirs :: ts => demandBehindDirs ts
    | ts => demandFromStart ts
  special.getD <|
    match finalExtension? [] g.tokens.reverse with
    | some e => .withExtension e
    | none => if formsName g.tokens then .nameForm else .other

/-- The last piece of a path is two dots. -/
def leadsUp (path : Text) : Bool := (Text.splitOn ['/'] path).getLast? == some ['.', '.']

/-- The glob matches a path. -/
def accepts (g : WrittenGlob) (path : Text) : Bool :=
  !(leadsUp path && (demand g).asksForName) && g.glob.accepts path

/-! ### Counting -/

/-- How many different texts there are. -/
def distinct (ts : List Text) : Nat := ts.eraseDups.length

/-- Messages on the globs that are matched as regular expressions, and on the numbers of globs by
    what they ask. -/
def census (gs : List WrittenGlob) : List String :=
  let general := gs.filter fun g => g.demand == .other
  let forms := gs.countP fun g => g.demand == .nameForm
  let ds := gs.map demand
  let paths := ds.filterMap fun d => match d with
    | .path p => some p
    | .ending t => some (t.drop 1)
    | _ => none
  let names := ds.filterMap fun d => match d with
    | .name n => some n
    | _ => none
  let extensions := ds.filterMap fun d => match d with
    | .extension e => some e
    | _ => none
  let openings := ds.filter fun d => match d with
    | .opening _ => true
    | _ => false
  let endings := ds.filter fun d => match d with
    | .ending _ => true
    | _ => false
  let required := ds.filterMap fun d => match d with
    | .withExtension e => some e
    | _ => none
  general.map (fun g =>
    "glob \x60Glob(" ++ String.ofList (Text.quoted g.text) ++ ")\x60 converted to regex: \x60" ++
      String.ofList (Text.quoted g.expression) ++ "\x60") ++
  [s!"built glob set; {distinct paths} literals, {distinct names} basenames, " ++
    s!"{distinct extensions} extensions, {openings.length} prefixes, {endings.length} suffixes, " ++
    s!"{distinct required} required extensions, {forms} basename regexes, " ++
    s!"{general.length} regexes"]

end WrittenGlob

end FenceSync
