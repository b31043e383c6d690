import FenceSync.Comment
import FenceSync.Directive
import FenceSync.Document
import FenceSync.Newline
import FenceSync.Options
import FenceSync.Surroundings
import FenceSync.Text.Quoted

namespace FenceSync

/-!
# Resolving a block

A block is resolved in three steps, of which only the second one looks outside.

* `Snippet.demand` finds out what the block asks for.
* `Directive.lines` fetches the lines of a file or of a command's output.
* `Snippet.settle` makes the new interior of them, or refuses.
* `Snippet.resolve` takes the steps in turn.
-/

/-! ### Outcomes -/

/-- What becomes of a block.  Every outcome but `resolved` leaves it as it is. -/
inductive Outcome where
  /-- A marker asks to leave the block alone. -/
  | ignored
  /-- There is no language, or no known way of writing comments in it. -/
  | languageUnresolved (language : Text)
  /-- Neither a marker nor a comment carries a directive. -/
  | noDirective
  /-- The directive could not be read, and that is tolerated. -/
  | directiveInvalid (directive : Text)
  | upToDate
  /-- The block gets a new interior with so many lines below the comment. -/
  | resolved (replacement : Text) (lineCount : Nat)
  deriving DecidableEq, Repr

/-- The block gets a new interior. -/
def Outcome.isResolved : Outcome → Bool
  | .resolved .. => true
  | _ => false

/-- The interior of a block with the given outcome. -/
def Outcome.interior (old : Text) : Outcome → Text
  | .resolved replacement _ => replacement
  | _ => old

/-- Why a block could not be resolved. -/
inductive ResolveError where
  | invalidDirective (directive : Text)
  | fileNotFound (path : Text) (searched : List Path)
  | unreadable (path : Path) (cause : FileError)
  | shell (command : Text) (cause : ShellError)
  | commandFailed (command : Text) (exitCode : Int) (output : Text)
  | nestedFence (preview : Text)
  deriving DecidableEq, Repr

/-- An error in words. -/
def ResolveError.message : ResolveError → String
  | .invalidDirective directive =>
    s!"{String.ofList (Text.quoted directive)} is not a valid directive"
  | .fileNotFound path searched =>
    let places := String.intercalate ", " (searched.map Path.toString)
    s!"file {String.ofList path} not found (searched {places})"
  | .unreadable path cause => s!"failed to read {path.toString}: {cause.message}"
  | .shell command cause => cause.message command
  | .commandFailed command exitCode output =>
    s!"`{String.ofList command}` exited with code {exitCode}:\n{String.ofList output}"
  | .nestedFence preview =>
    "refusing to embed output that would embed a nested code fence:\n" ++ String.ofList preview

/-- The error ends the work on the document whether or not strictness is asked for. -/
def ResolveError.isFatal : ResolveError → Bool
  | .invalidDirective _ => false
  | _ => true

/-! ### What a block asks for -/

/-- The request of a block. -/
inductive Demand where
  /-- Nothing is to be embedded. -/
  | settled (outcome : Outcome)
  /-- The directive cannot be read. -/
  | invalid (directive : Text)
  /-- A directive, as it was written and as it was read, in a block with this comment style. -/
  | wanted (style : CommentStyle) (text : Text) (directive : Directive)
  deriving DecidableEq, Repr

/-- The text of a block's directive: the marker's, or the comment that opens the block. -/
def Snippet.directiveText? (s : Snippet) (style : CommentStyle) : Option Text :=
  match s.marker with
  | .directive text => some text
  | _ => (style.first? s.code).filter fun text => !Text.isBlank text

/-- Find out what a block asks for. -/
def Snippet.demand (s : Snippet) : Demand :=
  if s.marker = .ignoreNext then .settled .ignored
  else match CommentStyle.ofLanguage? s.fence.language with
    | none => .settled (.languageUnresolved s.fence.language)
    | some style =>
      match s.directiveText? style with
      | none => .settled .noDirective
      | some text =>
        match Directive.ofText? text with
        | none => .invalid (Text.trim text)
        | some d => .wanted style text d

/-! ### Fetching lines -/

/-- The white space at the start of every line that is not blank. -/
def commonIndent (lines : List Text) : Nat :=
  ((lines.filter fun line => !Text.isBlank line).map
    fun line => (line.takeWhile isSpace).length).min?.getD 0

/-- Lines without the white space that all of them start with; blank lines become empty. -/
def dedent (lines : List Text) : List Text :=
  lines.map fun line => if Text.isBlank line then [] else line.drop (commonIndent lines)

/-- The lines of a file that a range selects. -/
def linesOfFile (range : Option LineRange) (content : Bytes) : List Text :=
  let lines := Text.splitOn (Bytes.newline content).text (Bytes.lossyText content)
  dedent ((selectedLines range lines.length).slice lines)

/-- The lines of a command's output. -/
def linesOfOutput (output : Bytes) : List Text :=
  Text.splitOn (Bytes.newline output).text (Bytes.lossyText output)

section
variable {m : Type → Type} [Monad m]

/-- The first of some paths at which a file stands. -/
def firstFile? (env : Surroundings m) : List Path → m (Option Path)
  | [] => pure none
  | p :: ps => do if ← env.isFile p then pure (some p) else firstFile? env ps

/-- The selected lines of the file that a path leads to from one of the base directories. -/
def fileLines (env : Surroundings m) (o : Options) (path : Text) (range : Option LineRange) :
    ExceptT ResolveError m (List Text) := do
  let searched := o.baseDirs.map fun dir => dir.join ⟨path⟩
  match ← firstFile? (m := m) env searched with
  | none => throw (.fileNotFound path searched)
  | some p =>
    match ← env.read p with
    | .error e => throw (.unreadable p e)
    | .ok content => pure (linesOfFile range content)

/-- The lines that a command prints in the working directory. -/
def commandLines (env : Surroundings m) (o : Options) (line : Text) :
    ExceptT ResolveError m (List Text) := do
  match ← env.run line o.workingDir with
  | .error e => throw (.shell line e)
  | .ok result =>
    if result.success then pure (linesOfOutput result.output)
    else
      throw (.commandFailed line result.exitCode
        (Text.trimEnd (Bytes.lossyText result.output)))

/-- The lines that a directive asks for. -/
def Directive.lines (env : Surroundings m) (o : Options) (d : Directive) :
    ExceptT ResolveError m (List Text) :=
  match d with
  | .file path range => fileLines env o path range
  | .command line => commandLines env o line

end

/-! ### The new interior -/

/-- The number of lines shown of a text that cannot be embedded. -/
def fencePreviewLines : Nat := 3

/-- Starts with the backticks of a fence. -/
def startsFence (line : Text) : Bool := (Text.after? fenceMark line).isSome

/-- Put an indentation in front of every line, but not behind the last newline. -/
def indentLines (indent newline text : Text) : Text :=
  let pieces := Text.splitOn newline text
  let indented := pieces.dropLast.map (indent ++ ·) ++
    (pieces.getLast?.toList.map fun p => if p = [] then [] else indent ++ p)
  if indent = [] then text else Text.joinWith newline indented

/-- The text to embed: lines without white space at the end, and one newline. -/
def embeddedText (newline : Text) (lines : List Text) : Text :=
  Text.trimEnd (Text.joinWith newline lines) ++ newline

/-- The comment that keeps the directive in the block, and an empty line. -/
def Snippet.header (s : Snippet) (o : Options) (style : CommentStyle) (text newline : Text) :
    Text :=
  match s.marker, o.stripComment, style.render? text with
  | .directive _, _, _ | _, true, _ | _, _, none => []
  | _, false, some comment => comment ++ newline ++ newline

/-- Make the new interior of a block, unless it holds a fence or nothing changes. -/
def Snippet.settle (s : Snippet) (o : Options) (style : CommentStyle) (text newline : Text)
    (lines : List Text) : Except ResolveError Outcome :=
  let output := embeddedText newline lines
  let outputLines := Text.splitOn newline output
  if outputLines.any startsFence then
    .error (.nestedFence (Text.joinWith newline (Text.preview fencePreviewLines outputLines)))
  else
    let replacement :=
      indentLines s.fence.indent newline (s.header o style text newline ++ output)
    if replacement = s.code then .ok .upToDate
    else .ok (.resolved replacement (outputLines.length - 1))

/-! ### All steps -/

/-- Resolve a block of a document with the given newline. -/
def Snippet.resolve {m : Type → Type} [Monad m] (env : Surroundings m) (o : Options)
    (s : Snippet) (newline : Text) : ExceptT ResolveError m Outcome :=
  match s.demand with
  | .settled outcome => pure outcome
  | .invalid directive => throw (.invalidDirective directive)
  | .wanted style text d => do
    env.log ⟨.debug, .resolving,
      s!"resolving {String.ofList d.text} ({String.ofList s.fence.language} block)"⟩
    let lines ← d.lines env o
    match s.settle o style text newline lines with
    | .ok outcome => pure outcome
    | .error e => throw e

end FenceSync
