import FenceSync.Log
import FenceSync.Text.Terminal

namespace FenceSync

/-!
# Log style

The log goes to a terminal or to a file, with colours or without.

* `LogStyle.ofVariables` takes the wishes of options and environment together.
* `LogStyle.line` is the line for a message.
-/

/-- What becomes of colours. -/
structure LogStyle where
  /-- Messages are painted. -/
  painted : Bool
  /-- Lines keep their escape sequences. -/
  raw : Bool
  deriving DecidableEq, Repr

namespace LogStyle

/-- A variable asks for paint: it is set, and not to zero. -/
def asksForPaint (v : Option Text) : Bool := v.any (· ≠ ['0'])

/-- A variable is set, and not to nothing. -/
def isGiven (v : Option Text) : Bool := v.any (· ≠ [])

/-- Where the log is not shown on a terminal, colours have to be asked for. -/
def ofVariables (env : String → Option Text) (wanted forced : Bool) : LogStyle where
  painted :=
    forced || (wanted && asksForPaint (env "CLICOLOR_FORCE"))
  raw :=
    match env "RUST_LOG_STYLE" with
    | some ['a', 'l', 'w', 'a', 'y', 's'] => true
    | some ['n', 'e', 'v', 'e', 'r'] => false
    | _ => !isGiven (env "NO_COLOR") && isGiven (env "CLICOLOR_FORCE")

/-- A text with an emphasis, where messages are painted. -/
def paint (s : LogStyle) (e : Terminal.Emphasis) (t : Text) : Text :=
  if s.painted then Terminal.paint e t else t

/-- A message as its level wants it. -/
def dress (s : LogStyle) (e : LogEntry) : Text :=
  let t := e.text.toList
  match e.level with
  | .error => s.paint .boldRed "error:".toList ++ ' ' :: s.paint .red t
  | .warn => s.paint .yellow t
  | .info => t
  | .debug | .trace => s.paint .dimmed t

/-- The line for a message. -/
def line (s : LogStyle) (e : LogEntry) : Text :=
  let t := s.dress e ++ ['\n']
  if s.raw then t else Terminal.plain t

end LogStyle

end FenceSync
