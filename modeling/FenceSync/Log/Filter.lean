import FenceSync.Log
import FenceSync.Regex.Meaning
import FenceSync.Text.Split

namespace FenceSync

/-!
# Log filters

A filter says up to which level the parts of the program may log.  Among its rules the one with the
longest name counts that the name of a part starts with; a rule without a name comes after all
others, in the order of the rules, and so does one whose name is empty.

* `LogFilter.ofSpec` reads rules such as `info,embedme_lib=debug`, with a regular expression behind
  a slash that has to occur in messages.
* `LogFilter.shows` decides about a message.
-/

/-- How much is logged: everything up to a level, or nothing. -/
abbrev LogLimit := Option LogLevel

/-- The limit admits a level. -/
def LogLimit.admits (limit : LogLimit) (level : LogLevel) : Bool :=
  limit.any fun l => level.rank ≤ l.rank

/-- A limit for the parts of the program whose names start with `topics`, or for all parts. -/
structure LogRule where
  topics : Option Text
  limit : LogLimit
  deriving DecidableEq, Repr

/-- Rules, and an expression that has to occur in messages. -/
structure LogFilter where
  rules : List LogRule
  needle : Option Regex
  deriving DecidableEq, Repr

/-- What is wrong with the text of a filter. -/
inductive LogSpecFault where
  | slashes (spec : Text)
  | rule (spec : Text)
  | needle (spec : Text) (cause : RegexRefusal)
  deriving DecidableEq, Repr

/-- A fault in words. -/
def LogSpecFault.message : LogSpecFault → String
  | .slashes spec => s!"invalid logging spec '{String.ofList spec}' (too many '/'s)"
  | .rule spec => s!"invalid logging spec '{String.ofList spec}'"
  | .needle spec cause => s!"invalid regex filter - {cause.messageIn spec}"

/-! ### Reading -/

/-- The names of limits. -/
def limitNames : List (String × LogLimit) :=
  [("off", none), ("error", some .error), ("warn", some .warn), ("info", some .info),
    ("debug", some .debug), ("trace", some .trace)]

/-- The limit with a name, in capitals or not. -/
def LogLimit.ofText? (t : Text) : Option LogLimit := limitNames.lookup (String.ofList t).toLower

/-- The limit that admits everything. -/
def LogLimit.all : LogLimit := some .trace

/-- Read a rule: a limit for all, a name, or a name with its limit. -/
def LogRule.ofSpec? (spec : Text) : Except LogSpecFault LogRule :=
  match Text.splitOn ['='] spec with
  | [t] =>
    match LogLimit.ofText? t with
    | some limit => .ok ⟨none, limit⟩
    | none => .ok ⟨some t, .all⟩
  | [name, t] =>
    let t := Text.trim t
    if t = [] then .ok ⟨some name, .all⟩
    else match LogLimit.ofText? t with
      | some limit => .ok ⟨some name, limit⟩
      | none => .error (.rule t)
  | _ => .error (.rule spec)

/-- The rule holds for a part of the program. -/
def LogRule.covers (r : LogRule) (topic : LogTopic) : Bool :=
  r.topics.all fun name => (Text.after? name topic.path.toList).isSome

namespace LogFilter

/-- Set the limit of a name, in its place if there is one already. -/
def set (f : LogFilter) (r : LogRule) : LogFilter :=
  if f.rules.any fun s => s.topics == r.topics then
    { f with rules := f.rules.map fun s => if s.topics == r.topics then r else s }
  else { f with rules := f.rules ++ [r] }

/-- Read rules between commas on top of others; also the faults. -/
def addRules (f : LogFilter) : List Text → LogFilter × List LogSpecFault
  | [] => (f, [])
  | spec :: specs =>
    let spec := Text.trim spec
    if spec = [] then f.addRules specs
    else match LogRule.ofSpec? spec with
      | .ok r => (f.set r).addRules specs
      | .error e =>
        let (f, faults) := f.addRules specs
        (f, e :: faults)

/-- No rules, and no expression. -/
def empty : LogFilter := ⟨[], none⟩

/-- Read a filter; also the faults. -/
def ofSpec (spec : Text) : LogFilter × List LogSpecFault :=
  match Text.splitOn ['/'] spec with
  | [rules] => empty.addRules (Text.splitOn [','] rules)
  | [rules, needle] =>
    let (f, faults) := empty.addRules (Text.splitOn [','] rules)
    match Regex.ofText? needle with
    | .ok r => ({ f with needle := some r }, faults)
    | .error e => (f, faults ++ [.needle needle e])
  | _ => (empty, [.slashes spec])

/-! ### Use -/

/-- The limit for all parts where there are no rules. -/
def usualRule : LogRule := ⟨none, some .error⟩

/-- The length of the name of a rule. -/
def reach (r : LogRule) : Nat := Text.size (r.topics.getD [])

/-- Of two rules the one with the longer name, and the second one if they are as long. -/
def longer (r s : LogRule) : LogRule := if reach s < reach r then r else s

/-- The limit for a part of the program. -/
def limitFor (f : LogFilter) (topic : LogTopic) : LogLimit :=
  let rules := if f.rules = [] then [usualRule] else f.rules
  match rules.filter fun r => r.covers topic with
  | [] => none
  | r :: rs => (rs.foldl longer r).limit

/-- A message is logged. -/
def shows (f : LogFilter) (e : LogEntry) : Bool :=
  (f.limitFor e.topic).admits e.level && f.needle.all fun r => r.occursIn e.text.toList

end LogFilter

end FenceSync
