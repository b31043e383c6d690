namespace FenceSync

/-!
# Log

* `LogEntry` is a message with its level and the part of the program it comes from.
* `LogTopic.path` names that part in log filters.
-/

/-- How much a message matters, most first. -/
inductive LogLevel where
  | error
  | warn
  | info
  | debug
  | trace
  deriving DecidableEq, Repr

/-- The place of a level, the most important one being 1. -/
def LogLevel.rank : LogLevel → Nat
  | .error => 1
  | .warn => 2
  | .info => 3
  | .debug => 4
  | .trace => 5

/-- The part of the program that a message comes from. -/
inductive LogTopic where
  | commandLine
  | settings
  | discovery
  | ignoring
  | globbing
  | processing
  | embedding
  | resolving
  deriving DecidableEq, Repr

/-- The name by which a log filter refers to a part of the program. -/
def LogTopic.path : LogTopic → String
  | .commandLine => "embedme"
  | .settings => "embedme_lib::config"
  | .discovery => "embedme_lib::file_processor::discovery"
  | .ignoring => "ignore::gitignore"
  | .globbing => "globset"
  | .processing => "embedme_lib::file_processor::processing"
  | .embedding => "embedme_lib::embed::processor"
  | .resolving => "embedme_lib::embed::resolver"

/-- A message. -/
structure LogEntry where
  level : LogLevel
  topic : LogTopic
  text : String
  deriving DecidableEq, Repr

end FenceSync
