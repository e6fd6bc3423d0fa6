/-!
# The log

What is logged is a line of text with a level. `LogLevel.reaches` orders the levels: a
reader who asks for a level sees the lines of that level and of those above.
-/

namespace AqlClient

/-- The levels of log lines, the least urgent first. -/
inductive LogLevel where
  | debug
  | info
  | warning
  | error
  | critical
  deriving DecidableEq, Repr

namespace LogLevel

/-- The name of a level. -/
def name : LogLevel → String
  | .debug => "DEBUG"
  | .info => "INFO"
  | .warning => "WARNING"
  | .error => "ERROR"
  | .critical => "CRITICAL"

/-- The rank of a level. -/
def rank : LogLevel → Nat
  | .debug => 0
  | .info => 1
  | .warning => 2
  | .error => 3
  | .critical => 4

/-- All levels. -/
def all : List LogLevel := [.debug, .info, .warning, .error, .critical]

/-- The level with a given name. -/
def named? (name : String) : Option LogLevel := all.find? fun level => level.name == name

/-- Whether a level is at least another one. -/
def reaches (level least : LogLevel) : Bool := decide (least.rank ≤ level.rank)

end LogLevel

/-- A line of the log. -/
structure LogLine where
  level : LogLevel
  text : String
  deriving DecidableEq, Repr

/-- A line with its level in front. -/
def LogLine.display (l : LogLine) : String := l.level.name ++ " " ++ l.text

end AqlClient
