/-!
# Log lines

A log line has a level, and a program logs the lines up to a level of its choice.
-/

namespace HumidifierBridge

/-- The level of a log line. -/
inductive LogLevel where
  | error
  | warn
  | info
  | debug
  | trace
  deriving DecidableEq, Repr

/-- A log line. -/
structure LogLine where
  level : LogLevel
  text : String
  deriving DecidableEq, Repr

namespace LogLevel

/-- Lines of a greater rank are more detailed. -/
def rank : LogLevel → Nat
  | .error => 0
  | .warn => 1
  | .info => 2
  | .debug => 3
  | .trace => 4

/-- The word for a level. -/
def name : LogLevel → String
  | .error => "ERROR"
  | .warn => "WARN"
  | .info => "INFO"
  | .debug => "DEBUG"
  | .trace => "TRACE"

/-- The level of a number on the scale of the system log. -/
def ofNumber (n : Nat) : LogLevel :=
  if n ≤ 3 then .error
  else if n = 4 then .warn
  else if n ≤ 6 then .info
  else if n = 7 then .debug
  else .trace

/-- Is a line logged at a level? -/
def logs (limit : LogLevel) (line : LogLine) : Bool := line.level.rank ≤ limit.rank

/-- The most detailed level among lines. -/
def mostDetailed (lines : List LogLine) : Option LogLevel :=
  lines.foldl (fun most line =>
    match most with
    | none => some line.level
    | some level => some (if level.rank < line.level.rank then line.level else level)) none

end LogLevel

end HumidifierBridge
