/-!
# Log records

## Main definitions

- `LogLevel`: how much a record matters, from errors to traces;
- `LogRecord`: a level and a text;
- `LogRecord.within`: whether a record is at least as severe as a threshold.
-/

namespace VulkanExec

/-- How much a record matters. -/
inductive LogLevel where
  | error
  | warn
  | info
  | debug
  | trace
  deriving DecidableEq, Repr

namespace LogLevel

def label : LogLevel → String
  | .error => "ERROR"
  | .warn => "WARN"
  | .info => "INFO"
  | .debug => "DEBUG"
  | .trace => "TRACE"

/-- The levels from the most severe on. -/
def all : List LogLevel := [.error, .warn, .info, .debug, .trace]

/-- The place among the levels: the smaller, the more severe. -/
def rank (level : LogLevel) : Nat := all.idxOf level

end LogLevel

/-- One line of a log. -/
structure LogRecord where
  level : LogLevel
  text : String
  deriving DecidableEq, Repr

namespace LogRecord

/-- Whether a log that keeps records up to `threshold` keeps this one; without a threshold it
keeps none. -/
def within (threshold : Option LogLevel) (r : LogRecord) : Bool :=
  match threshold with
  | none => false
  | some level => r.level.rank ≤ level.rank

/-- The level and the text, as a log shows them. -/
def line (r : LogRecord) : String := r.level.label ++ " " ++ r.text

end LogRecord

end VulkanExec
