import VulkanExec.Diagnostic.Log

/-!
# Validation messages

A validation layer reports what it finds as a message with severity flags. The highest flag that
is known decides how severe the message is.

## Main definitions

- `Severity`: error, warning, or neither of them known, with `Severity.ofFlags` for flags;
- `Diagnostic`: a message with its severity and source;
- `Diagnostic.record`: the log record of a message that nobody else takes;
- `heardSeverities`, `heardTypes`: the messages that a messenger asks for.
-/

namespace VulkanExec

/-- How severe a message is. -/
inductive Severity where
  | error
  | warning
  | unknown
  deriving DecidableEq, Repr

namespace Severity

/-- The flag of an error message. -/
def errorFlag : UInt32 := 0x1000

/-- The flag of a warning. -/
def warningFlag : UInt32 := 0x100

/-- The error flag decides before the warning flag; no other flag is known. -/
def ofFlags (flags : UInt32) : Severity :=
  if flags &&& errorFlag = errorFlag then .error
  else if flags &&& warningFlag = warningFlag then .warning
  else .unknown

def label : Severity → String
  | .error => "[ERROR]"
  | .warning => "[WARNING]"
  | .unknown => "[UNKNOWN]"

/-- The level at which a message of this severity is logged. -/
def level : Severity → LogLevel
  | .error => .error
  | .warning => .warn
  | .unknown => .info

end Severity

/-- One message of a validation layer. -/
structure Diagnostic where
  severity : Severity
  /-- The name of the message's kind, as the layer gives it. -/
  source : String
  message : String
  deriving DecidableEq, Repr

/-- The log record of a message. -/
def Diagnostic.record (d : Diagnostic) : LogRecord :=
  ⟨d.severity.level,
   d.severity.label ++ " validation layer (" ++ d.source ++ "): " ++ d.message⟩

/-- The severities that a messenger asks for: errors and warnings. -/
def heardSeverities : UInt32 := Severity.errorFlag ||| Severity.warningFlag

/-- The types of message that a messenger asks for: general, validation and performance. -/
def heardTypes : UInt32 := 1 ||| 2 ||| 4

end VulkanExec
