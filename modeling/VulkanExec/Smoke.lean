import VulkanExec.Session.Basic
import VulkanExec.Text.Lines
import VulkanExec.Text.Terminal

/-!
# The smoke test

The smoke test builds a context, makes a pool and a unit, and puts the unit through eight rounds
with nothing recorded. On a machine without a suitable driver it skips the test and succeeds,
unless a driver is required.

## Main definitions

- `Environment`: variables with their bytes;
- `Smoke.test`: the test, which ends well or with the text of an error;
- `LogFilter`: which log records are shown;
- `Smoke.shownText`: the text that a run shows;
- `Smoke.output`: the exit code and the lines of that text.
-/

namespace VulkanExec

/-- The variables of an environment; a value is any row of bytes. -/
abbrev Environment := List (String × List UInt8)

/-- The value of a variable; one that is no UTF-8 counts as absent. -/
def Environment.text? (env : Environment) (name : String) : Option String :=
  (env.lookup name).bind Text.Utf8.strict?

namespace Smoke

/-- The number of rounds. -/
def rounds : Nat := 8

/-- Whether a driver is required: the variable is there and is not exactly a zero digit. -/
def isRequired (env : Environment) : Bool :=
  match env.lookup "VKCORE_REQUIRED" with
  | none => false
  | some value => value != Text.Utf8.bytes "0"

/-- End after a step without which there can be no test: with an error if a driver is required. -/
def skip (env : Environment) (what status : String) (e : Error) :
    Program (Except String Unit) :=
  if isRequired env then return .error ("Vulkan required but " ++ what ++ ": " ++ e.message)
  else do
    .log .warn ("vkcore smoke: " ++ status ++ " (" ++ e.message ++ "); skipping")
    return .ok ()

/-- Do operations one after the other, up to the first that fails. -/
def inOrder (s : Session) : List Operation → Program (Except Error Unit × Session)
  | [] => return (.ok (), s)
  | operation :: operations => do
    match ← s.perform operation with
    | (.failed e, s) => return (.error e, s)
    | (_, s) => inOrder s operations

/-- The operations of one round. -/
def round (timeout : UInt32) : List Operation :=
  [.record "unit", .finish "unit", .submit "unit" timeout]

/-- Go through `left` rounds, the first of which has the number `cycle`. -/
def cycles (timeout : UInt32) (s : Session) (cycle : Nat) :
    Nat → Program (Except Error Unit × Session)
  | 0 => return (.ok (), s)
  | left + 1 => do
    match ← inOrder s (round timeout) with
    | (.error e, s) => return (.error e, s)
    | (.ok (), s) =>
      .log .debug ("vkcore smoke: cycle " ++ toString cycle ++ " ok")
      cycles timeout s (cycle + 1) left

/-- Make a pool and a unit and go through all rounds. -/
def exercise (s : Session) (timeout : UInt32) : Program (Except Error Unit × Session) := do
  match ← inOrder s [.openPool "context" "pool", .openUnit "context" "pool" "unit"] with
  | (.error e, s) => return (.error e, s)
  | (.ok (), s) =>
    match ← cycles timeout s 0 rounds with
    | (.error e, s) => return (.error e, s)
    | (.ok (), s) =>
      .log .info ("vkcore smoke: " ++ toString rounds ++ " empty submissions=OK")
      return (.ok (), s)

/-- Put a new context to the test and release everything. -/
def onContext (context : Context) (s : Session) : Program (Except String Unit) := do
  .log .info ("vkcore smoke: device='" ++ context.deviceName ++ "' queue_family=" ++
    toString context.family ++ " entry_points=" ++ toString context.entries.size)
  let (result, s) ← exercise s context.fenceTimeout
  let _ ← s.dropNames ["unit", "pool", "context"]
  match result with
  | .error e => return .error e.message
  | .ok () =>
    .log .info "vkcore smoke: done"
    return .ok ()

/-- The smoke test of a build. The driver's library may be unavailable for a reason. -/
def test (env : Environment) (library : Except String Unit) (profile : BuildProfile := .debug) :
    Program (Except String Unit) := do
  .log .info "vkcore smoke: start"
  match Config.ofEnvironment env.text? profile with
  | .error e => return .error e.message
  | .ok config =>
    match library with
    | .error reason =>
      skip env "unavailable" "loader=UNAVAILABLE" (.loaderUnavailable reason)
    | .ok () =>
      match ← Context.establish config 0 0 with
      | .error e => skip env "context creation failed" "context=UNSUPPORTED" e
      | .ok context => onContext context (.ofContext "context" context)

end Smoke

/-- Which log records are shown: those up to a level, or none. -/
abbrev LogFilter := Option LogLevel

namespace LogFilter

/-- The filter that a word stands for, in small or capital letters. -/
def ofWord? (word : String) : Option LogFilter :=
  [("off", none), ("error", some .error), ("warn", some .warn), ("info", some .info),
   ("debug", some .debug), ("trace", some .trace)].lookup (Config.foldCase word)

/-- The filter that a list of words stands for: the last that is known decides. Without any word
errors are shown; a word that is not known is about other programs. -/
def ofWords (text : String) : LogFilter :=
  match Text.items text with
  | [] => some .error
  | words => ((words.filterMap ofWord?).getLast?).getD none

/-- The filter of an environment. -/
def ofEnvironment (env : Environment) : LogFilter :=
  ((env.text? "RUST_LOG").map ofWords).getD (some .info)

end LogFilter

namespace Smoke

/-- What is shown of a log record: a level and a text of one line or more, of which those after
the first are indented. A text may come from a driver, so nothing in it may reach the terminal as a
command. A sequence that the record leaves open takes the end of the line with it. -/
def shownRecord (r : LogRecord) : String :=
  Text.Terminal.plain ("\n    ".intercalate (r.line.splitOn "\n") ++ "\n")

/-- The text that a run shows: log records, and at last the error, which is shown as it is. -/
def shownText (env : Environment) (result : Except String Unit) (records : List LogRecord) :
    String :=
  let shown := (records.filter (·.within (LogFilter.ofEnvironment env))).map shownRecord
  match result with
  | .ok () => String.join shown
  | .error text => String.join shown ++ "Error: " ++ text ++ "\n"

/-- The exit code, and the lines that a run shows. -/
def output (env : Environment) (result : Except String Unit) (records : List LogRecord) :
    Nat × List String :=
  (if result.isOk then 0 else 1, Text.lines (shownText env result records))

end Smoke

end VulkanExec
