import VulkanExec.Scripted.Answer
import VulkanExec.Smoke

/-!
# The smoke test as a command

The command runs the smoke test against the standard world and shows what it logs. The settings
come from the variables of the process, on top of those of a build with debug assertions.
-/

namespace VulkanExec

/-- The variables that the smoke test looks at. -/
def smokeVariables : List String :=
  ["RUST_LOG", "VKCORE_REQUIRED", "VKCORE_VALIDATION", "VKCORE_FENCE_TIMEOUT_MS",
   "VKCORE_REQUIRED_FEATURES", "VKCORE_REQUIRED_EXTENSIONS", "VKCORE_VALIDATION_LAYERS"]

/-- The variables of the process. -/
def processEnvironment : IO Environment :=
  smokeVariables.filterMapM fun name => do
    return (← IO.getEnv name).map fun value => (name, Text.Utf8.bytes value)

end VulkanExec

open VulkanExec in
def main : IO UInt32 := do
  let env ← processEnvironment
  let (result, events, _) := (Smoke.test env (.ok ())).runWith (World.driver .native) .standard
  let (exit, lines) := Smoke.output env result (Event.records events)
  for line in lines do
    IO.eprintln line
  return exit.toUInt32
