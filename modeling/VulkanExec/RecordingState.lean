/-!
# Recording states

The life of a command buffer: nothing recorded, a recording going on, a finished recording.

## Main definitions

- `RecordingState`: the three states;
- `RecordingState.text`: their names in messages.
-/

namespace VulkanExec

/-- Where a command buffer stands between two submissions. -/
inductive RecordingState where
  | initial
  | recording
  | executable
  deriving DecidableEq, Repr

def RecordingState.text : RecordingState → String
  | .initial => "Initial"
  | .recording => "Recording"
  | .executable => "Executable"

end VulkanExec
