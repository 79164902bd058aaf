import VulkanExec.Capability
import VulkanExec.RecordingState
import VulkanExec.ResultCode
import VulkanExec.Text.Decimal
import VulkanExec.Text.Quoted
import VulkanExec.Text.Separated

/-!
# Errors

Every error names the operation that failed. Nothing is tried again behind the caller's back; only
after a wait that timed out may the caller wait once more.

## Main definitions

- `ConfigFault`: what is wrong with a configured value;
- `Error`: the ways in which an operation fails, each with what is known about it;
- `Error.stage`: the stage of work that an error belongs to;
- `Error.message`: the text that a user reads;
- `Error.mayWaitAgain`: whether the work is still going on.
-/

namespace VulkanExec

/-- What is wrong with a configured value. -/
inductive ConfigFault where
  /-- The text is none of the words for on and off. -/
  | noSwitch (text : String)
  | noNumber (fault : Text.Decimal.Fault)
  | unknownCapability (name : String)
  /-- The name cannot be handed to a driver, which takes a zero byte for the end. -/
  | containsNul (name : String)
  /-- A reason that somebody else found and put into words. -/
  | other (reason : String)
  deriving DecidableEq, Repr

def ConfigFault.message : ConfigFault → String
  | .noSwitch text => s!"expected a boolean, got '{text}'"
  | .noNumber fault => fault.message
  | .unknownCapability name => s!"unknown capability name '{name}'"
  | .containsNul name => "'" ++ Text.escaped name ++ "' contains a NUL byte"
  | .other reason => reason

/-- The stage of work in which an error arises. -/
inductive ErrorStage where
  /-- An entry point could not be resolved. -/
  | resolution
  /-- A layer, capability or extension is not supported. -/
  | negotiation
  /-- The driver could not create something. -/
  | creation
  /-- An operation came at the wrong time. -/
  | state
  /-- A submission, a wait or a reset failed. -/
  | submission
  /-- A configured value is not valid. -/
  | configuration
  deriving DecidableEq, Repr

/-- The ways in which an operation fails. -/
inductive Error where
  | missingEntryPoints (names : List String)
  | loaderUnavailable (reason : String)
  | missingLayers (layers : List String)
  | missingDiagnosticExtension (extension : String)
  | unsupportedCapabilities (missing : List Capability)
  | unsupportedExtensions (missing : List String)
  | noSuitableDevice
  | enumerationFailed (call : String) (result : ResultCode)
  | instanceCreationFailed (result : ResultCode)
  | callbackInstallFailed (call : String) (result : ResultCode)
  | deviceCreationFailed (result : ResultCode)
  | queueUnavailable (family : UInt32)
  | poolCreationFailed (result : ResultCode)
  | bufferAllocationFailed (result : ResultCode)
  | fenceCreationFailed (result : ResultCode)
  | beginFailed (result : ResultCode)
  | endFailed (result : ResultCode)
  | cannotBegin (state : RecordingState)
  | cannotEnd (state : RecordingState)
  | cannotSubmit (state : RecordingState)
  | submissionPending
  | notInitialized (what : String)
  | submissionTimeout (milliseconds : UInt32)
  | submissionFailed (call : String) (result : ResultCode)
  | invalidConfig (key : String) (fault : ConfigFault)
  deriving DecidableEq, Repr

namespace Error

def stage : Error → ErrorStage
  | missingEntryPoints _ | loaderUnavailable _ => .resolution
  | missingLayers _ | missingDiagnosticExtension _ | unsupportedCapabilities _
  | unsupportedExtensions _ | noSuitableDevice => .negotiation
  | enumerationFailed .. | instanceCreationFailed _ | callbackInstallFailed ..
  | deviceCreationFailed _ | queueUnavailable _ | poolCreationFailed _
  | bufferAllocationFailed _ | fenceCreationFailed _ | beginFailed _ | endFailed _ => .creation
  | cannotBegin _ | cannotEnd _ | cannotSubmit _ | submissionPending | notInitialized _ => .state
  | submissionTimeout _ | submissionFailed .. => .submission
  | invalidConfig .. => .configuration

def message : Error → String
  | missingEntryPoints names =>
    "unable to resolve required entry points: " ++ Text.listed names
  | loaderUnavailable reason => s!"vulkan loader unavailable: {reason}"
  | missingLayers layers => "missing validation layers: " ++ Text.listed layers
  | missingDiagnosticExtension extension => s!"no validation layer exposes {extension}"
  | unsupportedCapabilities missing =>
    "accelerator does not support required capabilities: " ++
      Text.listed (missing.map Capability.name)
  | unsupportedExtensions missing =>
    "accelerator does not support required extensions: " ++ Text.listed missing
  | noSuitableDevice =>
    "no physical device satisfies the required capabilities, extensions and queue family"
  | enumerationFailed call result => call ++ " failed: " ++ result.text
  | instanceCreationFailed result => "vkCreateInstance failed: " ++ result.text
  | callbackInstallFailed call result => call ++ " failed: " ++ result.text
  | deviceCreationFailed result => "vkCreateDevice failed: " ++ result.text
  | queueUnavailable family => s!"vkGetDeviceQueue returned a null queue for family {family}"
  | poolCreationFailed result => "vkCreateCommandPool failed: " ++ result.text
  | bufferAllocationFailed result => "vkAllocateCommandBuffers failed: " ++ result.text
  | fenceCreationFailed result => "vkCreateFence failed: " ++ result.text
  | beginFailed result => "vkBeginCommandBuffer failed: " ++ result.text
  | endFailed result => "vkEndCommandBuffer failed: " ++ result.text
  | cannotBegin state => "cannot begin recording from " ++ state.text ++ " state"
  | cannotEnd state => "cannot end recording from " ++ state.text ++ " state"
  | cannotSubmit state => "cannot submit from " ++ state.text ++ " state"
  | submissionPending =>
    "previous submission is still in flight; wait for it before resubmitting"
  | notInitialized what => s!"{what} used before initialize"
  | submissionTimeout milliseconds => s!"vkWaitForFences timed out after {milliseconds} ms"
  | submissionFailed call result => call ++ " failed: " ++ result.text
  | invalidConfig key fault => s!"invalid value for {key}: " ++ fault.message

/-- Only a wait that timed out leaves the work going on, so that waiting again makes sense. -/
def mayWaitAgain : Error → Bool
  | submissionTimeout _ => true
  | _ => false

end Error

end VulkanExec
