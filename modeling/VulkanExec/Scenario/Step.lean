import VulkanExec.Config.Patch
import VulkanExec.Scripted.World
import VulkanExec.Session.Basic

/-!
# Steps of a scenario

A scenario plays a session against a world. Besides the operations of a session its steps change
the world, raise validation messages, look at holders, and do single parts of larger operations.

## Main definitions

- `HandlerScript`: a handler that is known by the messages on which it panics or raises another;
- `Action`, `Step`: what is done, and whose recording state is reported after it;
- `Value`: what a step may answer;
- `Report`: all that is seen of a step.
-/

namespace VulkanExec

/-- A handler that takes every message, raises another on some and panics on some. -/
structure HandlerScript where
  panicOn : List String
  reenterOn : List String
  deriving DecidableEq, Repr

/-- The message that a handler raises on the message `d`. -/
def Diagnostic.nested (d : Diagnostic) : Diagnostic :=
  { d with source := "nested", message := "nested " ++ d.message }

/-- What the handler does with a message. -/
def HandlerScript.reaction (script : HandlerScript) (d : Diagnostic) : Reaction :=
  .plain (if script.reenterOn.contains d.message then [d.nested] else [])
    (script.panicOn.contains d.message)

/-- A sink with the handler, or with the log if there is none. -/
def sinkOf (script : Option HandlerScript) : Sink :=
  match script with
  | none => ⟨.logging, []⟩
  | some script => ⟨.custom fun _ d => script.reaction d, []⟩

/-- The ways to a configuration. -/
inductive Route where
  /-- The settings are put on top of the defaults. -/
  | settings
  /-- Only the essential settings are put on top of the defaults. -/
  | essentials
  deriving DecidableEq, Repr

/-- A validation message as the driver delivers it. -/
structure RawMessage where
  flags : UInt32
  source : Option (List UInt8)
  text : Option (List UInt8)
  /-- The message comes without its content. -/
  withoutData : Bool
  /-- The message comes without the sink that it is for. -/
  withoutSink : Bool

/-- What a step does. -/
inductive Action where
  | setWorld (patch : WorldPatch)
  | operate (operation : Operation)
  | establish (config : ConfigPatch) (route : Route) (handler : Option HandlerScript)
    (as : String)
  | adopt (host : HostHandles) (config : ConfigPatch) (route : Route) (as : String)
  | showConfig (config : ConfigPatch) (route : Route)
  | memoryType (context : String) (bits flags : UInt32)
  | findEntries (context : String) (names : List String)
  | raiseMessage (message : RawMessage)
  | checkLayers (config : ConfigPatch)
  | checkExtension (config : ConfigPatch)
  | createInstance (config : ConfigPatch) (as : String)
  | registerSink (inst : String) (missing : List String) (handler : Option HandlerScript)
  | establishInstance (config : ConfigPatch) (handler : Option HandlerScript) (as : String)
  | choose (name : String) (capabilities extensions : List String)
  | survey (name : String) (physical : PhysicalDeviceHandle)
  | createDevice (name : String) (physical : PhysicalDeviceHandle) (family : UInt32)
    (capabilities extensions : List String) (as : String)
  | layerExtensions (layer : Option String)
  /-- Ask for the handle of a device. -/
  | deviceHandle (name : String)
  /-- Put one command to the driver, on a device. -/
  | command (name : String) (make : DeviceHandle → Command)
  | inspect (name : String)

/-- A step: an action, and the name whose unit, if there is one, has its state reported after it. A
step that is about no name has the empty name, under which there may be a unit as well. -/
structure Step where
  action : Action
  subject : String

/-- What a step may answer. -/
inductive Value where
  | absent (sort : HolderSort)
  | config (config : Config)
  | index (n : Nat)
  | flags (found : List Bool)
  /-- What the driver's callback returned for each messenger, where there is a callback. -/
  | deliveries (returned : List (Option Nat))
  | names (names : List String)
  | code (result : ResultCode)
  | handle (value : UInt64)
  | choice (handle : PhysicalDeviceHandle) (family : UInt32)
  | candidate (candidate : Candidate)
  | bareDevice (device : DeviceHandle) (queue : QueueHandle)
  | tableSize (n : Nat)
  /-- A holder, and how many units share its raw pool. -/
  | holder (holder : Holder) (outstanding : Nat)

/-- All that is seen of a step. -/
structure Report where
  value : Option Value
  error : Option Error
  /-- The calls that the world received. -/
  calls : List CallRecord
  /-- The messages that handlers took. -/
  taken : List Diagnostic
  logs : List LogRecord
  /-- The numbers of objects alive after the step. -/
  population : Population
  /-- The recording state of the step's unit, and whether a submission is in flight. -/
  unit : Option (RecordingState × Bool)

end VulkanExec
