import VulkanExec.Program.Basic
import VulkanExec.Error
import VulkanExec.Requirement

/-!
# Choosing a physical device

The physical devices of an instance are looked at in the driver's order, and the first that has
every required capability, every required extension and a queue family for graphics or compute is
chosen. Devices after it are not asked anything.

## Main definitions

- `Candidate`: what a physical device advertises, with `Candidate.survey` to ask for it;
- `Candidate.workFamily?`: the first queue family that can do the work;
- `Candidate.assess`: the same, if the candidate meets the requirements, or what it falls short
  of;
- `Candidate.choose`: the first physical device that meets the requirements, and its family;
- `checkAdvertised`: the check of a device that the caller has chosen.
-/

namespace VulkanExec

/-- The queue flags of graphics and of compute work. -/
def workFlags : UInt32 := 1 ||| 2

/-- What a physical device advertises. -/
structure Candidate where
  handle : PhysicalDeviceHandle
  features : Features
  extensions : List String
  /-- The flags of each queue family. -/
  families : List UInt32

/-- What keeps a candidate from being chosen. -/
inductive Shortcoming where
  | capabilities
  | extensions
  | family
  deriving DecidableEq, Repr

def Shortcoming.text : Shortcoming → String
  | .capabilities => "missing required capabilities"
  | .extensions => "missing required extensions"
  | .family => "no graphics or compute queue family"

/-- A chosen candidate and the queue family of its work. -/
structure Choice where
  candidate : Candidate
  family : UInt32

namespace Candidate

/-- Ask for everything that a physical device advertises. Extensions that cannot be queried count
as none. -/
def survey (inst : InstanceHandle) (handle : PhysicalDeviceHandle) : Program Candidate := do
  let extensions ←
    match ← .ask (.deviceExtensions inst handle) with
    | .ok names => pure names
    | .error result =>
      .log .debug ("extension query failed for " ++ handle.text ++ " (" ++ result.text ++
        "); treating as none")
      pure []
  let features ← .ask (.features inst handle)
  let families ← .ask (.queueFamilies inst handle)
  return { handle, features, extensions, families }

/-- Whether a queue family does graphics or compute work. -/
def worksOn (flags : UInt32) : Bool := flags &&& workFlags != 0

/-- The index of the first queue family for graphics or compute. -/
def workFamily? (candidate : Candidate) : Option UInt32 :=
  (candidate.families.findIdx? worksOn).map Nat.toUInt32

/-- The queue family for the work of a candidate that meets the requirements, or the first thing
that it falls short of: capabilities, then extensions, then a queue family. -/
def assess (candidate : Candidate) (capabilities : List Capability) (extensions : List String) :
    Except Shortcoming UInt32 :=
  if !supports candidate.features.has capabilities then .error .capabilities
  else if !supports (offers candidate.extensions) extensions then .error .extensions
  else
    match candidate.workFamily? with
    | some family => .ok family
    | none => .error .family

/-- The queue family of a candidate that meets the requirements. A shortcoming is logged. -/
def suitableFamily? (candidate : Candidate) (capabilities : List Capability)
    (extensions : List String) : Program (Option UInt32) :=
  match candidate.assess capabilities extensions with
  | .ok family => return some family
  | .error shortcoming => do
    .log .debug (candidate.handle.text ++ ": " ++ shortcoming.text)
    return none

/-- The first candidate that meets the requirements. A candidate is surveyed when its turn comes,
so those after the chosen one never are. -/
def select {α : Type} (survey : α → Program Candidate) (capabilities : List Capability)
    (extensions : List String) : List α → Program (Except Error Choice)
  | [] => return .error .noSuitableDevice
  | source :: sources => do
    let candidate ← survey source
    match ← candidate.suitableFamily? capabilities extensions with
    | some family => return .ok { candidate, family }
    | none => select survey capabilities extensions sources

/-- Choose the first physical device of an instance that meets the requirements. -/
def choose (inst : InstanceHandle) (capabilities : List Capability) (extensions : List String) :
    Program (Except Error Choice) := do
  match ← .ask (.physicalDevices inst) with
  | .error result => return .error (.enumerationFailed "vkEnumeratePhysicalDevices" result)
  | .ok handles =>
    .log .debug (toString handles.length ++ " physical device(s) enumerated")
    match ← select (survey inst) capabilities extensions handles with
    | .error e => return .error e
    | .ok choice =>
      .log .info ("selected physical device " ++ choice.candidate.handle.text ++
        " (queue family " ++ toString choice.family ++ ")")
      return .ok choice

end Candidate

/-- Check what a device of the caller's own choice advertises, and list what is missing: missing
capabilities first, missing extensions only if there are none. -/
def checkAdvertised (features : Features) (available : List String)
    (capabilities : List Capability) (extensions : List String) : Except Error Unit :=
  match missing features.has capabilities, missing (offers available) extensions with
  | [], [] => .ok ()
  | [], absent => .error (.unsupportedExtensions absent)
  | absent, _ => .error (.unsupportedCapabilities absent)

end VulkanExec
