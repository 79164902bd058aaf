import VulkanExec.Program.Basic
import VulkanExec.Scripted.World

/-!
# Answering commands from a world

A world answers commands in one of two ways. The direct way takes a command as one call. The native
way takes it as the calls of the driver's own interface, where structures have more fields, an
array is read in two calls, and a name has room for 255 bytes.

## Main definitions

- `CallStyle`: the two ways;
- `ArrayRead`: the calls that it takes to read an array, from a list of codes;
- `World.driver`: the driver that answers from a world.
-/

namespace VulkanExec

/-- The ways to hand commands to a world. -/
inductive CallStyle where
  | direct
  | native
  deriving DecidableEq, Repr

/-- The name of the engine that a native instance request gives, besides the application's. -/
def engineName : String := "rayos-vkcore"

/-- The outcome of reading an array: how many calls asked for its length and how many for its
entries, what came of it, and the codes that are left. -/
structure ArrayRead where
  phases : List String
  outcome : Reply Unit
  rest : List ResultCode

namespace ArrayRead

def count : String := "count"

def fill : String := "fill"

/-- Read an array while calls return `codes` and then success. The first call asks for the length,
the second for the entries; if there are more by then, both are made again. -/
def ofCodes : List ResultCode → ArrayRead
  | [] => ⟨[count, fill], .ok (), []⟩
  | [first] =>
    if first ≠ .success then ⟨[count], .error first, []⟩ else ⟨[count, fill], .ok (), []⟩
  | first :: second :: codes =>
    if first ≠ .success then ⟨[count], .error first, second :: codes⟩
    else if second = .incomplete then
      let again := ofCodes codes
      { again with phases := count :: fill :: again.phases }
    else if second ≠ .success then ⟨[count, fill], .error second, codes⟩
    else ⟨[count, fill], .ok (), codes⟩

/-- A read that is refused ends with the length. The script can only choose another failure. -/
def refused (code : ResultCode) (codes : List ResultCode) : ArrayRead :=
  ⟨[count], .error ((codes.head?.filter (·.isFailure)).getD code), codes.tail⟩

/-- Read an array under a script. A code that every call returns is that of the first. -/
def ofScript (refusal : Option ResultCode) (script : Script) : ArrayRead :=
  let codes := match script with
    | .always code => if code = .success then [] else [code]
    | .inTurn codes => codes
  match refusal with
  | some code => refused code codes
  | none => ofCodes codes

end ArrayRead

/-- Work on a world. -/
abbrev WorldM := StateM World

namespace World

/-! ## Calls -/

/-- Record a call. -/
def note (function : String) (args : List Arg) : WorldM Unit :=
  modify fun w => { w with calls := ⟨function, args⟩ :: w.calls }

/-- Record a search for a function; searches in a row with one instance are one record, with their
number. -/
def noteSearch (inst : InstanceHandle) : WorldM Unit :=
  modify fun w =>
    let fresh := ⟨"vkGetInstanceProcAddr", [.number inst.value.toNat, .number 1]⟩ :: w.calls
    match w.calls with
    | ⟨"vkGetInstanceProcAddr", [.number former, .number n]⟩ :: earlier =>
      if former = inst.value.toNat then
        { w with
          calls := ⟨"vkGetInstanceProcAddr", [.number former, .number (n + 1)]⟩ :: earlier }
      else { w with calls := fresh }
    | _ => { w with calls := fresh }

/-- The script of a function. -/
def script (w : World) (function : String) : Script :=
  (w.results.get? function).getD (.inTurn [])

/-- Take the code of a call from the script of its function. -/
def takeResult (function : String) : WorldM ResultCode :=
  modifyGet fun w =>
    let (code, rest) := (w.script function).next
    (code, { w with results := w.results.insert function rest })

/-- Take the handle that a function gives out. -/
def takeHandle {kind : ObjectKind} (function : String) : WorldM (Handle kind) :=
  modifyGet fun w =>
    match w.handles.get? function with
    | some (h :: rest) => (⟨h⟩, { w with handles := w.handles.insert function rest })
    | _ => (⟨w.nextHandle⟩, { w with nextHandle := w.nextHandle + 1 })

/-- Change the numbers of objects alive. -/
def recount (change : Population → Population) : WorldM Unit :=
  modify fun w => { w with population := change w.population }

/-- A call that returns a code and, if that is success, what `success` makes. -/
def attempt {α : Type} (function : String) (args : List Arg) (success : WorldM α) :
    WorldM (Reply α) := do
  note function args
  let code ← takeResult function
  if code = .success then return .ok (← success) else return .error code

/-- A call that creates an object. -/
def creating {kind : ObjectKind} (function : String) (args : List Arg)
    (change : Population → Population) : WorldM (Reply (Handle kind)) :=
  attempt function args do
    recount change
    takeHandle function

/-- A call that releases an object. -/
def releasing (function : String) (args : List Arg) (change : Population → Population) :
    WorldM Unit := do
  note function args
  recount change

/-- An array that a function returns, read as the style reads arrays. With a refusal the function
fails even when its script says success; a direct call then still fails with a scripted error. -/
def reading {α : Type} (style : CallStyle) (function : String) (direct native : List Arg)
    (entries : List α) (refusal : Option ResultCode) : WorldM (Reply (List α)) :=
  match style with
  | .direct => do
    note function direct
    let code ← takeResult function
    if code ≠ .success then return .error code
    else
      match refusal with
      | some code => return .error code
      | none => return .ok entries
  | .native => do
    let script := (← get).script function
    let read := ArrayRead.ofScript refusal script
    for phase in read.phases do
      note function (native ++ [.text phase])
    if let .inTurn _ := script then
      modify fun w => { w with results := w.results.insert function (.inTurn read.rest) }
    return read.outcome.map fun () => entries

/-! ## Arguments -/

/-- A name as the style hands it over: natively it has room for 255 bytes and ends at a zero. -/
def carried (style : CallStyle) (name : String) : String :=
  match style with
  | .direct => name
  | .native => Text.Utf8.text (Text.Utf8.terminated ((Text.Utf8.bytes name).take 255))

/-- A handle as an argument. -/
def ref {kind : ObjectKind} (h : Handle kind) : Arg := .number h.value.toNat

/-- A word as an argument. -/
def word (n : UInt32) : Arg := .number n.toNat

/-- Names as an argument. -/
def texts (names : List String) : Arg := .list (names.map .text)

/-- A layer, or no layer, as an argument. -/
def layerArg (layer : Option String) : Arg := (layer.map Arg.text).getD .absent

/-- The arguments of one style or the other. -/
def argsOf (style : CallStyle) (direct native : List Arg) : List Arg :=
  match style with
  | .direct => direct
  | .native => native

/-- The flags with which a fence is created: one if it is signaled from the start. -/
def fenceFlags (signaled : Bool) : Arg := .number (if signaled then 1 else 0)

/-- The arguments of a request for an instance. -/
def instanceArgs (style : CallStyle) (request : InstanceSpec) : List Arg :=
  let shared := [.text request.appName, word request.apiVersion, texts request.layers,
    texts request.extensions]
  argsOf style shared (shared ++ [.text engineName, .number 0, .number 0, .number 0])

/-- The arguments of a request for a device. -/
def deviceArgs (style : CallStyle) (physical : PhysicalDeviceHandle) (request : DeviceSpec) :
    List Arg :=
  let priority := .text DeviceSpec.priority
  let queues := argsOf style [word request.family, priority]
    [.list [.list [word request.family, .list [priority]]]]
  ref physical :: queues ++ [texts request.extensions, .features request.features]

/-! ## Commands -/

/-- Answer a command. -/
def answer (style : CallStyle) : (c : Command) → WorldM c.Answer
  | .resolve inst name => do
    if style = .direct then noteSearch inst
    return if (← get).finds inst name then some ⟨1⟩ else none
  | .layers => do
    let names := (← get).layers.map (carried style)
    reading style "vkEnumerateInstanceLayerProperties" [] [] names none
  | .layerExtensions layer => do
    let names := ((← get).extensionsOf layer).map (carried style)
    reading style "vkEnumerateInstanceExtensionProperties" [layerArg layer] [layerArg layer] names
      none
  | .createInstance request =>
    creating "vkCreateInstance" (instanceArgs style request)
      fun p => { p with instances := p.instances + 1 }
  | .wrapInstance inst => do
    if style = .direct then note "adopt_instance" [ref inst]
  | .destroyInstance inst =>
    releasing "vkDestroyInstance" [ref inst] fun p => { p with instances := p.instances - 1 }
  | .createMessenger inst sink =>
    attempt "vkCreateDebugUtilsMessengerEXT"
      (argsOf style [ref inst]
        [ref inst, word heardSeverities, word heardTypes, .flag true, .flag true]) do
        recount fun p => { p with messengers := p.messengers + 1 }
        let messenger ← takeHandle "vkCreateDebugUtilsMessengerEXT"
        modify fun w => { w with messengers := w.messengers ++ [(messenger, sink)] }
        return messenger
  | .destroyMessenger inst messenger => do
    releasing "vkDestroyDebugUtilsMessengerEXT" [ref inst, ref messenger]
      fun p => { p with messengers := p.messengers - 1 }
    modify fun w => { w with messengers := w.messengers.eraseP (·.1 = messenger) }
  | .physicalDevices inst => do
    let handles := (← get).devices.map ScriptedDevice.handle
    reading style "vkEnumeratePhysicalDevices" [ref inst] [ref inst] handles none
  | .features _ physical => do
    note "vkGetPhysicalDeviceFeatures" [ref physical]
    return ((← get).device physical).features
  | .deviceExtensions _ physical => do
    let device := (← get).device physical
    let names := (device.extensions.getD []).map (carried style)
    reading style "vkEnumerateDeviceExtensionProperties" [ref physical] [ref physical, .absent]
      names (if device.extensions.isSome then none else some .initializationFailed)
  | .queueFamilies _ physical => do
    let function := "vkGetPhysicalDeviceQueueFamilyProperties"
    if style = .native then
      note function [ref physical, .text ArrayRead.count]
      note function [ref physical, .text ArrayRead.fill]
    else note function [ref physical]
    return ((← get).device physical).families
  | .properties _ physical => do
    note "vkGetPhysicalDeviceProperties" [ref physical]
    return ⟨((← get).device physical).shortName, 0⟩
  | .memoryLayout _ physical => do
    note "vkGetPhysicalDeviceMemoryProperties" [ref physical]
    return ((← get).device physical).memoryLayout
  | .createDevice _ physical request =>
    creating "vkCreateDevice" (deviceArgs style physical request)
      fun p => { p with devices := p.devices + 1 }
  | .wrapDevice _ device => do
    if style = .direct then note "adopt_device" [ref device]
  | .destroyDevice device =>
    releasing "vkDestroyDevice" [ref device] fun p => { p with devices := p.devices - 1 }
  | .waitIdle device => attempt "vkDeviceWaitIdle" [ref device] (return ())
  | .getQueue device family index => do
    note "vkGetDeviceQueue" [ref device, word family, word index]
    takeHandle "vkGetDeviceQueue"
  | .createPool device family flags =>
    creating "vkCreateCommandPool" [ref device, word family, word flags]
      fun p => { p with pools := p.pools + 1 }
  | .destroyPool device pool =>
    releasing "vkDestroyCommandPool" [ref device, ref pool]
      fun p => { p with pools := p.pools - 1 }
  | .allocateBuffer device pool =>
    creating "vkAllocateCommandBuffers"
      (argsOf style [ref device, ref pool] [ref device, ref pool, .number 0, .number 1])
      fun p => { p with buffers := p.buffers + 1 }
  | .freeBuffer device pool buffer =>
    releasing "vkFreeCommandBuffers"
      (argsOf style [ref device, ref pool, ref buffer] [ref device, ref pool, .list [ref buffer]])
      fun p => { p with buffers := p.buffers - 1 }
  | .beginBuffer _ buffer usage =>
    attempt "vkBeginCommandBuffer" [ref buffer, word usage] (return ())
  | .endBuffer _ buffer => attempt "vkEndCommandBuffer" [ref buffer] (return ())
  | .resetBuffer _ buffer =>
    attempt "vkResetCommandBuffer" (argsOf style [ref buffer] [ref buffer, .number 0]) (return ())
  | .createFence device signaled =>
    creating "vkCreateFence" [ref device, fenceFlags signaled]
      fun p => { p with fences := p.fences + 1 }
  | .destroyFence device fence =>
    releasing "vkDestroyFence" [ref device, ref fence] fun p => { p with fences := p.fences - 1 }
  | .resetFence device fence =>
    attempt "vkResetFences"
      (argsOf style [ref device, ref fence] [ref device, .list [ref fence]]) (return ())
  | .waitFence device fence nanoseconds =>
    attempt "vkWaitForFences"
      (argsOf style [ref device, ref fence, .number nanoseconds.toNat]
        [ref device, .list [ref fence], .number 1, .number nanoseconds.toNat]) (return ())
  | .submit _ queue buffer fence =>
    attempt "vkQueueSubmit"
      (argsOf style [ref queue, ref buffer, ref fence]
        [ref queue, .list [.list [.list [ref buffer], .number 0, .number 0]], ref fence])
      (return ())

/-- The driver that answers from a world. -/
def driver (style : CallStyle) : Driver World := ⟨fun c w => answer style c w⟩

end World

end VulkanExec
