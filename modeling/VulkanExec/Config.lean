import VulkanExec.Error

/-!
# Configuration

What a caller asks of an execution context, and the settings that an environment puts on top.

## Main definitions

- `BuildProfile`: how the program was built, on which one default depends;
- `Config`: the settings, with the defaults in `Config.default`;
- `Config.withEnvironment`: the settings with those of an environment on top, or the first value
  of the environment that cannot be read;
- `driverNames`: the check that names can be handed to a driver.
-/

namespace VulkanExec

/-- The layer that checks the use of the interface. -/
def validationLayer : String := "VK_LAYER_KHRONOS_validation"

/-- The instance extension that carries the messages of the layers. -/
def messengerExtension : String := "VK_EXT_debug_utils"

/-- Version 1.0 of the interface: the major number stands from bit 22 on. -/
def apiVersion : UInt32 := 0x400000

/-- How the program was built: with debug assertions, or for a release without them. -/
inductive BuildProfile where
  | debug
  | release
  deriving DecidableEq, Repr

/-- Whether debug assertions are compiled in. -/
def BuildProfile.hasAssertions : BuildProfile → Bool
  | .debug => true
  | .release => false

/-- The settings of an execution context. -/
structure Config where
  /-- The application name that the driver is told. -/
  appName : String
  apiVersion : UInt32
  /-- The features that must be there; they alone are switched on. -/
  capabilities : List Capability
  /-- The device extensions that must be there and are enabled as they stand. -/
  extensions : List String
  /-- Whether validation layers and the diagnostic callback are used. -/
  validation : Bool
  /-- The layers that must be there when validation is on. -/
  layers : List String
  diagnosticExtension : String
  /-- The default bound on the wait for a submission, in milliseconds. -/
  fenceTimeout : UInt32
  deriving DecidableEq, Repr

namespace Config

/-- The settings that hold unless others are given. A program that was built with debug assertions
has validation on. -/
protected def default (profile : BuildProfile := .debug) : Config where
  appName := "rayos-vkcore"
  apiVersion := VulkanExec.apiVersion
  capabilities := []
  extensions := []
  validation := profile.hasAssertions
  layers := [validationLayer]
  diagnosticExtension := messengerExtension
  fenceTimeout := 1000

instance : Inhabited Config := ⟨.default⟩

/-- The environment keys of the settings, in the order in which they are read. -/
inductive Key where
  | validation
  | fenceTimeout
  | capabilities
  | extensions
  | layers
  deriving DecidableEq, Repr

def Key.name : Key → String
  | .validation => "VKCORE_VALIDATION"
  | .fenceTimeout => "VKCORE_FENCE_TIMEOUT_MS"
  | .capabilities => "VKCORE_REQUIRED_FEATURES"
  | .extensions => "VKCORE_REQUIRED_EXTENSIONS"
  | .layers => "VKCORE_VALIDATION_LAYERS"

/-- A small letter for each of the letters A to Z; all else stays. -/
def foldCase (s : String) : String := String.ofList (s.toList.map Char.toLower)

/-- Read a switch: some words mean on, some off, and so does the blank text. -/
def readSwitch (text : String) : Except ConfigFault Bool :=
  let word := foldCase (Text.trim text)
  if word ∈ ["1", "true", "on", "yes"] then .ok true
  else if word ∈ ["0", "false", "off", "no", ""] then .ok false
  else .error (.noSwitch word)

/-- Read a number of milliseconds. -/
def readTimeout (text : String) : Except ConfigFault UInt32 :=
  (Text.Decimal.read (Text.trim text)).mapError .noNumber

/-- Read the names of capabilities. The first that is unknown is the fault. -/
def readCapabilities : List String → Except ConfigFault (List Capability)
  | [] => .ok []
  | name :: names =>
    match Capability.parse? name with
    | none => .error (.unknownCapability (Text.trim name))
    | some c => (readCapabilities names).map (c :: ·)

/-- The value that an environment holds for a key, as read; what is there without the key. -/
def readKey {α : Type} (env : String → Option String) (key : Key) (absent : α)
    (read : String → Except ConfigFault α) : Except Error α :=
  match env key.name with
  | none => .ok absent
  | some text => (read text).mapError (.invalidConfig key.name)

/-- The settings with those of an environment on top. The keys are read in order, and the first
value that cannot be read is the error. -/
def withEnvironment (config : Config) (env : String → Option String) : Except Error Config := do
  let validation ← readKey env .validation config.validation readSwitch
  let fenceTimeout ← readKey env .fenceTimeout config.fenceTimeout readTimeout
  let capabilities ← readKey env .capabilities config.capabilities
    (readCapabilities <| Text.items ·)
  let extensions ← readKey env .extensions config.extensions (.ok <| Text.items ·)
  let layers ← readKey env .layers config.layers (.ok <| Text.items ·)
  return { config with validation, fenceTimeout, capabilities, extensions, layers }

/-- The default settings of a build with those of the environment on top. -/
def ofEnvironment (env : String → Option String) (profile : BuildProfile := .debug) :
    Except Error Config :=
  (Config.default profile).withEnvironment env

end Config

/-- The capabilities that a caller names one by one. -/
def namedCapabilities (names : List String) : Except Error (List Capability) :=
  (Config.readCapabilities names).mapError (.invalidConfig "capability")

/-- Names can be handed to a driver when none of them contains a NUL; the first that does is the
error, under the key of the setting that holds it. -/
def driverNames (key : String) (names : List String) : Except Error Unit :=
  match names.find? (·.toList.contains '\x00') with
  | none => .ok ()
  | some name => .error (.invalidConfig key (.containsNul name))

end VulkanExec
