import VulkanExec.Config

/-!
# Building a configuration

A caller writes down only the settings that differ from the defaults, and names capabilities by
their field names.

## Main definitions

- `ConfigPatch`: the settings that are written down;
- `ConfigPatch.apply`: those settings on top of others;
- `ConfigPatch.essentials`: the settings that the short way to a context offers.
-/

namespace VulkanExec

/-- Settings that take the place of others. -/
structure ConfigPatch where
  appName : Option String
  apiVersion : Option UInt32
  /-- The names of the required capabilities. -/
  capabilities : Option (List String)
  extensions : Option (List String)
  validation : Option Bool
  layers : Option (List String)
  diagnosticExtension : Option String
  fenceTimeout : Option UInt32
  deriving DecidableEq, Repr

namespace ConfigPatch

/-- Put the settings that are written down on top of a configuration. The first name that is no
capability's is the error. -/
def apply (patch : ConfigPatch) (base : Config) : Except Error Config := do
  let capabilities ←
    match patch.capabilities with
    | none => .ok base.capabilities
    | some names => namedCapabilities names
  return { appName := patch.appName.getD base.appName
           apiVersion := patch.apiVersion.getD base.apiVersion
           capabilities
           extensions := patch.extensions.getD base.extensions
           validation := patch.validation.getD base.validation
           layers := patch.layers.getD base.layers
           diagnosticExtension := patch.diagnosticExtension.getD base.diagnosticExtension
           fenceTimeout := patch.fenceTimeout.getD base.fenceTimeout }

/-- The settings that the short way to a context offers: the application's name, what is required,
whether to validate, and the bound on waits. -/
def essentials (patch : ConfigPatch) : ConfigPatch :=
  { patch with apiVersion := none, layers := none, diagnosticExtension := none }

end ConfigPatch

end VulkanExec
