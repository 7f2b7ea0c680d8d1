import EventDispatch.Config.Layers
import EventDispatch.Service.Router
/-!
Setting up routers.

Purpose: a router is set up from the sources of its configuration: the settings are loaded and
checked, and the adapter takes its own section. A missing section stands for the adapter's defaults.

Main exports: `MapperSettings.ofSettings`, `Router.ofSources`.
-/

namespace EventDispatch

/-- The name of the adapter's section. -/
def MapperSettings.sectionName : String := "aws"

/-- The settings in the adapter's own section. -/
def MapperSettings.ofSettings (settings : Settings) : Except ConfigError MapperSettings :=
  match settings.adapters.find? sectionName with
  | none => .ok {}
  | some d => match MapperSettings.decode d with
    | .ok mapper => .ok mapper
    | .error e => .error (.adapterSection sectionName e)

/-- A router that collects registrations, with all its settings. -/
def Router.ofSources (sources : Sources) : Except ConfigError (Settings × Router) := do
  let settings ← sources.load
  settings.check
  let mapper ← MapperSettings.ofSettings settings
  return (settings, { settings := mapper })

end EventDispatch
