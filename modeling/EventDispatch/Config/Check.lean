import EventDispatch.Config.Error
import EventDispatch.Config.PathName
import EventDispatch.Config.Settings
import EventDispatch.Text.Blank
/-!
Checks of settings.

Purpose: what decoding cannot tell: a log file must be named when messages go to a file, and targets
of filters and names of adapters must not be blank.

Main exports: `Settings.check`.
-/

namespace EventDispatch

namespace LogSettings

/-- Whether the log file is named when it is needed. -/
def checkFile (r : LogSettings) : Except ConfigError Unit :=
  match r.output, r.filePath with
  | .file, none =>
    .error (.invalid "logging.file_path is required when logging.output is \"file\"")
  | .file, some path =>
    if (PathName.fileName? path).isNone then
      .error (.invalid ("logging.file_path must name a file: " ++ path))
    else .ok ()
  | _, _ => .ok ()

/-- Whether all targets of filters say something. -/
def checkFilters (r : LogSettings) : Except ConfigError Unit :=
  match r.filters.names.find? Text.isBlankText with
  | some target => .error (.invalid ("Invalid log filter target: " ++ Text.quoted target))
  | none => .ok ()

end LogSettings

namespace Settings

/-- Whether all names of adapters say something. -/
def checkAdapters (r : Settings) : Except ConfigError Unit :=
  if r.adapters.names.any Text.isBlankText then
    .error (.invalid "Adapter section names must not be empty")
  else .ok ()

/-- The checks in order; the first that fails decides. -/
def check (r : Settings) : Except ConfigError Unit := do
  r.logging.checkFile
  r.logging.checkFilters
  r.checkAdapters

end Settings
end EventDispatch
