import Rolebook.Settings.Environment
import Rolebook.Settings.Overrides

/-!
# Loading settings

The settings come from the environment and, where a variable names one, from a file on top of that.
-/

namespace Rolebook.Settings

open Rolebook.Text (Bytes)

/-- What is found under the path of a file. -/
abbrev Files := String → Except FileError Bytes

/-- The text of a file. -/
def Files.text (files : Files) (path : String) : Except FileError String :=
  match files path with
  | .error error => .error error
  | .ok bytes =>
    match Text.ofUtf8? bytes with
    | some text => .ok text
    | none => .error .notText

/-- The settings with what the file at a path says. -/
def applyFile (files : Files) (settings : Settings) (path : String) : Except Error Settings :=
  match files.text path with
  | .error error => .error (.file path error)
  | .ok text =>
    match Overrides.ofText? text with
    | some overrides => settings.override overrides
    | none => .error .malformedFile

/-- The settings that the environment and the settings file make. -/
def load (environment : Environment) (files : Files) : Except Error Settings := do
  let settings ← ofEnvironment environment
  match environment.text? "RBAC_ADMIN_CONFIG" with
  | some path => settings.applyFile files path
  | none => return settings

end Rolebook.Settings
