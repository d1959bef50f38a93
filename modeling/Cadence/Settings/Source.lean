import Cadence.Failure
import Cadence.Folder
import Cadence.Logging.Filter
import Cadence.Settings.Basic
import Cadence.Toml.Quoted
import Cadence.Toml.Reader

/-!
# Sources of settings

Settings are read from a TOML text or a file and overridden from the environment.
They can be written back to TOML, where numbers have 63 bits.
-/

namespace Cadence.Settings

def parse (text : String) : Except SettingsFailure Settings :=
  match Toml.read? text with
  | none => .error (.malformed "invalid TOML")
  | some x =>
      match Settings.ofDocument? x with
      | some s => .ok s
      | none => .error (.malformed "invalid settings")

/-- The largest number in a TOML text. -/
def largestNumber : Nat := 9223372036854775807

/-- Writes settings as a TOML text. -/
def toToml (s : Settings) : Except SettingsFailure String :=
  if largestNumber < s.incidents.capacity ∨ largestNumber < s.dispatch.intervalSecs then
    .error (.malformed "out-of-range value")
  else
    .ok <| "[incident_log]\ncapacity = " ++ Text.decimal s.incidents.capacity
      ++ "\n\n[dispatcher]\nevent_interval_secs = " ++ Text.decimal s.dispatch.intervalSecs
      ++ "\n\n[logging]\nlevel = " ++ Toml.Quoted.encode s.logging.level
      ++ "\nformat = " ++ Toml.Quoted.encode s.logging.format.text ++ "\n"
      ++ (s.logging.file.map fun file => "file = " ++ Toml.Quoted.encode file ++ "\n").getD ""

/-- Refuses settings that can be read but not used. -/
def validate (s : Settings) : Except SettingsFailure Unit :=
  if (Logging.Filter.read? s.logging.level).isSome then .ok ()
  else .error (.badValue "logging.level" s.logging.level)

/-- The variable that overrides the interval. -/
def intervalVariable : String := "PLUMBKIT_QUOTA_CHANGE_INTERVAL"

/-- Takes the interval from the environment, if it is given there. -/
def override (s : Settings) (value : Option String) : Except SettingsFailure Settings :=
  match value with
  | none => .ok s
  | some raw =>
      match Text.readWord? (Text.trim raw.toList) with
      | some secs => .ok { s with dispatch := { intervalSecs := secs } }
      | none => .error (.badValue intervalVariable raw)

/-- Takes the interval from the environment into settings that are in use. They change
once nothing can fail any more. -/
def overrideInPlace (value : Option String) : ExceptT SettingsFailure (StateM Settings) Unit := do
  match value with
  | none => return
  | some raw =>
      match Text.readWord? (Text.trim raw.toList) with
      | some secs => modify fun s => { s with dispatch := { intervalSecs := secs } }
      | none => throw (.badValue intervalVariable raw)

/-- Reads settings from a file, overrides them and checks them. -/
def load (folder : Folder) (path : String) (value : Option String) :
    Except SettingsFailure (Settings × List Event) :=
  match folder.readText path with
  | .error e => .error (.unreadable path e.message)
  | .ok text => do
      let s ← parse text
      let s ← s.override value
      s.validate
      return (s, [.loadedSettings path s.incidents.capacity s.dispatch.intervalSecs])

end Cadence.Settings
