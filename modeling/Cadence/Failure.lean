import Cadence.Remedy

/-!
# Failures

Why settings could not be used, the log not be set up or a text not be taken for
an origin, with the message and the remedy of each cause.
-/

namespace Cadence

/-- Why settings could not be used. -/
inductive SettingsFailure
  | unreadable (path reason : String)
  | malformed (reason : String)
  | badValue (key value : String)
deriving DecidableEq

/-- Why the log was not set up. -/
inductive LoggingFailure
  | alreadyInitialized
  | badLevel (level : String)
  | fileNotCreated (reason : String)
  | subscriberNotSet (reason : String)
deriving DecidableEq

/-- A failure of one of the surroundings. -/
inductive Failure
  | settings (cause : SettingsFailure)
  | logging (cause : LoggingFailure)
  | badOrigin (reason : String)
deriving DecidableEq

namespace SettingsFailure

def message : SettingsFailure → String
  | unreadable path reason => "Failed to read config file " ++ path ++ ": " ++ reason
  | malformed reason => "Failed to parse config: " ++ reason
  | badValue key value => "Invalid value for " ++ key ++ ": " ++ value

def remedy : SettingsFailure → Remedy
  | unreadable path _ =>
      ⟨"Failed to read config file: " ++ path ++ ". Check that it exists and is readable.", []⟩
  | malformed _ =>
      ⟨"Fix the TOML syntax in the config file.",
        ["Delete unknown sections; every key has a default."]⟩
  | badValue key _ => ⟨"Set " ++ key ++ " to a whole number of seconds.", []⟩

end SettingsFailure

namespace LoggingFailure

def message : LoggingFailure → String
  | alreadyInitialized => "logging already initialized"
  | badLevel level => "invalid log level: " ++ level
  | fileNotCreated reason => "failed to create log file: " ++ reason
  | subscriberNotSet reason => "failed to set global subscriber: " ++ reason

end LoggingFailure

namespace Failure

/-- The message of a failure, which names the kind of its cause first. -/
def message : Failure → String
  | settings cause => "Config error: " ++ cause.message
  | logging cause => "Logging error: " ++ cause.message
  | badOrigin reason => "Invalid origin: " ++ reason

/-- The remedy of a failure. Nothing can be done about a log that is set up already. -/
def remedy : Failure → Option Remedy
  | settings cause => some cause.remedy
  | logging .alreadyInitialized => none
  | logging _ =>
      some ⟨"Check the [logging] section and the log file path.",
        ["Unset RUST_LOG if it holds an invalid filter."]⟩
  | badOrigin _ =>
      some ⟨"Pass an absolute URL such as https://example.com.",
        ["Opaque origins (data:, about:) cannot be registered."]⟩

end Failure

end Cadence
