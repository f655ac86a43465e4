/-
# Logging.Settings — what the environment says about logging

Three settings, each with a default, are read from variables of the environment.  The level may
stand in either of two variables, the first of which goes before the other even if it is empty.
-/
import WalletView.Text.Ascii

set_option autoImplicit false

namespace WalletView

/-- Values of variables by name. -/
abbrev Environment := String → Option String

/-- How the program logs. -/
structure LogSettings where
  serviceName : String
  /-- Which events are logged, in the language of `Logging.Filter`. -/
  level : String
  asJson : Bool
deriving DecidableEq, Repr

namespace LogSettings

def standard : LogSettings := ⟨"derived-state", "info", false⟩

instance : Inhabited LogSettings := ⟨standard⟩

/-- Whether the value of a switch means on: `true` in any case, or `1`. -/
def isOn (value : String) : Bool :=
  Text.matchesAnyCase value "true" || value == "1"

/-- The settings an environment describes. -/
def ofEnvironment (env : Environment) : LogSettings where
  serviceName := (env "DS_SERVICE_NAME").getD standard.serviceName
  level := (env "DS_LOG_LEVEL" <|> env "RUST_LOG").getD standard.level
  asJson := (env "DS_JSON_LOGS").any isOn

end LogSettings

/-- Why logging was not set up. -/
inductive LogError where
  | badFilter (filter : String) (reason : String)
  | alreadyInstalled (reason : String)
deriving DecidableEq, Repr

def LogError.message : LogError → String
  | .badFilter filter reason => "Invalid log filter '" ++ filter ++ "': " ++ reason
  | .alreadyInstalled reason => "A global subscriber is already installed: " ++ reason

end WalletView
