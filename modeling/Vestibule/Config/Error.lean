/-! Faults in the configuration. -/

namespace Vestibule

inductive ConfigError where
  | missing (key : String)
  | invalid (key : String) (message : String)
  deriving DecidableEq, Repr

namespace ConfigError

def name : ConfigError → String
  | missing _ => "MissingEnvVar"
  | invalid .. => "InvalidValue"

def message : ConfigError → String
  | missing key => "Missing required environment variable: " ++ key
  | invalid key m => "Invalid configuration value for " ++ key ++ ": " ++ m

end ConfigError

end Vestibule
