import WalletLoop.Log.Notice
import WalletLoop.Toml.Reading

namespace WalletLoop

structure Configuration where
  preferencesFile : Option String
  telemetryEnabled : Bool
  logLevel : String
deriving DecidableEq

structure Environment where
  home : Option String
  configHome : Option String
  accountHome : Option String

namespace Configuration

def standard : Configuration := ⟨none, true, "info"⟩

/-- The text under a key; `some none` when the key is missing, `none` when it holds something else. -/
def text? (es : Toml.Entries) (key : String) : Option (Option String) :=
  match es.find? key with
  | none => some none
  | some (.text s) => some (some s)
  | some _ => none

def flag? (es : Toml.Entries) (key : String) : Option (Option Bool) :=
  match es.find? key with
  | none => some none
  | some (.flag b) => some (some b)
  | some _ => none

def ofEntries? (es : Toml.Entries) : Option Configuration :=
  (text? es "preferences_file").bind fun preferencesFile =>
    (flag? es "telemetry_enabled").bind fun telemetryEnabled =>
      (text? es "log_level").map fun logLevel =>
        { preferencesFile
          telemetryEnabled := telemetryEnabled.getD standard.telemetryEnabled
          logLevel := logLevel.getD standard.logLevel }

def parse (text : String) : Except Toml.Fault Configuration :=
  (Toml.parse text).bind fun es => Toml.wellFormed (ofEntries? es)

def fileName : String := ".wallet-store.toml"

def candidates (env : Environment) : List String :=
  fileName :: (env.home.map fun home => Path.join home fileName).toList

/-- The configuration in the first of these files that holds one. A file that cannot be read counts
as missing; one that holds no configuration is noted. -/
def loadFirst (fs : Files) : List String → Configuration × List Notice
  | [] => (standard, [.unconfigured])
  | path :: rest =>
    match fs.readText path with
    | .error _ => loadFirst fs rest
    | .ok text =>
      match parse text with
      | .ok c => (c, [.configured path])
      | .error fault =>
        let (c, notices) := loadFirst fs rest
        (c, .notConfigured path fault :: notices)

def load (env : Environment) (fs : Files) : Configuration × List Notice :=
  loadFirst fs (candidates env)

end Configuration
end WalletLoop
