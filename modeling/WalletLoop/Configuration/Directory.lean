import WalletLoop.Configuration.Basic
import WalletLoop.Files.Change

namespace WalletLoop

inductive DirectoryError where
  | unknown
  | notMade (path : String) (e : FileError)
deriving DecidableEq

namespace DirectoryError

def summary : DirectoryError → String
  | unknown => "Could not determine config directory"
  | notMade path _ => "Failed to create config directory: " ++ Text.quoted path

def message (e : DirectoryError) : String :=
  match e with
  | unknown => e.summary
  | notMade _ reason => e.summary ++ ": " ++ reason.message

end DirectoryError

namespace Environment

def homeDirectory? (env : Environment) : Option String :=
  match env.home with
  | some "" => env.accountHome
  | some home => some home
  | none => env.accountHome

/-- The directory for configuration files of all programs: the one that is named, if its path is
absolute, and else the usual one in the home directory. -/
def base? (env : Environment) : Option String :=
  match env.configHome.filter Path.isAbsolute with
  | some path => some path
  | none => env.homeDirectory?.map fun home => Path.join home ".config"

def directory (env : Environment) (fs : Files) : Except DirectoryError String × Files :=
  match env.base? with
  | none => (.error .unknown, fs)
  | some base =>
    let path := Path.join base "wallet-store"
    match fs.makeDirectories path with
    | (.ok (), fs) => (.ok path, fs)
    | (.error e, fs) => (.error (.notMade path e), fs)

def preferencesPath (env : Environment) (fs : Files) : Except DirectoryError String × Files :=
  let (found, fs) := env.directory fs
  (found.map fun path => Path.join path "preferences.toml", fs)

end Environment

def Configuration.preferencesPath (c : Configuration) (env : Environment) (fs : Files) :
    Except DirectoryError String × Files :=
  match c.preferencesFile with
  | some path => (.ok path, fs)
  | none => env.preferencesPath fs

end WalletLoop
