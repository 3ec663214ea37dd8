import WalletLoop.Log.Wording
import WalletLoop.Preferences.Table
import WalletLoop.Telemetry

namespace WalletLoop

inductive Level where
  | error
  | warn
  | info
  | debug
  | trace
deriving DecidableEq

namespace Level

def name : Level → String
  | error => "error"
  | warn => "warn"
  | info => "info"
  | debug => "debug"
  | trace => "trace"

def rank : Level → Nat
  | error => 1
  | warn => 2
  | info => 3
  | debug => 4
  | trace => 5

def all : List Level := [error, warn, info, debug, trace]

def shows (l message : Level) : Bool := decide (message.rank ≤ l.rank)

/-- A level by its name in any case. No letter outside ASCII has a lower case form that occurs in
the names, so that the case of ASCII letters is all that matters. -/
def ofName? (s : String) : Option Level :=
  all.find? fun l => l.name.toList == s.toList.map Char.toLower

end Level

structure SubscriberId where
  name : String
deriving DecidableEq

def SubscriberId.describe (id : SubscriberId) : String :=
  Describe.applied "SubscriberId" [id.name]

inductive Notice where
  /- the store -/
  | subscribed (id : SubscriberId)
  | unsubscribed (id : SubscriberId)
  | consumed (a : Action)
  | fired (t : Trigger)
  | reset
  /- sending to a store that is gone -/
  | actionNotSent
  | triggerNotSent
  | storeGone (id : SubscriberId)
  /- middleware -/
  | numbered (n : UInt64) (a : Action)
  | appliesTo (n : UInt64) (s : Snapshot)
  | saved (key : String)
  | notSaved (key : String) (e : PreferenceError)
  | event (e : TelemetryEvent)
  | dropped (name : String) (reason : String)
  /- preferences and configuration -/
  | digitsOutOfRange (digits : Int64)
  | unreadable (key : String) (e : PreferenceError)
  | loaded (count : Nat) (path : String)
  | noFile (path : String)
  | wrote (path : String)
  | configured (path : String)
  | notConfigured (path : String) (fault : Toml.Fault)
  | unconfigured
  /- the program -/
  | remark (level : Level) (text : String)
deriving DecidableEq

namespace Notice

def level : Notice → Level
  | actionNotSent | triggerNotSent => .error
  | notSaved .. | dropped .. | digitsOutOfRange _ | unreadable .. | notConfigured .. => .warn
  | reset | event _ | loaded .. | configured _ => .info
  | appliesTo .. => .trace
  | remark level _ => level
  | subscribed _ | unsubscribed _ | consumed _ | fired _ | storeGone _ | numbered .. | saved _
  | noFile _ | wrote _ | unconfigured => .debug

def target? : Notice → Option String
  | event _ => some "telemetry"
  | _ => none

def text : Notice → String
  | subscribed id => "Subscribed " ++ id.describe
  | unsubscribed id => "Unsubscribed " ++ id.describe
  | consumed a => "Action consumed by middleware: " ++ a.describe
  | fired t => "Trigger: " ++ t.describe
  | reset => "State reset to initial values"
  | actionNotSent => "Dispatcher: failed to send action: sending on a closed channel"
  | triggerNotSent => "Dispatcher: failed to send trigger: sending on a closed channel"
  | storeGone id => "Dispatcher: store dropped before unsubscribing " ++ id.describe
  | numbered n a => "Action #" ++ decimalText n.toNat ++ ": " ++ a.describe
  | appliesTo n s => "Action #" ++ decimalText n.toNat ++ " applies to: " ++ s.describe
  | saved key => "PersistenceMiddleware: saved " ++ key
  | notSaved key e => "PersistenceMiddleware: failed to save " ++ key ++ ": " ++ e.message
  | event e =>
    e.name ++ " " ++ Describe.map (e.attributes.map fun (k, v) => (Text.quoted k, Text.quoted v))
  | dropped name reason => "TelemetryMiddleware: dropped " ++ name ++ ": " ++ reason
  | digitsOutOfRange digits =>
    "Ignoring out of range max display digits: " ++ String.ofList (decimalInt digits.toInt)
  | unreadable key e => "Ignoring unreadable preference " ++ key ++ ": " ++ e.message
  | loaded count path =>
    "Loaded " ++ decimalText count ++ " preferences from " ++ Text.quoted path
  | noFile path => "No preference file at " ++ Text.quoted path ++ ", starting empty"
  | wrote path => "Saved preferences to " ++ Text.quoted path
  | configured path => "Loaded app config from " ++ path
  | notConfigured path fault =>
    "Failed to parse config file " ++ path ++ ": " ++ fault.message
  | unconfigured => "Using default app config"
  | remark _ text => text

end Notice
end WalletLoop
