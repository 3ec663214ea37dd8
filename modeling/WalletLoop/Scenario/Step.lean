import WalletLoop.Configuration.Directory
import WalletLoop.Scenario.Script
import WalletLoop.Watcher.Surroundings

namespace WalletLoop

inductive HandleCall where
  | openMemory
  | share (other : String)
  | openFile (path : String)
  | restrict (denied : List PreferenceCall)
  | get (kind : Option PreferenceKind) (key : String)
  | set (key : String) (value : Preference)
  | remove (key : String)
  | size
  | isEmpty
  | path
  | load

inductive MiddlewareSpec where
  | log
  | preferences (handle : String)
  | telemetry (sink : Sink)
  | script (s : Script)

inductive Step where
  | write (path : String) (c : Content)
  | read (path : String)
  | makeDirectory (path : String)
  | removeAll (path : String)
  | list (path : String)
  | environment (home configHome : Option (Option String)) (directory : Option String)
  | loadConfiguration
  | standardConfiguration
  | directory
  | usualPath
  | preferencesPath (file : Option String)
  | simulate (requested : Option String)
  | handle (name : String) (call : HandleCall)
  /-- Makes a store, from settings or from the handle they are loaded from; the snapshot is adjusted
  before the store starts from it. -/
  | makeStore (settings : Persisted ⊕ String) (adjust : Snapshot → Snapshot)
  | dropStore
  | addMiddleware (m : MiddlewareSpec)
  | subscribe (id : SubscriberId) (c : Criterion) (client : Script)
  | subscribeTrigger (id : SubscriberId) (t : Trigger) (client : Script)
  | unsubscribe (id : SubscriberId)
  | isSubscribed (id : SubscriberId)
  | dispatch (a : Action)
  | trigger (t : Trigger)
  | processPending
  | carryOut (orders : List Order)
  | guard (name : String) (id : SubscriberId)
  | release (name : String)
  | events (recorder : String)
  | keep (name : String)
  | compare (name : String)
  | settings
  | snapshot
  | json

inductive Failure where
  | preference (e : PreferenceError)
  | directory (e : DirectoryError)
  | noHandle
  | noStore

inductive Answer where
  | done
  | flag (b : Bool)
  | number (n : Nat)
  | text (s : String)
  | content (c : Option Content)
  | names (l : List String)
  | configuration (c : Configuration)
  | preference (p : Option Preference)
  | settings (p : Persisted)
  | snapshot (s : Snapshot)
  | events (es : List TelemetryEvent)
  | comparison (differing : List Aspect) (kept : Snapshot)
  | simulated (exitCode : Nat) (output : String) (log : List Notice)
  | failure (f : Failure)

inductive Output where
  | observed (label : String) (shown : List (Field × FieldValue))
  | heard (label : String) (t : Trigger)
  | consulted (label : String) (a : Action) (shown : List (Field × FieldValue))
  | noticed (n : Notice)

structure Report where
  answer : Answer
  outputs : List Output
  changes : List (Field × FieldValue)

end WalletLoop
