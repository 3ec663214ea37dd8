import WalletLoop.Preferences.Store
import WalletLoop.Watcher.Basic

namespace WalletLoop

inductive Sink where
  | log
  | broken
  | recorder (name : String)
deriving DecidableEq

structure Surroundings where
  files : Files
  stores : List PreferenceStore
  recorded : List (String × TelemetryEvent)

namespace Surroundings

def events (w : Surroundings) (name : String) : List TelemetryEvent :=
  w.recorded.filterMap fun entry => if entry.1 = name then some entry.2 else none

def keep (w : Surroundings) (p : PreferenceStore) : Surroundings :=
  { w with stores := w.stores ++ [p] }

def lookup (store : Nat) (w : Surroundings) : Lookup :=
  match w.stores[store]? with
  | some p => p.lookup
  | none => fun _ => .ok none

def update (store : Nat) (call : PreferenceStore → Saving PreferenceStore) (w : Surroundings) :
    Outcome Surroundings PreferenceError :=
  match w.stores[store]? with
  | some p =>
    let s := call p
    ⟨s.result, { w with files := s.files, stores := w.stores.set store s.store }, s.notices⟩
  | none => ⟨.ok (), w, []⟩

def save (store : Nat) (entry : Entry) (w : Surroundings) :
    Outcome Surroundings PreferenceError :=
  w.update store fun p => p.set w.files entry.1 entry.2

def report (sink : Sink) (event : TelemetryEvent) (w : Surroundings) :
    Outcome Surroundings String :=
  match sink with
  | .log => ⟨.ok (), w, [.event event]⟩
  | .broken => ⟨.error ("sink down for " ++ event.name), w, []⟩
  | .recorder name => ⟨.ok (), { w with recorded := w.recorded ++ [(name, event)] }, []⟩

def services : Services where
  World := Surroundings
  Store := Nat
  Sink := Sink
  lookup := lookup
  save := save
  report := report

end Surroundings
end WalletLoop
