import WalletLoop.Preferences.Settings
import WalletLoop.Session.Clients

/-!
Watchers: the three middlewares that look at every action and pass every one on. One logs, one
saves preferences as soon as an action changes them, one reports changes of settings. The last two
work through services, and go on when a service fails.
-/

namespace WalletLoop

structure Outcome (World Failure : Type) where
  result : Except Failure Unit
  world : World
  notices : List Notice

/-- What watchers need: stores for preferences, and sinks for telemetry that say why they fail. -/
structure Services where
  World : Type
  Store : Type
  Sink : Type
  lookup : Store → World → Lookup
  save : Store → Entry → World → Outcome World PreferenceError
  report : Sink → TelemetryEvent → World → Outcome World String

inductive Watcher (S : Services) where
  /-- Numbers the actions and logs them. The count starts anew when 64 bits no longer hold it. -/
  | log (count : UInt64)
  | preferences (store : S.Store)
  | telemetry (sink : S.Sink)

namespace Watcher

variable {S : Services}

def saving (key : String) : Except PreferenceError Unit → Notice
  | .ok () => .saved key
  | .error e => .notSaved key e

def reporting (name : String) : Except String Unit → List Notice
  | .ok () => []
  | .error reason => [.dropped name reason]

def watch (w : Watcher S) (a : Action) (s : Snapshot) (world : S.World) :
    Reply (Watcher S) S.World :=
  match w with
  | log count =>
    if a = .idle then ⟨log count, world, [], []⟩
    else ⟨log (count + 1), world, [], [.numbered (count + 1) a, .appliesTo (count + 1) s]⟩
  | preferences store =>
    match a.preference? s with
    | none => ⟨w, world, [], []⟩
    | some entry =>
      let o := S.save store entry world
      ⟨w, o.world, [], o.notices ++ [saving entry.1 o.result]⟩
  | telemetry sink =>
    match a.event? with
    | none => ⟨w, world, [], []⟩
    | some event =>
      let o := S.report sink event world
      ⟨w, o.world, [], o.notices ++ reporting event.name o.result⟩

end Watcher

/-- Clients together with watchers, whose services are a part of the world. Watchers alone see that
part: no observer, listener or other middleware holds, say, a handle to the same preferences. -/
def Clients.watched (S : Services) (C : Clients) : Clients where
  World := S.World × C.World
  Middleware := Watcher S ⊕ C.Middleware
  Observer := C.Observer
  Listener := C.Listener
  consult m a s world :=
    match m with
    | .inl w =>
      let r := w.watch a s world.1
      ⟨⟨.inl r.client, (r.world, world.2), r.sent, r.notices⟩, true⟩
    | .inr m =>
      let v := C.consult m a s world.2
      ⟨⟨.inr v.client, (world.1, v.world), v.sent, v.notices⟩, v.passes⟩
  observe o s world :=
    let r := C.observe o s world.2
    ⟨r.client, (world.1, r.world), r.sent, r.notices⟩
  hear l t world :=
    let r := C.hear l t world.2
    ⟨r.client, (world.1, r.world), r.sent, r.notices⟩

end WalletLoop
