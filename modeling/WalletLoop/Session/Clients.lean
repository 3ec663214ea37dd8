import WalletLoop.Log.Notice

/-!
The clients of a store: middleware, observers of the snapshot and listeners for triggers. A client
keeps a state of its own, shares a world with the others, and answers a call with the commands that
it sends and the notices that it gives. Nothing else of a client is visible to the store.
-/

namespace WalletLoop

inductive Command where
  | dispatch (a : Action)
  | trigger (t : Trigger)
  | unsubscribe (id : SubscriberId)
deriving DecidableEq

structure Reply (Client World : Type) where
  client : Client
  world : World
  sent : List Command
  notices : List Notice

/-- The answer of a middleware; an action that it does not pass on goes no further. -/
structure Verdict (Client World : Type) extends Reply Client World where
  passes : Bool

structure Clients where
  World : Type
  Middleware : Type
  Observer : Type
  Listener : Type
  consult : Middleware → Action → Snapshot → World → Verdict Middleware World
  observe : Observer → Snapshot → World → Reply Observer World
  hear : Listener → Trigger → World → Reply Listener World

abbrev Selector := Snapshot → Snapshot → Bool

/-- A subscription that was given up stays in its list, without being called, until the running pass
is over. -/
structure Subscription (Interest Client : Type) where
  number : Nat
  id : SubscriberId
  interest : Interest
  client : Client
  active : Bool

def activeNumbers {Interest Client : Type} (entries : List (Subscription Interest Client)) :
    List Nat :=
  (entries.filter (·.active)).map (·.number)

end WalletLoop
