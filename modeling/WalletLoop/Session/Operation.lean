import WalletLoop.Session.Store

namespace WalletLoop

inductive Operation (C : Clients) where
  | addMiddleware (m : C.Middleware)
  | subscribe (id : SubscriberId) (interest : Selector) (client : C.Observer)
  | subscribeTrigger (id : SubscriberId) (t : Trigger) (client : C.Listener)
  | unsubscribe (id : SubscriberId)
  | dispatch (a : Action)
  | trigger (t : Trigger)
  | processPending
  /-- Between two operations, commands are sent through the channel, by whomever. -/
  | send (cs : List Command)

/-- An operation, with a bound on the pieces of work that it takes, and what other threads send
while it is carried out. A call that reaches its bound leaves the rest of the work pending. -/
structure Call (C : Clients) where
  operation : Operation C
  bound : Nat
  arrivals : List (List Command)

namespace Session

variable {C : Clients}

def operate (bound : Nat) (s : Session C) : Operation C → Session C
  | .addMiddleware m => s.addMiddleware m
  | .subscribe id interest client => s.subscribe bound id interest client
  | .subscribeTrigger id t client => s.subscribeTrigger id t client
  | .unsubscribe id => s.unsubscribe id
  | .dispatch a => s.dispatch bound a
  | .trigger t => s.trigger bound t
  | .processPending => s.processPending bound
  | .send cs => s.send cs

def serve (s : Session C) (c : Call C) : Session C :=
  { s with arrivals := c.arrivals }.operate c.bound c.operation

/-- A new store after some calls, with everything that has happened in its journal. -/
def ofCalls (snapshot : Snapshot) (world : C.World) (calls : List (Call C)) : Session C :=
  calls.foldl serve (start (.new C snapshot) world)

end Session
end WalletLoop
