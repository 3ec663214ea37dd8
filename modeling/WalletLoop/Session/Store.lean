import WalletLoop.Session.Clients

/-!
The store. It holds the live snapshot, consults the middleware about every action, replaces the
snapshot and tells the observers that want to know.

Work reaches the store directly or through a channel, which is emptied at fixed moments: before the
first piece of work, before every single call of an observer or listener, and after every piece of
work. Actions and triggers from the channel queue up behind the pending work; an unsubscription is
carried out on the spot, by marking subscriptions as inactive. Marked ones are dropped only between
passes, so that the positions a pass goes through stay what they were.

A session is a store at work: with the world its clients share, what other threads are going to send
at the coming moments, and a journal of what happened. `run` takes a bound on the number of pieces of
work, since clients may go on sending for ever.
-/

namespace WalletLoop

inductive Work where
  | action (a : Action)
  | trigger (t : Trigger)
deriving DecidableEq

inductive Route where
  | direct
  | channel
deriving DecidableEq

inductive Role where
  | observer
  | listener
deriving DecidableEq

inductive Event (C : Clients) where
  | issued (route : Route) (c : Command)
  /-- The channel was emptied: what was received, and the numbers of the active observers and
  listeners afterwards. -/
  | collected (received : List Command) (observers listeners : List Nat)
  | added (m : C.Middleware)
  /-- A subscription is being made, and the channel has been emptied for it. What is sent from now
  on comes after. -/
  | registered (role : Role) (number : Nat) (id : SubscriberId)
  | took (w : Work)
  | consulted (m : C.Middleware) (a : Action) (s : Snapshot) (passes : Bool)
  | applied (a : Action)
  | observed (number : Nat) (o : C.Observer) (s : Snapshot)
  | heard (number : Nat) (l : C.Listener) (t : Trigger)
  | finished (w : Work)
  | noticed (n : Notice)

structure Store (C : Clients) where
  snapshot : Snapshot
  middleware : List C.Middleware
  observers : List (Subscription Selector C.Observer)
  listeners : List (Subscription Trigger C.Listener)
  /-- How many subscriptions were ever made. -/
  registered : Nat
  channel : List Command
  pending : List Work

def Store.new (C : Clients) (s : Snapshot) : Store C := ⟨s, [], [], [], 0, [], []⟩

structure Session (C : Clients) extends Store C where
  world : C.World
  /-- What other threads send before the channel is used the next time, the time after that, … -/
  arrivals : List (List Command)
  journal : List (Event C)

namespace Session

variable {C : Clients}

def start (store : Store C) (world : C.World) : Session C := ⟨store, world, [], []⟩

def note (s : Session C) (e : Event C) : Session C := { s with journal := s.journal ++ [e] }

def notice (s : Session C) (n : Notice) : Session C := s.note (.noticed n)

/-! ## Commands -/

def deactivate (s : Session C) (id : SubscriberId) : Session C :=
  let found := s.observers.any (fun o => o.id == id) || s.listeners.any (fun l => l.id == id)
  let marked := { s with
    observers := s.observers.map fun o => if o.id = id then { o with active := false } else o
    listeners := s.listeners.map fun l => if l.id = id then { l with active := false } else l }
  if found then marked.notice (.unsubscribed id) else marked

def compact (s : Session C) : Session C :=
  { s with
    observers := s.observers.filter (·.active)
    listeners := s.listeners.filter (·.active) }

def receive (s : Session C) : Command → Session C
  | .dispatch a => { s with pending := s.pending ++ [.action a] }
  | .trigger t => { s with pending := s.pending ++ [.trigger t] }
  | .unsubscribe id => s.deactivate id

def put (s : Session C) (c : Command) : Session C :=
  { s with channel := s.channel ++ [c] }.note (.issued .channel c)

def arrive (s : Session C) : Session C :=
  (s.arrivals.headD []).foldl put { s with arrivals := s.arrivals.tail }

def send (s : Session C) (cs : List Command) : Session C :=
  cs.foldl (fun s c => s.arrive.put c) s

def emptyChannel (s : Session C) : Session C :=
  let emptied := s.channel.foldl receive { s with channel := [] }
  emptied.note (.collected s.channel (activeNumbers emptied.observers)
    (activeNumbers emptied.listeners))

def collect (s : Session C) : Session C := s.arrive.emptyChannel

/-! ## Calls of clients -/

def absorb {Client : Type} (s : Session C) (r : Reply Client C.World) : Session C :=
  let sent := { s with world := r.world }.send r.sent
  { sent with journal := sent.journal ++ r.notices.map .noticed }

def observe (s : Session C) (o : Subscription Selector C.Observer) :
    Reply C.Observer C.World × Session C :=
  let r := C.observe o.client s.snapshot s.world
  (r, (s.note (.observed o.number o.client s.snapshot)).absorb r)

def hear (s : Session C) (l : Subscription Trigger C.Listener) (t : Trigger) :
    Reply C.Listener C.World × Session C :=
  let r := C.hear l.client t s.world
  (r, (s.note (.heard l.number l.client t)).absorb r)

def notifyAt (previous : Snapshot) (s : Session C) (i : Nat) : Session C :=
  let s := s.collect
  match s.observers[i]? with
  | some o =>
    if o.active && o.interest previous s.snapshot then
      let (r, s) := s.observe o
      { s with observers := s.observers.set i { o with client := r.client } }
    else s
  | none => s

def notify (previous : Snapshot) (s : Session C) : Session C :=
  (List.range s.observers.length).foldl (notifyAt previous) s

def fireAt (t : Trigger) (s : Session C) (i : Nat) : Session C :=
  let s := s.collect
  match s.listeners[i]? with
  | some l =>
    if l.active && l.interest.isSameKind t then
      let (r, s) := s.hear l t
      { s with listeners := s.listeners.set i { l with client := r.client } }
    else s
  | none => s

def fire (s : Session C) (t : Trigger) : Session C :=
  (List.range s.listeners.length).foldl (fireAt t) (s.notice (.fired t))

/-- Asks the middleware in turn about an action, up to the first that does not pass it on, all with
the same snapshot. The last part of the result says whether all passed it on. -/
def consult (a : Action) : List C.Middleware → Session C → List C.Middleware × Session C × Bool
  | [], s => ([], s, true)
  | m :: rest, s =>
    let v := C.consult m a s.snapshot s.world
    let asked := (s.note (.consulted m a s.snapshot v.passes)).absorb v.toReply
    if v.passes then
      let (later, s, passed) := consult a rest asked
      (v.client :: later, s, passed)
    else (v.client :: rest, asked, false)

end Session

def Action.notices : Action → List Notice
  | .startup .reset => [.reset]
  | _ => []

namespace Session

variable {C : Clients}

def advance (s : Session C) (a : Action) : Session C :=
  let next := { s with snapshot := s.snapshot.reduce a }.note (.applied a)
  { next with journal := next.journal ++ a.notices.map .noticed }

def apply (s : Session C) (a : Action) : Session C :=
  let (middleware, asked, passed) := consult a s.middleware s
  let asked := { asked with middleware := middleware }
  if passed then (asked.advance a).notify s.snapshot else asked.notice (.consumed a)

/-! ## The loop -/

def perform (s : Session C) (w : Work) : Session C :=
  let performed := match w with
    | .action a => (s.note (.took w)).apply a
    | .trigger t => (s.note (.took w)).fire t
  performed.note (.finished w)

def drain : Nat → Session C → Session C
  | 0, s => s
  | bound + 1, s =>
    match s.pending with
    | [] => s
    | w :: rest => drain bound ({ s with pending := rest }.perform w).collect.compact

def run (bound : Nat) (s : Session C) : Session C := (drain bound s.collect).compact

/-! ## Operations -/

def addMiddleware (s : Session C) (m : C.Middleware) : Session C :=
  { s with middleware := s.middleware ++ [m] }.note (.added m)

/-- Subscribes an observer. It is given the current snapshot right away. What was sent before is
collected first, so that an earlier unsubscription does not reach the new subscription. -/
def subscribe (bound : Nat) (id : SubscriberId) (interest : Selector) (client : C.Observer)
    (s : Session C) : Session C :=
  let s := s.collect
  let entry := ⟨s.registered, id, interest, client, true⟩
  let s := { s with registered := s.registered + 1 }.note (.registered .observer s.registered id)
  let (r, s) := s.observe entry
  let s := { s with observers := s.observers ++ [{ entry with client := r.client }] }
  (s.notice (.subscribed id)).run bound

def subscribeTrigger (id : SubscriberId) (t : Trigger) (client : C.Listener) (s : Session C) :
    Session C :=
  let s := s.collect.compact
  let entry := ⟨s.registered, id, t, client, true⟩
  let s := { s with registered := s.registered + 1 }.note (.registered .listener s.registered id)
  { s with listeners := s.listeners ++ [entry] }

/-- Gives up all subscriptions of a subscriber; the channel is left alone. -/
def unsubscribe (id : SubscriberId) (s : Session C) : Session C :=
  ((s.note (.issued .direct (.unsubscribe id))).deactivate id).compact

def isSubscribed (s : Session C) (id : SubscriberId) : Bool :=
  s.observers.any (fun o => o.id == id && o.active) ||
    s.listeners.any (fun l => l.id == id && l.active)

def dispatch (bound : Nat) (a : Action) (s : Session C) : Session C :=
  { s.note (.issued .direct (.dispatch a)) with pending := s.pending ++ [Work.action a] }.run bound

def trigger (bound : Nat) (t : Trigger) (s : Session C) : Session C :=
  { s.note (.issued .direct (.trigger t)) with pending := s.pending ++ [Work.trigger t] }.run bound

def processPending (bound : Nat) (s : Session C) : Session C := s.run bound

/-- No other thread sends any more: what was still to come is in the channel. -/
def join (s : Session C) : Session C :=
  s.arrivals.flatten.foldl put { s with arrivals := [] }

def notices (s : Session C) : List Notice :=
  s.journal.filterMap fun
    | .noticed n => some n
    | _ => none

end Session
end WalletLoop
