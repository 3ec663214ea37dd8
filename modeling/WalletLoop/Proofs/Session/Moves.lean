import Mathlib.Logic.Relation
import WalletLoop.Session.Operation

namespace WalletLoop

def Command.work? : Command → Option Work
  | .dispatch a => some (.action a)
  | .trigger t => some (.trigger t)
  | .unsubscribe _ => none

def Subscription.afterwards {Interest Client : Type} (cs : List Command)
    (o : Subscription Interest Client) : Subscription Interest Client :=
  if .unsubscribe o.id ∈ cs then { o with active := false } else o

inductive Phase (C : Clients) where
  | idle
  | greeting (number : Nat) (id : SubscriberId)
  | joining (number : Nat) (id : SubscriberId)
  | asking (a : Action) (asked rest : List C.Middleware)
  | held (a : Action) (middleware : List C.Middleware)
  | telling (a : Action) (previous : Snapshot) (position : Nat)
  | firing (t : Trigger) (position : Nat)

namespace Phase

variable {C : Clients}

def Collects : Phase C → Prop
  | idle | telling .. | firing .. => True
  | _ => False

def work? : Phase C → Option Work
  | idle | greeting .. | joining .. => none
  | asking a _ _ | held a _ | telling a _ _ => some (.action a)
  | firing t _ => some (.trigger t)

def opening (middleware : List C.Middleware) : Work → Phase C
  | .action a => asking a [] middleware
  | .trigger t => firing t 0

end Phase

/-- Some middleware, asked about an action in some world, becomes another and passes the action on
or not. -/
def Answers {C : Clients} (a : Action) (s : Snapshot) (passes : Bool) (m m' : C.Middleware) :
    Prop :=
  ∃ w, (C.consult m a s w).client = m' ∧ (C.consult m a s w).passes = passes

abbrev Moment (C : Clients) := Phase C × Session C

namespace Session

variable {C : Clients}

def emptied (s : Session C) : Session C :=
  let observers := s.observers.map (·.afterwards s.channel)
  let listeners := s.listeners.map (·.afterwards s.channel)
  { s with
    channel := []
    pending := s.pending ++ s.channel.filterMap Command.work?
    observers := observers
    listeners := listeners
    journal := s.journal ++
      [.collected s.channel (activeNumbers observers) (activeNumbers listeners)] }

def released (s : Session C) (id : SubscriberId) : Session C :=
  { s with
    observers := s.observers.map (·.afterwards [.unsubscribe id])
    listeners := s.listeners.map (·.afterwards [.unsubscribe id])
    journal := s.journal ++ [.issued .direct (.unsubscribe id)] }

inductive Move : Moment C → Moment C → Prop
  /- in any phase -/
  | world (p : Phase C) (s : Session C) (w : C.World) : Move (p, s) (p, { s with world := w })
  | arrivals (p : Phase C) (s : Session C) (later : List (List Command)) :
      Move (p, s) (p, { s with arrivals := later })
  | put (p : Phase C) (s : Session C) (c : Command) : Move (p, s) (p, s.put c)
  | notice (p : Phase C) (s : Session C) (n : Notice) : Move (p, s) (p, s.notice n)
  | empty (p : Phase C) (s : Session C) (collects : p.Collects) : Move (p, s) (p, s.emptied)
  /- a client has a new state of its own -/
  | observer (p : Phase C) (s : Session C) (i : Nat) (o : Subscription Selector C.Observer)
      (client : C.Observer) (at_i : s.observers[i]? = some o) :
      Move (p, s) (p, { s with observers := s.observers.set i { o with client := client } })
  | listener (p : Phase C) (s : Session C) (i : Nat) (l : Subscription Trigger C.Listener)
      (client : C.Listener) (at_i : s.listeners[i]? = some l) :
      Move (p, s) (p, { s with listeners := s.listeners.set i { l with client := client } })
  /- between pieces of work -/
  | compact (s : Session C) : Move (.idle, s) (.idle, s.compact)
  | take (s : Session C) (w : Work) (later : List Work) (next : s.pending = w :: later) :
      Move (.idle, s) (.opening s.middleware w, { s with pending := later }.note (.took w))
  /- an action -/
  | pass (s : Session C) (a : Action) (asked : List C.Middleware) (m m' : C.Middleware)
      (rest : List C.Middleware) (answers : Answers a s.snapshot true m m') :
      Move (.asking a asked (m :: rest), s)
        (.asking a (asked ++ [m']) rest, s.note (.consulted m a s.snapshot true))
  | hold (s : Session C) (a : Action) (asked : List C.Middleware) (m m' : C.Middleware)
      (rest : List C.Middleware) (answers : Answers a s.snapshot false m m') :
      Move (.asking a asked (m :: rest), s)
        (.held a (asked ++ m' :: rest), s.note (.consulted m a s.snapshot false))
  | consumed (s : Session C) (a : Action) (middleware : List C.Middleware) :
      Move (.held a middleware, s)
        (.idle, { s with middleware := middleware }.note (.finished (.action a)))
  | advance (s : Session C) (a : Action) (asked : List C.Middleware) :
      Move (.asking a asked [], s)
        (.telling a s.snapshot 0,
          { s with middleware := asked, snapshot := s.snapshot.reduce a }.note (.applied a))
  | observe (s : Session C) (a : Action) (previous : Snapshot) (i : Nat)
      (o : Subscription Selector C.Observer) (collected : s.channel = [])
      (at_i : s.observers[i]? = some o) (active : o.active = true)
      (interested : o.interest previous s.snapshot = true) :
      Move (.telling a previous i, s)
        (.telling a previous (i + 1), s.note (.observed o.number o.client s.snapshot))
  | spare (s : Session C) (a : Action) (previous : Snapshot) (i : Nat)
      (o : Subscription Selector C.Observer) (collected : s.channel = [])
      (at_i : s.observers[i]? = some o)
      (not_wanted : (o.active && o.interest previous s.snapshot) = false) :
      Move (.telling a previous i, s) (.telling a previous (i + 1), s)
  | told (s : Session C) (a : Action) (previous : Snapshot) :
      Move (.telling a previous s.observers.length, s)
        (.idle, s.note (.finished (.action a)))
  /- a trigger -/
  | hear (s : Session C) (t : Trigger) (i : Nat) (l : Subscription Trigger C.Listener)
      (collected : s.channel = []) (at_i : s.listeners[i]? = some l) (active : l.active = true)
      (matching : l.interest.isSameKind t = true) :
      Move (.firing t i, s) (.firing t (i + 1), s.note (.heard l.number l.client t))
  | ignore (s : Session C) (t : Trigger) (i : Nat) (l : Subscription Trigger C.Listener)
      (collected : s.channel = []) (at_i : s.listeners[i]? = some l)
      (not_wanted : (l.active && l.interest.isSameKind t) = false) :
      Move (.firing t i, s) (.firing t (i + 1), s)
  | fired (s : Session C) (t : Trigger) :
      Move (.firing t s.listeners.length, s) (.idle, s.note (.finished (.trigger t)))

inductive Request : Moment C → Moment C → Prop
  | add (s : Session C) (m : C.Middleware) : Request (.idle, s) (.idle, s.addMiddleware m)
  | submit (s : Session C) (c : Command) (w : Work) (asks : c.work? = some w) :
      Request (.idle, s)
        (.idle, { s.note (.issued .direct c) with pending := s.pending ++ [w] })
  | release (s : Session C) (id : SubscriberId) : Request (.idle, s) (.idle, s.released id)
  | listen (s : Session C) (id : SubscriberId) (t : Trigger) (client : C.Listener)
      (collected : s.channel = []) :
      Request (.idle, s)
        (.idle, { { s with registered := s.registered + 1 }.note
            (.registered .listener s.registered id) with
          listeners := s.listeners ++ [⟨s.registered, id, t, client, true⟩] })
  | register (s : Session C) (id : SubscriberId) (collected : s.channel = []) :
      Request (.idle, s)
        (.greeting s.registered id,
          { s with registered := s.registered + 1 }.note (.registered .observer s.registered id))
  | greet (s : Session C) (number : Nat) (id : SubscriberId) (client : C.Observer)
      (collected : s.channel = []) :
      Request (.greeting number id, s)
        (.joining number id, s.note (.observed number client s.snapshot))
  | join (s : Session C) (number : Nat) (id : SubscriberId) (interest : Selector)
      (client : C.Observer) :
      Request (.joining number id, s)
        (.idle, { s with observers := s.observers ++ [⟨number, id, interest, client, true⟩] })

abbrev Moves : Moment C → Moment C → Prop := Relation.ReflTransGen Move

abbrev Steps : Moment C → Moment C → Prop :=
  Relation.ReflTransGen fun m m' => Move m m' ∨ Request m m'

end Session
end WalletLoop
