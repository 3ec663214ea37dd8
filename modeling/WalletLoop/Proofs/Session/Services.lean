import WalletLoop.Proofs.Session.Paths
import WalletLoop.Watcher.Basic

namespace WalletLoop

variable {S S' : Services} {C : Clients}

/-- Services that take the place of others. -/
structure Exchange (S S' : Services) where
  store : S.Store → S'.Store
  sink : S.Sink → S'.Sink

namespace Exchange

variable (x : Exchange S S')

def watcher : Watcher S → Watcher S'
  | .log count => .log count
  | .preferences store => .preferences (x.store store)
  | .telemetry sink => .telemetry (x.sink sink)

def middleware : (C.watched S).Middleware → (C.watched S').Middleware
  | .inl w => .inl (x.watcher w)
  | .inr m => .inr m

def event : Event (C.watched S) → Event (C.watched S')
  | .issued route c => .issued route c
  | .collected received observers listeners => .collected received observers listeners
  | .added m => .added (x.middleware m)
  | .registered role number id => .registered role number id
  | .took w => .took w
  | .consulted m a s passes => .consulted (x.middleware m) a s passes
  | .applied a => .applied a
  | .observed number o s => .observed number o s
  | .heard number l t => .heard number l t
  | .finished w => .finished w
  | .noticed n => .noticed n

def operation : Operation (C.watched S) → Operation (C.watched S')
  | .addMiddleware m => .addMiddleware (x.middleware m)
  | .subscribe id interest client => .subscribe id interest client
  | .subscribeTrigger id t client => .subscribeTrigger id t client
  | .unsubscribe id => .unsubscribe id
  | .dispatch a => .dispatch a
  | .trigger t => .trigger t
  | .processPending => .processPending
  | .send cs => .send cs

def call (c : Call (C.watched S)) : Call (C.watched S') :=
  ⟨x.operation c.operation, c.bound, c.arrivals⟩

def session (s : Session (C.watched S)) (services : S'.World)
    (journal : List (Event (C.watched S'))) : Session (C.watched S') where
  snapshot := s.snapshot
  middleware := s.middleware.map x.middleware
  observers := s.observers
  listeners := s.listeners
  registered := s.registered
  channel := s.channel
  pending := s.pending
  world := (services, s.world.2)
  arrivals := s.arrivals
  journal := journal

theorem watch (w : Watcher S) (a : Action) (s : Snapshot) (services : S.World)
    (services' : S'.World) :
    ((x.watcher w).watch a s services').client = x.watcher (w.watch a s services).client ∧
      ((x.watcher w).watch a s services').sent = (w.watch a s services).sent := by
  cases w with
  | log count => by_cases idle : a = .idle <;> simp [Watcher.watch, watcher, idle]
  | preferences store => cases saved : a.preference? s <;> simp [Watcher.watch, watcher, saved]
  | telemetry sink => cases reported : a.event? <;> simp [Watcher.watch, watcher, reported]

end Exchange

def Event.isNotice {C : Clients} : Event C → Bool
  | .noticed _ => true
  | _ => false

namespace Session

def deeds (journal : List (Event C)) : List (Event C) := journal.filter fun e => !e.isNotice

@[simp]
theorem deeds_append (journal events : List (Event C)) :
    deeds (journal ++ events) = deeds journal ++ deeds events := by
  simp [deeds]

@[simp]
theorem deeds_notices (ns : List Notice) : deeds (ns.map .noticed : List (Event C)) = [] := by
  simp [deeds, Event.isNotice]

theorem deeds_event (x : Exchange S S') (e : Event (C.watched S)) :
    deeds [x.event e] = (deeds [e]).map x.event := by
  cases e <;> rfl

theorem deeds_concat {x : Exchange S S'} {journal : List (Event (C.watched S))}
    {journal' : List (Event (C.watched S'))} (same : deeds journal' = (deeds journal).map x.event)
    (e : Event (C.watched S)) :
    deeds (journal' ++ [x.event e]) = (deeds (journal ++ [e])).map x.event := by
  simp [same, deeds_event]

def Alike (x : Exchange S S') (s : Session (C.watched S)) (s' : Session (C.watched S')) : Prop :=
  ∃ services journal, s' = x.session s services journal ∧
    deeds journal = (deeds s.journal).map x.event

namespace Alike

variable {x : Exchange S S'} {s : Session (C.watched S)} {s' : Session (C.watched S')}

theorem note (alike : Alike x s s') (e : Event (C.watched S)) :
    Alike x (s.note e) (s'.note (x.event e)) := by
  obtain ⟨services, journal, rfl, same⟩ := alike
  exact ⟨services, _, rfl, deeds_concat same e⟩

theorem notices (alike : Alike x s s') (ns ns' : List Notice) :
    Alike x { s with journal := s.journal ++ ns.map .noticed }
      { s' with journal := s'.journal ++ ns'.map .noticed } := by
  obtain ⟨services, journal, rfl, same⟩ := alike
  exact ⟨services, journal ++ ns'.map .noticed, rfl, by simp [same]⟩

theorem queues (alike : Alike x s s') (channel : List Command → List Command)
    (pending : List Work → List Work) :
    Alike x { s with channel := channel s.channel, pending := pending s.pending }
      { s' with channel := channel s'.channel, pending := pending s'.pending } := by
  obtain ⟨services, journal, rfl, same⟩ := alike
  exact ⟨services, journal, rfl, same⟩

theorem put (alike : Alike x s s') (c : Command) : Alike x (s.put c) (s'.put c) :=
  (alike.queues (· ++ [c]) id).note (.issued .channel c)

theorem puts (alike : Alike x s s') (cs : List Command) :
    Alike x (cs.foldl Session.put s) (cs.foldl Session.put s') := by
  induction cs generalizing s s' with
  | nil => exact alike
  | cons c cs ih => exact ih (alike.put c)

theorem arrive (alike : Alike x s s') : Alike x s.arrive s'.arrive := by
  have later : Alike x { s with arrivals := s.arrivals.tail }
      { s' with arrivals := s'.arrivals.tail } := by
    obtain ⟨services, journal, rfl, same⟩ := alike
    exact ⟨services, journal, rfl, same⟩
  have first : s'.arrivals = s.arrivals := by
    obtain ⟨services, journal, rfl, -⟩ := alike
    rfl
  simpa only [Session.arrive, first] using later.puts (s.arrivals.headD [])

theorem send (alike : Alike x s s') (cs : List Command) : Alike x (s.send cs) (s'.send cs) := by
  induction cs generalizing s s' with
  | nil => exact alike
  | cons c cs ih => exact ih (alike.arrive.put c)

theorem emptied (alike : Alike x s s') : Alike x s.emptied s'.emptied := by
  obtain ⟨services, journal, rfl, same⟩ := alike
  exact ⟨services, _, rfl, deeds_concat same (.collected _ _ _)⟩

theorem collect (alike : Alike x s s') : Alike x s.collect s'.collect := by
  obtain ⟨ns, received⟩ := emptyChannel_eq s.arrive
  obtain ⟨ns', received'⟩ := emptyChannel_eq s'.arrive
  rw [Session.collect, Session.collect, received, received']
  exact (alike.arrive.notices ns ns').emptied

theorem compact (alike : Alike x s s') : Alike x s.compact s'.compact := by
  obtain ⟨services, journal, rfl, same⟩ := alike
  exact ⟨services, journal, rfl, same⟩

theorem unsubscribe (alike : Alike x s s') (id : SubscriberId) :
    Alike x (s.unsubscribe id) (s'.unsubscribe id) := by
  have released : Alike x (s.released id) (s'.released id) := by
    obtain ⟨services, journal, rfl, same⟩ := alike
    exact ⟨services, _, rfl, deeds_concat same (.issued .direct (.unsubscribe id))⟩
  obtain ⟨ns, marked⟩ := deactivate_eq (s.note (.issued .direct (.unsubscribe id))) id
  obtain ⟨ns', marked'⟩ := deactivate_eq (s'.note (.issued .direct (.unsubscribe id))) id
  rw [Session.unsubscribe, Session.unsubscribe, marked, marked']
  exact (released.notices ns ns').compact

theorem absorb {Client Client' : Type} (alike : Alike x s s')
    {r : Reply Client (C.watched S).World} {r' : Reply Client' (C.watched S').World}
    (world : r'.world.2 = r.world.2) (sent : r'.sent = r.sent) :
    Alike x (s.absorb r) (s'.absorb r') := by
  have after : Alike x { s with world := r.world } { s' with world := r'.world } := by
    obtain ⟨services, journal, rfl, same⟩ := alike
    refine ⟨r'.world.1, journal, ?_, same⟩
    dsimp only [Exchange.session]
    rw [← world]
    rfl
  unfold Session.absorb
  rw [sent]
  exact (after.send r.sent).notices r.notices r'.notices

theorem observe (alike : Alike x s s') (o : Subscription Selector C.Observer) :
    Alike x (Session.observe s o).2 (Session.observe s' o).2 ∧
      (Session.observe s' o).1.client = (Session.observe s o).1.client := by
  obtain ⟨services, journal, rfl, same⟩ := alike
  have asked : Alike x s (x.session s services journal) := ⟨services, journal, rfl, same⟩
  exact ⟨(asked.note (.observed o.number o.client s.snapshot)).absorb rfl rfl, rfl⟩

theorem hear (alike : Alike x s s') (l : Subscription Trigger C.Listener) (t : Trigger) :
    Alike x (Session.hear s l t).2 (Session.hear s' l t).2 ∧
      (Session.hear s' l t).1.client = (Session.hear s l t).1.client := by
  obtain ⟨services, journal, rfl, same⟩ := alike
  have asked : Alike x s (x.session s services journal) := ⟨services, journal, rfl, same⟩
  exact ⟨(asked.note (.heard l.number l.client t)).absorb rfl rfl, rfl⟩

theorem setObserver (alike : Alike x s s') (i : Nat) (o : Subscription Selector C.Observer) :
    Alike x { s with observers := s.observers.set i o }
      { s' with observers := s'.observers.set i o } := by
  obtain ⟨services, journal, rfl, same⟩ := alike
  exact ⟨services, journal, rfl, same⟩

theorem setListener (alike : Alike x s s') (i : Nat) (l : Subscription Trigger C.Listener) :
    Alike x { s with listeners := s.listeners.set i l }
      { s' with listeners := s'.listeners.set i l } := by
  obtain ⟨services, journal, rfl, same⟩ := alike
  exact ⟨services, journal, rfl, same⟩

theorem observer_at (alike : Alike x s s') (i : Nat) : s'.observers[i]? = s.observers[i]? := by
  obtain ⟨services, journal, rfl, -⟩ := alike
  rfl

theorem listener_at (alike : Alike x s s') (i : Nat) : s'.listeners[i]? = s.listeners[i]? := by
  obtain ⟨services, journal, rfl, -⟩ := alike
  rfl

theorem snapshot (alike : Alike x s s') : s'.snapshot = s.snapshot := by
  obtain ⟨services, journal, rfl, -⟩ := alike
  rfl

theorem notifyAt (alike : Alike x s s') (previous : Snapshot) (i : Nat) :
    Alike x (Session.notifyAt previous s i) (Session.notifyAt previous s' i) := by
  have gathered := alike.collect
  have there := gathered.observer_at i
  cases at_i : s.collect.observers[i]? with
  | none =>
      rw [notifyAt_none at_i, notifyAt_none (there.trans at_i)]
      exact gathered
  | some o =>
      cases wanted : o.active && o.interest previous s.collect.snapshot with
      | false =>
          rw [notifyAt_spared at_i wanted, notifyAt_spared (there.trans at_i)]
          · exact gathered
          · rw [gathered.snapshot]
            exact wanted
      | true =>
          obtain ⟨after, client⟩ := gathered.observe o
          rw [notifyAt_called at_i wanted, notifyAt_called (there.trans at_i)]
          · rw [client]
            exact after.setObserver i _
          · rw [gathered.snapshot]
            exact wanted

theorem fireAt (alike : Alike x s s') (t : Trigger) (i : Nat) :
    Alike x (Session.fireAt t s i) (Session.fireAt t s' i) := by
  have gathered := alike.collect
  have there := gathered.listener_at i
  cases at_i : s.collect.listeners[i]? with
  | none =>
      rw [fireAt_none at_i, fireAt_none (there.trans at_i)]
      exact gathered
  | some l =>
      cases wanted : l.active && l.interest.isSameKind t with
      | false =>
          rw [fireAt_spared at_i wanted, fireAt_spared (there.trans at_i) wanted]
          exact gathered
      | true =>
          obtain ⟨after, client⟩ := gathered.hear l t
          rw [fireAt_called at_i wanted, fireAt_called (there.trans at_i) wanted, client]
          exact after.setListener i _

theorem turns {turn : Session (C.watched S) → Nat → Session (C.watched S)}
    {turn' : Session (C.watched S') → Nat → Session (C.watched S')}
    (keeps : ∀ s s' i, Alike x s s' → Alike x (turn s i) (turn' s' i)) (alike : Alike x s s')
    (positions : List Nat) : Alike x (positions.foldl turn s) (positions.foldl turn' s') := by
  induction positions generalizing s s' with
  | nil => exact alike
  | cons i positions ih => exact ih (keeps s s' i alike)

theorem notify (alike : Alike x s s') (previous : Snapshot) :
    Alike x (s.notify previous) (s'.notify previous) := by
  have size : s'.observers.length = s.observers.length := by
    obtain ⟨services, journal, rfl, -⟩ := alike
    rfl
  rw [Session.notify, Session.notify, size]
  exact alike.turns (fun s s' i alike => alike.notifyAt previous i) _

theorem fire (alike : Alike x s s') (t : Trigger) : Alike x (s.fire t) (s'.fire t) := by
  have size : s'.listeners.length = s.listeners.length := by
    obtain ⟨services, journal, rfl, -⟩ := alike
    rfl
  rw [Session.fire, Session.fire, size]
  exact (alike.note (.noticed (.fired t))).turns (fun s s' i alike => alike.fireAt t i) _

theorem advance (alike : Alike x s s') (a : Action) : Alike x (s.advance a) (s'.advance a) := by
  have reduced : Alike x { s with snapshot := s.snapshot.reduce a }
      { s' with snapshot := s'.snapshot.reduce a } := by
    obtain ⟨services, journal, rfl, same⟩ := alike
    exact ⟨services, journal, rfl, same⟩
  exact (reduced.note (.applied a)).notices a.notices a.notices

theorem consultOne (alike : Alike x s s') (m : (C.watched S).Middleware) (a : Action) :
    let v := (C.watched S).consult m a s.snapshot s.world
    let v' := (C.watched S').consult (x.middleware m) a s'.snapshot s'.world
    v'.client = x.middleware v.client ∧ v'.passes = v.passes ∧
      Alike x ((s.note (.consulted m a s.snapshot v.passes)).absorb v.toReply)
        ((s'.note (.consulted (x.middleware m) a s'.snapshot v'.passes)).absorb v'.toReply) := by
  intro v v'
  have shown : s'.snapshot = s.snapshot := alike.snapshot
  have world : s'.world.2 = s.world.2 := by
    obtain ⟨services, journal, rfl, -⟩ := alike
    rfl
  have answer : v'.client = x.middleware v.client ∧ v'.passes = v.passes ∧ v'.sent = v.sent ∧
      v'.world.2 = v.world.2 := by
    cases m with
    | inl w =>
        have watched := x.watch w a s.snapshot s.world.1 s'.world.1
        simp only [v', shown]
        exact ⟨congrArg Sum.inl watched.1, rfl, watched.2, world⟩
    | inr m =>
        have same : C.consult m a s'.snapshot s'.world.2 = C.consult m a s.snapshot s.world.2 := by
          rw [shown, world]
        have client := congrArg (fun r => (.inr r.client : (C.watched S').Middleware)) same
        exact ⟨client, congrArg (·.passes) same, congrArg (·.sent) same, congrArg (·.world) same⟩
  obtain ⟨client, passes, sent, kept⟩ := answer
  refine ⟨client, passes, ?_⟩
  rw [passes, shown]
  exact (alike.note (.consulted m a s.snapshot v.passes)).absorb kept sent

theorem consult (alike : Alike x s s') (a : Action) (ms : List (C.watched S).Middleware) :
    let asked := Session.consult a ms s
    let asked' := Session.consult a (ms.map x.middleware) s'
    asked'.1 = asked.1.map x.middleware ∧ Alike x asked.2.1 asked'.2.1 ∧
      asked'.2.2 = asked.2.2 := by
  induction ms generalizing s s' with
  | nil => exact ⟨rfl, alike, rfl⟩
  | cons m ms ih =>
      obtain ⟨client, passes, asked⟩ := alike.consultOne m a
      rw [List.map_cons, Session.consult, Session.consult]
      dsimp only
      rw [passes] at asked ⊢
      split
      · obtain ⟨chain, later, all⟩ := ih asked
        exact ⟨by simp only [chain, client, List.map_cons], later, all⟩
      · exact ⟨by simp only [client, List.map_cons], asked, rfl⟩

theorem apply (alike : Alike x s s') (a : Action) : Alike x (s.apply a) (s'.apply a) := by
  have chain : s'.middleware = s.middleware.map x.middleware := by
    obtain ⟨services, journal, rfl, -⟩ := alike
    rfl
  obtain ⟨answers, asked, passed⟩ := alike.consult a s.middleware
  rw [← chain] at answers asked passed
  -- the middleware as it is after its answers
  have settled : Alike x
      { (Session.consult a s.middleware s).2.1 with
        middleware := (Session.consult a s.middleware s).1 }
      { (Session.consult a s'.middleware s').2.1 with
        middleware := (Session.consult a s'.middleware s').1 } := by
    rw [answers]
    obtain ⟨services, journal, same, deeds⟩ := asked
    rw [same]
    exact ⟨services, journal, rfl, deeds⟩
  unfold Session.apply
  dsimp only
  rw [passed, alike.snapshot]
  split
  · exact (settled.advance a).notify s.snapshot
  · exact settled.note (.noticed (.consumed a))

theorem perform (alike : Alike x s s') (w : Work) : Alike x (s.perform w) (s'.perform w) := by
  have took := alike.note (.took w)
  cases w with
  | action a => exact (took.apply a).note (.finished (.action a))
  | trigger t => exact (took.fire t).note (.finished (.trigger t))

theorem drain (alike : Alike x s s') (bound : Nat) :
    Alike x (Session.drain bound s) (Session.drain bound s') := by
  induction bound generalizing s s' with
  | zero => exact alike
  | succ bound ih =>
      have waiting : s'.pending = s.pending := by
        obtain ⟨services, journal, rfl, -⟩ := alike
        rfl
      unfold Session.drain
      rw [waiting]
      split
      · exact alike
      · rename_i w later next
        exact ih ((alike.queues id fun _ => later).perform w).collect.compact

theorem run (alike : Alike x s s') (bound : Nat) : Alike x (s.run bound) (s'.run bound) :=
  (alike.collect.drain bound).compact

theorem addMiddleware (alike : Alike x s s') (m : (C.watched S).Middleware) :
    Alike x (s.addMiddleware m) (s'.addMiddleware (x.middleware m)) := by
  have longer : Alike x { s with middleware := s.middleware ++ [m] }
      { s' with middleware := s'.middleware ++ [x.middleware m] } := by
    obtain ⟨services, journal, rfl, same⟩ := alike
    refine ⟨services, journal, ?_, same⟩
    dsimp only [Exchange.session]
    rw [List.map_append, List.map_singleton]
  exact longer.note (.added m)

theorem register (alike : Alike x s s') (role : Role) (id : SubscriberId) :
    Alike x ({ s with registered := s.registered + 1 }.note (.registered role s.registered id))
      ({ s' with registered := s'.registered + 1 }.note (.registered role s'.registered id)) := by
  obtain ⟨services, journal, rfl, same⟩ := alike
  exact ⟨services, _, rfl, deeds_concat same (.registered role s.registered id)⟩

theorem join (alike : Alike x s s') (o : Subscription Selector C.Observer) :
    Alike x { s with observers := s.observers.concat o }
      { s' with observers := s'.observers.concat o } := by
  obtain ⟨services, journal, rfl, same⟩ := alike
  exact ⟨services, journal, rfl, same⟩

theorem welcome (alike : Alike x s s') (id : SubscriberId) (interest : Selector)
    (client : C.Observer) :
    Alike x (Session.welcome id interest client s) (Session.welcome id interest client s') := by
  have gathered := alike.collect
  unfold Session.welcome
  dsimp only
  generalize s.collect = c at gathered ⊢
  generalize s'.collect = c' at gathered ⊢
  obtain ⟨services, journal, rfl, same⟩ := gathered
  have found : Alike x c (x.session c services journal) := ⟨services, journal, rfl, same⟩
  have registered := found.register .observer id
  simp only [← List.concat_eq_append]
  exact (registered.observe ⟨c.registered, id, interest, client, true⟩).1.join
    ⟨c.registered, id, interest, (C.observe client c.snapshot c.world.2).client, true⟩

theorem subscribeTrigger (alike : Alike x s s') (id : SubscriberId) (t : Trigger)
    (client : C.Listener) :
    Alike x (Session.subscribeTrigger id t client s) (Session.subscribeTrigger id t client s') := by
  have gathered := alike.collect.compact
  unfold Session.subscribeTrigger
  dsimp only
  generalize s.collect.compact = c at gathered ⊢
  generalize s'.collect.compact = c' at gathered ⊢
  obtain ⟨services, journal, rfl, same⟩ := gathered
  exact ⟨services, _, rfl, deeds_concat same (.registered .listener c.registered id)⟩

theorem operate (alike : Alike x s s') (bound : Nat) (o : Operation (C.watched S)) :
    Alike x (s.operate bound o) (s'.operate bound (x.operation o)) := by
  cases o with
  | addMiddleware m => exact alike.addMiddleware m
  | subscribe id interest client =>
      exact ((alike.welcome id interest client).note (.noticed (.subscribed id))).run bound
  | subscribeTrigger id t client => exact alike.subscribeTrigger id t client
  | unsubscribe id => exact alike.unsubscribe id
  | dispatch a =>
      exact ((alike.note (.issued .direct (.dispatch a))).queues id (· ++ [.action a])).run bound
  | trigger t =>
      exact ((alike.note (.issued .direct (.trigger t))).queues id (· ++ [.trigger t])).run bound
  | processPending => exact alike.run bound
  | send cs => exact alike.send cs

theorem serve (alike : Alike x s s') (c : Call (C.watched S)) :
    Alike x (s.serve c) (s'.serve (x.call c)) := by
  have ready : Alike x { s with arrivals := c.arrivals } { s' with arrivals := c.arrivals } := by
    obtain ⟨services, journal, rfl, same⟩ := alike
    exact ⟨services, journal, rfl, same⟩
  exact ready.operate c.bound c.operation

end Alike

theorem alike_serves {x : Exchange S S'} {s : Session (C.watched S)} {s' : Session (C.watched S')}
    (alike : Alike x s s') (calls : List (Call (C.watched S))) :
    Alike x (calls.foldl serve s) ((calls.map x.call).foldl serve s') := by
  induction calls generalizing s s' with
  | nil => exact alike
  | cons c calls ih => exact ih (alike.serve c)

/-- The same calls are made on two stores, whose watchers work through services that may deny some
of their calls in the one and others in the other. After any calls, so after each of a run, the
snapshots are the same; the same happened, to the last call of a client with the last argument and
answer; and the same subscribers are left. -/
theorem services_unseen (x : Exchange S S') (snapshot : Snapshot) (services : S.World)
    (services' : S'.World) (world : C.World) (calls : List (Call (C.watched S))) :
    let s := ofCalls snapshot (services, world) calls
    let s' := ofCalls snapshot (services', world) (calls.map x.call)
    s'.snapshot = s.snapshot ∧ deeds s'.journal = (deeds s.journal).map x.event ∧
      (∀ id, s'.isSubscribed id = s.isSubscribed id) ∧
      s'.pending = s.pending ∧ s'.channel = s.channel ∧ s'.world.2 = s.world.2 := by
  intro s s'
  have new : Alike x (start (.new (C.watched S) snapshot) (services, world))
      (start (.new (C.watched S') snapshot) (services', world)) := ⟨services', [], rfl, rfl⟩
  have alike : Alike x s s' := alike_serves new calls
  clear_value s s'
  obtain ⟨services, journal, rfl, same⟩ := alike
  exact ⟨rfl, same, fun id => rfl, rfl, rfl, rfl⟩

end Session
end WalletLoop
