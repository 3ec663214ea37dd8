import WalletLoop.Proofs.Session.Moves

/-!
# Operations as paths of moves

Every function of the store is followed move by move, in the order in which the functions are built
from each other: what any client call does, one turn of a pass, a whole pass, a piece of work, the
loop, an operation.
-/

namespace WalletLoop.Session

variable {C : Clients}

theorem notices_moves (p : Phase C) (s : Session C) (ns : List Notice) :
    Moves (p, s) (p, { s with journal := s.journal ++ ns.map .noticed }) := by
  induction ns generalizing s with
  | nil => simpa using Relation.ReflTransGen.refl
  | cons n ns ih =>
      refine .head (.notice p s n) ?_
      simpa [notice, note] using ih (s.notice n)

theorem puts_moves (p : Phase C) (s : Session C) (cs : List Command) :
    Moves (p, s) (p, cs.foldl put s) := by
  induction cs generalizing s with
  | nil => exact .refl
  | cons c cs ih => exact .head (.put p s c) (ih (s.put c))

theorem arrive_moves (p : Phase C) (s : Session C) : Moves (p, s) (p, s.arrive) :=
  .head (.arrivals p s s.arrivals.tail) (puts_moves p _ _)

theorem send_moves (p : Phase C) (s : Session C) (cs : List Command) :
    Moves (p, s) (p, s.send cs) := by
  induction cs generalizing s with
  | nil => exact .refl
  | cons c cs ih => exact ((arrive_moves p s).tail (.put p s.arrive c)).trans (ih _)

theorem absorb_moves {Client : Type} (p : Phase C) (s : Session C) (r : Reply Client C.World) :
    Moves (p, s) (p, s.absorb r) :=
  .head (.world p s r.world) ((send_moves p _ r.sent).trans (notices_moves p _ r.notices))

theorem deactivate_eq (s : Session C) (id : SubscriberId) :
    ∃ ns : List Notice, s.deactivate id = { s with
      observers := s.observers.map (·.afterwards [.unsubscribe id])
      listeners := s.listeners.map (·.afterwards [.unsubscribe id])
      journal := s.journal ++ ns.map .noticed } := by
  have same {Interest Client : Type} (o : Subscription Interest Client) :
      o.afterwards [.unsubscribe id] = if o.id = id then { o with active := false } else o := by
    simp [Subscription.afterwards]
  simp only [same, deactivate]
  split
  · exact ⟨[.unsubscribed id], rfl⟩
  · exact ⟨[], by simp⟩

theorem afterwards_append {Interest Client : Type} (cs ds : List Command)
    (o : Subscription Interest Client) :
    (o.afterwards cs).afterwards ds = o.afterwards (cs ++ ds) := by
  unfold Subscription.afterwards
  by_cases h : Command.unsubscribe o.id ∈ cs <;> simp [h]

theorem received_eq (s : Session C) (cs : List Command) :
    ∃ ns : List Notice, cs.foldl receive s = { s with
      pending := s.pending ++ cs.filterMap Command.work?
      observers := s.observers.map (·.afterwards cs)
      listeners := s.listeners.map (·.afterwards cs)
      journal := s.journal ++ ns.map .noticed } := by
  induction cs generalizing s with
  | nil => exact ⟨[], by simp [Subscription.afterwards]⟩
  | cons c cs ih =>
      have skip {Interest Client : Type} (o : Subscription Interest Client)
          (other : ∀ id, c ≠ .unsubscribe id) : o.afterwards (c :: cs) = o.afterwards cs := by
        simp [Subscription.afterwards, (other o.id).symm]
      obtain ⟨ns, rest⟩ := ih (s.receive c)
      rw [List.foldl_cons, rest]
      cases c with
      | dispatch a => exact ⟨ns, by simp [receive, Command.work?, skip]⟩
      | trigger t => exact ⟨ns, by simp [receive, Command.work?, skip]⟩
      | unsubscribe id =>
          obtain ⟨first, marked⟩ := deactivate_eq s id
          refine ⟨first ++ ns, ?_⟩
          simp [receive, marked, List.filterMap_cons, Command.work?, afterwards_append,
            Function.comp_def]

theorem emptyChannel_eq (s : Session C) :
    ∃ ns : List Notice,
      s.emptyChannel = emptied { s with journal := s.journal ++ ns.map .noticed } := by
  obtain ⟨ns, received⟩ := received_eq { s with channel := [] } s.channel
  exact ⟨ns, by simp [emptyChannel, received, emptied, note]⟩

theorem collect_moves {p : Phase C} (collects : p.Collects) (s : Session C) :
    Moves (p, s) (p, s.collect) := by
  obtain ⟨ns, same⟩ := emptyChannel_eq s.arrive
  rw [collect, same]
  exact ((arrive_moves p s).trans (notices_moves p _ ns)).tail (.empty p _ collects)

@[simp]
theorem collect_channel (s : Session C) : s.collect.channel = [] := by
  obtain ⟨ns, same⟩ := emptyChannel_eq s.arrive
  rw [collect, same]
  rfl

theorem puts_toStore (s : Session C) (cs : List Command) :
    (cs.foldl put s).toStore = { s.toStore with channel := s.channel ++ cs } := by
  induction cs generalizing s with
  | nil => simp
  | cons c cs ih => simp [ih, put, note]

theorem arrive_toStore (s : Session C) :
    s.arrive.toStore = { s.toStore with channel := s.channel ++ s.arrivals.headD [] } :=
  puts_toStore _ _

theorem send_toStore (s : Session C) (cs : List Command) :
    (s.send cs).toStore = { s.toStore with channel := (s.send cs).channel } := by
  induction cs generalizing s with
  | nil => rfl
  | cons c cs ih =>
      have one : (s.arrive.put c).toStore =
          { s.toStore with channel := (s.arrive.put c).channel } := by
        simp [put, note, arrive_toStore]
      have rest := ih (s.arrive.put c)
      rw [one] at rest
      exact rest

theorem absorb_toStore {Client : Type} (s : Session C) (r : Reply Client C.World) :
    (s.absorb r).toStore = { s.toStore with channel := (s.absorb r).channel } :=
  send_toStore { s with world := r.world } r.sent

@[simp]
theorem absorb_middleware {Client : Type} (s : Session C) (r : Reply Client C.World) :
    (s.absorb r).middleware = s.middleware := by
  rw [absorb_toStore]

@[simp]
theorem absorb_observers {Client : Type} (s : Session C) (r : Reply Client C.World) :
    (s.absorb r).observers = s.observers := by
  rw [absorb_toStore]

@[simp]
theorem absorb_snapshot {Client : Type} (s : Session C) (r : Reply Client C.World) :
    (s.absorb r).snapshot = s.snapshot := by
  rw [absorb_toStore]

@[simp]
theorem absorb_listeners {Client : Type} (s : Session C) (r : Reply Client C.World) :
    (s.absorb r).listeners = s.listeners := by
  rw [absorb_toStore]

@[simp]
theorem absorb_registered {Client : Type} (s : Session C) (r : Reply Client C.World) :
    (s.absorb r).registered = s.registered := by
  rw [absorb_toStore]

theorem collect_lengths (s : Session C) :
    s.collect.observers.length = s.observers.length ∧
      s.collect.listeners.length = s.listeners.length := by
  obtain ⟨ns, same⟩ := emptyChannel_eq s.arrive
  rw [collect, same]
  simp [emptied, arrive_toStore]

@[simp]
theorem collect_middleware (s : Session C) : s.collect.middleware = s.middleware := by
  obtain ⟨ns, same⟩ := emptyChannel_eq s.arrive
  rw [collect, same]
  simp [emptied, arrive_toStore]

@[simp]
theorem collect_snapshot (s : Session C) : s.collect.snapshot = s.snapshot := by
  obtain ⟨ns, same⟩ := emptyChannel_eq s.arrive
  rw [collect, same]
  simp [emptied, arrive_toStore]

@[simp]
theorem collect_registered (s : Session C) : s.collect.registered = s.registered := by
  obtain ⟨ns, same⟩ := emptyChannel_eq s.arrive
  rw [collect, same]
  simp [emptied, arrive_toStore]

theorem notifyAt_length (previous : Snapshot) (s : Session C) (i : Nat) :
    (notifyAt previous s i).observers.length = s.observers.length := by
  unfold notifyAt
  dsimp only
  split
  · split
    · simp [observe, note, collect_lengths]
    · exact (collect_lengths s).1
  · exact (collect_lengths s).1

theorem fireAt_length (t : Trigger) (s : Session C) (i : Nat) :
    (fireAt t s i).listeners.length = s.listeners.length := by
  unfold fireAt
  dsimp only
  split
  · split
    · simp [hear, note, collect_lengths]
    · exact (collect_lengths s).2
  · exact (collect_lengths s).2

theorem notifyAt_none {s : Session C} {previous : Snapshot} {i : Nat}
    (outside : s.collect.observers[i]? = none) : notifyAt previous s i = s.collect := by
  simp only [notifyAt, outside]

theorem notifyAt_spared {s : Session C} {previous : Snapshot} {i : Nat}
    {o : Subscription Selector C.Observer} (at_i : s.collect.observers[i]? = some o)
    (unwanted : (o.active && o.interest previous s.collect.snapshot) = false) :
    notifyAt previous s i = s.collect := by
  simp only [notifyAt, at_i, unwanted, Bool.false_eq_true, if_false]

theorem notifyAt_called {s : Session C} {previous : Snapshot} {i : Nat}
    {o : Subscription Selector C.Observer} (at_i : s.collect.observers[i]? = some o)
    (wanted : (o.active && o.interest previous s.collect.snapshot) = true) :
    notifyAt previous s i = { (s.collect.observe o).2 with
      observers := (s.collect.observe o).2.observers.set i
        { o with client := (s.collect.observe o).1.client } } := by
  simp only [notifyAt, at_i, wanted, if_true]

theorem fireAt_none {s : Session C} {t : Trigger} {i : Nat}
    (outside : s.collect.listeners[i]? = none) : fireAt t s i = s.collect := by
  simp only [fireAt, outside]

theorem fireAt_spared {s : Session C} {t : Trigger} {i : Nat}
    {l : Subscription Trigger C.Listener} (at_i : s.collect.listeners[i]? = some l)
    (unwanted : (l.active && l.interest.isSameKind t) = false) : fireAt t s i = s.collect := by
  simp only [fireAt, at_i, unwanted, Bool.false_eq_true, if_false]

theorem fireAt_called {s : Session C} {t : Trigger} {i : Nat}
    {l : Subscription Trigger C.Listener} (at_i : s.collect.listeners[i]? = some l)
    (wanted : (l.active && l.interest.isSameKind t) = true) :
    fireAt t s i = { (s.collect.hear l t).2 with
      listeners := (s.collect.hear l t).2.listeners.set i
        { l with client := (s.collect.hear l t).1.client } } := by
  simp only [fireAt, at_i, wanted, if_true]

theorem notifyAt_moves (a : Action) (previous : Snapshot) (s : Session C) (i : Nat)
    (inside : i < s.observers.length) :
    Moves (.telling a previous i, s) (.telling a previous (i + 1), notifyAt previous s i) := by
  have gathered : Moves (.telling a previous i, s) (.telling a previous i, s.collect) :=
    collect_moves (by trivial) s
  refine gathered.trans ?_
  have within : i < s.collect.observers.length := by rwa [(collect_lengths s).1]
  unfold notifyAt
  have at_i := List.getElem?_eq_getElem within
  simp only [at_i]
  split
  · rename_i wanted
    rw [Bool.and_eq_true] at wanted
    refine .head (.observe s.collect a previous i _ (collect_channel s) at_i wanted.1 wanted.2) ?_
    refine (absorb_moves _ _ _).tail (.observer _ _ i _ _ ?_)
    simp [note]
  · rename_i unwanted
    refine .single (.spare s.collect a previous i _ (collect_channel s) at_i ?_)
    simpa using unwanted

theorem fireAt_moves (t : Trigger) (s : Session C) (i : Nat) (inside : i < s.listeners.length) :
    Moves (.firing t i, s) (.firing t (i + 1), fireAt t s i) := by
  have gathered : Moves (.firing t i, s) (.firing t i, s.collect) := collect_moves (by trivial) s
  refine gathered.trans ?_
  have within : i < s.collect.listeners.length := by rwa [(collect_lengths s).2]
  unfold fireAt
  have at_i := List.getElem?_eq_getElem within
  simp only [at_i]
  split
  · rename_i wanted
    rw [Bool.and_eq_true] at wanted
    refine .head (.hear s.collect t i _ (collect_channel s) at_i wanted.1 wanted.2) ?_
    refine (absorb_moves _ _ _).tail (.listener _ _ i _ _ ?_)
    simp [note]
  · rename_i unwanted
    refine .single (.ignore s.collect t i _ (collect_channel s) at_i ?_)
    simpa using unwanted

theorem pass_moves (phase : Nat → Phase C) (size : Session C → Nat)
    {turn : Session C → Nat → Session C} (keeps : ∀ s i, size (turn s i) = size s)
    (moves : ∀ s i, i < size s → Moves (phase i, s) (phase (i + 1), turn s i)) (s : Session C) :
    let ended := (List.range (size s)).foldl turn s
    Moves (phase 0, s) (phase (size ended), ended) := by
  have upTo : ∀ n ≤ size s, size ((List.range n).foldl turn s) = size s ∧
      Moves (phase 0, s) (phase n, (List.range n).foldl turn s) := by
    intro n le
    induction n with
    | zero => exact ⟨rfl, .refl⟩
    | succ n ih =>
        obtain ⟨same, path⟩ := ih (by omega)
        simp only [List.range_succ, List.foldl_append, List.foldl_cons, List.foldl_nil]
        exact ⟨(keeps _ n).trans same, path.trans (moves _ n (by omega))⟩
  obtain ⟨same, path⟩ := upTo (size s) (Nat.le_refl _)
  intro ended
  rw [show size ended = size s from same]
  exact path

theorem notify_moves (a : Action) (previous : Snapshot) (s : Session C) :
    Moves (.telling a previous 0, s) (.idle, (s.notify previous).note (.finished (.action a))) :=
  .tail
    (pass_moves (.telling a previous) (·.observers.length) (notifyAt_length previous)
      (notifyAt_moves a previous) s)
    (.told _ a previous)

theorem fire_moves (t : Trigger) (s : Session C) :
    Moves (.firing t 0, s) (.idle, (s.fire t).note (.finished (.trigger t))) :=
  .head (.notice _ s (.fired t)) <| .tail
    (pass_moves (.firing t) (·.listeners.length) (fireAt_length t) (fireAt_moves t)
      (s.notice (.fired t)))
    (.fired _ t)

theorem consult_moves (a : Action) (asked rest : List C.Middleware) (s : Session C) :
    (consult a rest s).2.1.snapshot = s.snapshot ∧
      ((consult a rest s).2.2 = true ∧
          Moves (.asking a asked rest, s)
            (.asking a (asked ++ (consult a rest s).1) [], (consult a rest s).2.1) ∨
        (consult a rest s).2.2 = false ∧
          Moves (.asking a asked rest, s)
            (.held a (asked ++ (consult a rest s).1), (consult a rest s).2.1)) := by
  induction rest generalizing asked s with
  | nil => exact ⟨rfl, .inl ⟨rfl, by simpa [consult] using Relation.ReflTransGen.refl⟩⟩
  | cons m rest ih =>
      let reply := (C.consult m a s.snapshot s.world).toReply
      let after (passes : Bool) := (s.note (.consulted m a s.snapshot passes)).absorb reply
      have shown (passes : Bool) : (after passes).snapshot = s.snapshot := by simp [after, note]
      cases passes : (C.consult m a s.snapshot s.world).passes with
      | true =>
          have one : consult a (m :: rest) s =
              (reply.client :: (consult a rest (after true)).1,
                (consult a rest (after true)).2) := by
            simp [consult, passes, after, reply]
          have before : Moves (.asking a asked (m :: rest), s)
              (.asking a (asked ++ [reply.client]) rest, after true) :=
            .head (.pass s a asked m reply.client rest ⟨s.world, rfl, passes⟩) (absorb_moves _ _ _)
          obtain ⟨later, path⟩ := ih (asked ++ [reply.client]) (after true)
          simp only [List.append_assoc, List.singleton_append] at path
          rw [one]
          refine ⟨later.trans (shown true), ?_⟩
          rcases path with ⟨all, path⟩ | ⟨stopped, path⟩
          · exact .inl ⟨all, before.trans path⟩
          · exact .inr ⟨stopped, before.trans path⟩
      | false =>
          have one : consult a (m :: rest) s = (reply.client :: rest, after false, false) := by
            simp [consult, passes, after, reply]
          rw [one]
          refine ⟨shown false, .inr ⟨rfl, ?_⟩⟩
          exact .head (.hold s a asked m reply.client rest ⟨s.world, rfl, passes⟩)
            (absorb_moves _ _ _)

theorem apply_moves (a : Action) (s : Session C) :
    Moves (.asking a [] s.middleware, s) (.idle, (s.apply a).note (.finished (.action a))) := by
  obtain ⟨shown, path⟩ := consult_moves a [] s.middleware s
  unfold apply
  rcases path with ⟨all, path⟩ | ⟨stopped, path⟩
  · simp only [all, if_true, ← shown]
    refine path.trans (.head (.advance _ a _) ?_)
    exact (notices_moves _ _ a.notices).trans (notify_moves a _ _)
  · simp only [stopped]
    refine path.trans (.head (.notice _ _ (.consumed a)) ?_)
    exact .single (.consumed _ a _)

theorem perform_moves (s : Session C) (w : Work) :
    Moves (.opening s.middleware w, s.note (.took w)) (.idle, s.perform w) := by
  cases w with
  | action a => exact apply_moves a (s.note (.took (.action a)))
  | trigger t => exact fire_moves t (s.note (.took (.trigger t)))

theorem drain_moves (bound : Nat) (s : Session C) : Moves (.idle, s) (.idle, drain bound s) := by
  induction bound generalizing s with
  | zero => exact .refl
  | succ bound ih =>
      unfold drain
      split
      · exact .refl
      · rename_i w later next
        refine .head (.take s w later next) ?_
        refine (perform_moves { s with pending := later } w).trans ?_
        exact ((collect_moves (p := .idle) trivial _).tail (.compact _)).trans (ih _)

theorem run_moves (bound : Nat) (s : Session C) : Moves (.idle, s) (.idle, s.run bound) :=
  ((collect_moves (p := .idle) trivial s).trans (drain_moves bound _)).tail (.compact _)

theorem drain_channel (bound : Nat) {s : Session C} (empty : s.channel = []) :
    (drain bound s).channel = [] := by
  induction bound generalizing s with
  | zero => exact empty
  | succ bound ih =>
      unfold drain
      split
      · exact empty
      · exact ih (collect_channel _)

theorem run_channel (bound : Nat) (s : Session C) : (s.run bound).channel = [] :=
  drain_channel bound (collect_channel s)

theorem Moves.steps {m m' : Moment C} (path : Moves m m') : Steps m m' := by
  induction path with
  | refl => exact .refl
  | tail _ last ih => exact ih.tail (.inl last)

def welcome (id : SubscriberId) (interest : Selector) (client : C.Observer) (s : Session C) :
    Session C :=
  let s := s.collect
  let entry := ⟨s.registered, id, interest, client, true⟩
  let s := { s with registered := s.registered + 1 }.note (.registered .observer s.registered id)
  let (r, s) := s.observe entry
  { s with observers := s.observers ++ [{ entry with client := r.client }] }

theorem subscribe_eq (bound : Nat) (id : SubscriberId) (interest : Selector)
    (client : C.Observer) (s : Session C) :
    s.subscribe bound id interest client =
      ((s.welcome id interest client).notice (.subscribed id)).run bound :=
  rfl

theorem welcome_steps (id : SubscriberId) (interest : Selector) (client : C.Observer)
    (s : Session C) : Steps (.idle, s) (.idle, s.welcome id interest client) := by
  let reply := C.observe client s.collect.snapshot s.collect.world
  refine (Moves.steps (collect_moves (p := .idle) trivial s)).trans ?_
  refine .head (.inr (.register s.collect id (collect_channel s))) ?_
  refine .head (.inr (.greet _ s.collect.registered id client (collect_channel s))) ?_
  refine (Moves.steps (absorb_moves _ _ reply)).trans ?_
  exact .single (.inr (.join _ s.collect.registered id interest reply.client))

theorem subscribe_steps (bound : Nat) (id : SubscriberId) (interest : Selector)
    (client : C.Observer) (s : Session C) :
    Steps (.idle, s) (.idle, s.subscribe bound id interest client) := by
  rw [subscribe_eq]
  refine (welcome_steps id interest client s).trans ?_
  exact .head (.inl (.notice _ _ (.subscribed id))) (Moves.steps (run_moves bound _))

theorem subscribeTrigger_steps (id : SubscriberId) (t : Trigger) (client : C.Listener)
    (s : Session C) : Steps (.idle, s) (.idle, s.subscribeTrigger id t client) := by
  have gathered := (collect_moves (p := .idle) trivial s).tail (.compact _)
  refine (Moves.steps gathered).trans ?_
  exact .single (.inr (.listen _ id t client (collect_channel s)))

theorem unsubscribe_steps (id : SubscriberId) (s : Session C) :
    Steps (.idle, s) (.idle, s.unsubscribe id) := by
  obtain ⟨ns, same⟩ := deactivate_eq (s.note (.issued .direct (.unsubscribe id))) id
  unfold unsubscribe
  rw [same]
  refine .head (.inr (.release s id)) ?_
  exact Moves.steps ((notices_moves .idle (s.released id) ns).tail (.compact _))

theorem operate_steps (bound : Nat) (s : Session C) (o : Operation C) :
    Steps (.idle, s) (.idle, s.operate bound o) := by
  cases o with
  | addMiddleware m => exact .single (.inr (.add s m))
  | subscribe id interest client => exact subscribe_steps bound id interest client s
  | subscribeTrigger id t client => exact subscribeTrigger_steps id t client s
  | unsubscribe id => exact unsubscribe_steps id s
  | dispatch a =>
      exact .head (.inr (.submit s (.dispatch a) _ rfl)) (Moves.steps (run_moves bound _))
  | trigger t =>
      exact .head (.inr (.submit s (.trigger t) _ rfl)) (Moves.steps (run_moves bound _))
  | processPending => exact Moves.steps (run_moves bound s)
  | send cs => exact Moves.steps (send_moves _ s cs)

theorem serve_steps (s : Session C) (c : Call C) : Steps (.idle, s) (.idle, s.serve c) :=
  .head (.inl (.arrivals .idle s c.arrivals)) (operate_steps c.bound _ c.operation)

theorem serves_steps (s : Session C) (calls : List (Call C)) :
    Steps (.idle, s) (.idle, calls.foldl serve s) := by
  induction calls generalizing s with
  | nil => exact .refl
  | cons c calls ih => exact (serve_steps s c).trans (ih (s.serve c))

theorem ofCalls_steps (snapshot : Snapshot) (world : C.World) (calls : List (Call C)) :
    Steps (.idle, start (.new C snapshot) world) (.idle, ofCalls snapshot world calls) :=
  serves_steps _ calls

theorem ofCalls_concat (snapshot : Snapshot) (world : C.World) (calls : List (Call C))
    (c : Call C) :
    ofCalls snapshot world (calls ++ [c]) = (ofCalls snapshot world calls).serve c := by
  simp [ofCalls]

theorem Moves.keep (Holds : Moment C → Prop) {m m' : Moment C} (path : Moves m m')
    (move : ∀ m m', Move m m' → Holds m → Holds m') (before : Holds m) : Holds m' := by
  induction path with
  | refl => exact before
  | tail _ last ih => exact move _ _ last ih

theorem Steps.keep (Holds : Moment C → Prop) {m m' : Moment C} (path : Steps m m')
    (move : ∀ m m', Move m m' → Holds m → Holds m')
    (request : ∀ m m', Request m m' → Holds m → Holds m') (before : Holds m) : Holds m' := by
  induction path with
  | refl => exact before
  | tail _ last ih =>
      rcases last with last | last
      · exact move _ _ last ih
      · exact request _ _ last ih

theorem ofCalls_induction (Holds : Moment C → Prop) {snapshot : Snapshot} {world : C.World}
    (new : Holds (.idle, start (.new C snapshot) world))
    (move : ∀ m m', Move m m' → Holds m → Holds m')
    (request : ∀ m m', Request m m' → Holds m → Holds m') (calls : List (Call C)) :
    Holds (.idle, ofCalls snapshot world calls) :=
  (ofCalls_steps snapshot world calls).keep Holds move request new

end WalletLoop.Session
