import WalletLoop.Proofs.Session.Replay

namespace WalletLoop

variable {C : Clients}

/-- Middleware looks only at a part of the world of its own, and observers and listeners leave that
part alone. -/
structure Clients.Apart {Own : Type} (C : Clients) (own : C.World → Own) : Prop where
  consult : ∀ m a s w w', own w = own w' →
    (C.consult m a s w).client = (C.consult m a s w').client ∧
      (C.consult m a s w).passes = (C.consult m a s w').passes ∧
      own (C.consult m a s w).world = own (C.consult m a s w').world
  observe : ∀ o s w, own (C.observe o s w).world = own w
  hear : ∀ l t w, own (C.hear l t w).world = own w

def Event.isConsulted : Event C → Bool
  | .consulted .. => true
  | _ => false

namespace Session

def consultations (journal : List (Event C)) : List (Event C) := journal.filter (·.isConsulted)

/-- The subscriptions that are left when the commands have been carried out. -/
def remaining {Interest Client : Type} (cs : List Command)
    (entries : List (Subscription Interest Client)) : List (Subscription Interest Client) :=
  (entries.map (·.afterwards cs)).filter (·.active)

section Remaining
variable {Interest Client : Type} {cs ds : List Command}
  {front rest entries : List (Subscription Interest Client)} {o o' : Subscription Interest Client}

theorem afterwards_nil (entries : List (Subscription Interest Client)) :
    entries.map (·.afterwards []) = entries :=
  afterwards_others (by simp) entries

theorem remaining_nil : remaining [] entries = entries.filter (·.active) := by
  rw [remaining, afterwards_nil]

theorem remaining_afterwards :
    remaining ds (entries.map (·.afterwards cs)) = remaining (cs ++ ds) entries := by
  simp only [remaining, List.map_map, Function.comp_def, afterwards_append]

theorem remaining_append (none : ∀ id, .unsubscribe id ∉ ds) :
    remaining (cs ++ ds) entries = remaining cs entries := by
  rw [← remaining_afterwards, remaining, afterwards_others none, remaining]

theorem remaining_active : remaining cs (entries.filter (·.active)) = remaining cs entries := by
  have still (o : Subscription Interest Client) :
      ((o.afterwards cs).active && o.active) = (o.afterwards cs).active := by
    unfold Subscription.afterwards
    split <;> simp
  simp only [remaining, List.filter_map, List.filter_filter, Function.comp_def, still]

theorem remaining_at (active : o.active = true) :
    (remaining [] (front ++ o :: rest))[front.countP (·.active)]? = some o := by
  simp [remaining_nil, List.filter_cons_of_pos, active, List.countP_eq_length_filter]

theorem remaining_set (active : o.active = true) (active' : o'.active = true) :
    remaining [] ((front ++ o :: rest).set front.length o') =
      (remaining [] (front ++ o :: rest)).set (front.countP (·.active)) o' := by
  simp [remaining_nil, List.filter_cons_of_pos, active, active', List.countP_eq_length_filter]

end Remaining

/-- Nothing is left to do in the second session. The first one agrees with it but for what is on its
way, and as to subscriptions once the channel will have been emptied. -/
structure Same (s t : Session C) : Prop where
  steady : ∀ id, .unsubscribe id ∉ s.arrivals.flatten
  channel : t.channel = []
  pending : t.pending = []
  arrivals : t.arrivals = []
  snapshot : s.snapshot = t.snapshot
  world : s.world = t.world
  middleware : s.middleware = t.middleware
  registered : s.registered = t.registered
  observers : remaining s.channel s.observers = t.observers
  listeners : remaining s.channel s.listeners = t.listeners
  journal : course s.journal = course t.journal

namespace Same

variable {s t : Session C}

theorem cleared (s : Session C) (alone : s.arrivals = []) :
    Same s { s with
      channel := []
      pending := []
      observers := remaining s.channel s.observers
      listeners := remaining s.channel s.listeners } :=
  ⟨by simp [alone], rfl, rfl, alone, rfl, rfl, rfl, rfl, rfl, rfl, rfl⟩

theorem rests (same : Same s t) : Resting t where
  channel := same.channel
  pending := same.pending
  observers o member := by
    rw [← same.observers] at member
    simpa using (List.mem_filter.1 member).2
  listeners l member := by
    rw [← same.listeners] at member
    simpa using (List.mem_filter.1 member).2

theorem store (same : Same s t) (rests : Resting s) : s.toStore = t.toStore := by
  have observers := same.observers
  have listeners := same.listeners
  rw [rests.channel, remaining_nil, List.filter_eq_self.2 rests.observers] at observers
  rw [rests.channel, remaining_nil, List.filter_eq_self.2 rests.listeners] at listeners
  calc s.toStore
    _ = ⟨s.snapshot, s.middleware, s.observers, s.listeners, s.registered, s.channel, s.pending⟩ :=
      rfl
    _ = t.toStore := by
      rw [same.snapshot, same.middleware, observers, listeners, same.registered, rests.channel,
        rests.pending, ← same.channel, ← same.pending]

theorem write (same : Same s t) (events : List (Event C)) :
    Same { s with journal := s.journal ++ events } { t with journal := t.journal ++ events } :=
  { same with journal := by rw [course_append, course_append, same.journal] }

theorem aside (same : Same s t) {cs : List Command} {pending : List Work}
    {arrivals : List (List Command)} {events : List (Event C)} (none : course events = [])
    (steady : ∀ id, .unsubscribe id ∉ cs ++ arrivals.flatten) :
    Same { s with
      channel := s.channel ++ cs
      pending := pending
      arrivals := arrivals
      journal := s.journal ++ events } t := by
  have here : ∀ id, .unsubscribe id ∉ cs := fun id member =>
    steady id (List.mem_append_left _ member)
  exact { same with
    steady := fun id member => steady id (List.mem_append_right _ member)
    observers := (remaining_append here).trans same.observers
    listeners := (remaining_append here).trans same.listeners
    journal := by rw [course_append, none, List.append_nil, same.journal] }

theorem collect_left (same : Same s t) : Same s.collect t := by
  obtain ⟨events, none, collected⟩ := collect_eq s
  have ready : Same { s with
      channel := s.arrived
      pending := s.pending ++ s.arrived.filterMap Command.work?
      arrivals := s.arrivals.tail
      journal := s.journal ++ events } t :=
    same.aside (course_aside none) (arrivals_flatten s ▸ same.steady)
  rw [collected]
  exact { ready with
    observers := by rw [remaining_afterwards, List.append_nil]; exact ready.observers
    listeners := by rw [remaining_afterwards, List.append_nil]; exact ready.listeners }

theorem collect (same : Same s t) : Same s.collect t.collect := by
  obtain ⟨events, none, collected⟩ := same.rests.collect same.arrivals
  have left := same.collect_left
  rw [collected]
  exact { left with journal := by rw [course_append, none, List.append_nil, left.journal] }

theorem compact_left (same : Same s t) : Same s.compact t :=
  { same with
    observers := remaining_active.trans same.observers
    listeners := remaining_active.trans same.listeners }

theorem call {Client : Type} (same : Same s t) (e : Event C) {r : Reply Client C.World}
    (silent : r.sent = []) : Same ((s.note e).absorb r) ((t.note e).absorb r) := by
  have moved : Same { s.note e with world := r.world } { t.note e with world := r.world } :=
    { same.write [e] with world := rfl }
  rw [absorb_silent _ silent, absorb_silent _ silent]
  exact moved.write (r.notices.map .noticed)

theorem still (same : Same s t) (empty : s.channel = []) :
    s.collect.observers = s.observers ∧ s.collect.listeners = s.listeners := by
  have steady : s.Steady := by simpa [Steady, inflow, empty] using same.steady
  obtain ⟨events, -, collected⟩ := steady.collect_eq
  rw [collected]
  exact ⟨rfl, rfl⟩

theorem lengths (same : Same s t) :
    (s.observers.length = s.collect.observers.length ∧
        t.observers.length = s.collect.observers.countP (·.active)) ∧
      s.listeners.length = s.collect.listeners.length ∧
        t.listeners.length = s.collect.listeners.countP (·.active) := by
  obtain ⟨observers, listeners⟩ := collect_lengths s
  have left := same.collect_left
  rw [List.countP_eq_length_filter, List.countP_eq_length_filter, ← remaining_nil, ← remaining_nil,
    ← collect_channel s, left.observers, left.listeners]
  exact ⟨⟨observers.symm, rfl⟩, listeners.symm, rfl⟩

/-- A pass over subscriptions, of which some may not be active any more, is a pass over the active
ones. -/
theorem pass {Interest Client : Type} (look : Session C → List (Subscription Interest Client))
    (turn : Session C → Nat → Session C)
    (each : ∀ {s t front o rest}, Same s t → look s.collect = front ++ o :: rest →
      ∃ o', o'.active = o.active ∧ look (turn s front.length).collect = front ++ o' :: rest ∧
        Same (turn s front.length) (if o.active then turn t (front.countP (·.active)) else t))
    (same : Same s t) {front rest : List (Subscription Interest Client)}
    (parts : look s.collect = front ++ rest) :
    Same ((List.range' front.length rest.length).foldl turn s)
      ((List.range' (front.countP (·.active)) (rest.countP (·.active))).foldl turn t) := by
  -- those in front have had their turn; how many of them are active is the position in `t`
  induction rest generalizing s t front with
  | nil => exact same
  | cons o rest ih =>
      obtain ⟨o', active, parts', same'⟩ := each same parts
      rw [List.append_cons] at parts'
      have later := ih same' parts'
      simp only [List.length_append, List.countP_append, List.countP_singleton, active] at later
      rw [List.length_cons, List.range'_succ, List.foldl_cons]
      cases here : o.active with
      | true =>
          rw [List.countP_cons_of_pos here, List.range'_succ, List.foldl_cons]
          simpa [here] using later
      | false =>
          rw [List.countP_cons_of_neg (by simp [here])]
          simpa [here] using later

section Silent
variable (silent : C.Silent)
include silent

theorem observe {front rest : List (Subscription Selector C.Observer)}
    {o : Subscription Selector C.Observer} (same : Same s t) (empty : s.channel = [])
    (parts : s.observers = front ++ o :: rest) (active : o.active = true) :
    let told (s : Session C) (i : Nat) : Session C := { (s.observe o).2 with
      observers := (s.observe o).2.observers.set i { o with client := (s.observe o).1.client } }
    ∃ o', o'.active = true ∧ (told s front.length).collect.observers = front ++ o' :: rest ∧
      Same (told s front.length) (told t (front.countP (·.active))) := by
  intro told
  have quiet := silent.observe o.client s.snapshot s.world
  let o' := { o with client := (C.observe o.client s.snapshot s.world).client }
  have set : remaining [] ((front ++ o :: rest).set front.length o') = _ :=
    remaining_set active active
  rw [← parts, ← empty, same.observers] at set
  have called := same.call (.observed o.number o.client s.snapshot) quiet
  have same' : Same (told s front.length) (told t (front.countP (·.active))) := by
    simp only [told, Session.observe, ← same.snapshot, ← same.world]
    simp only [absorb_silent _ quiet] at called ⊢
    exact { called with observers := set }
  have still : (told s front.length).channel = [] := by
    simp only [told, Session.observe]
    rw [absorb_silent _ quiet]
    exact empty
  refine ⟨o', active, (same'.still still).1.trans ?_, same'⟩
  simp [told, Session.observe, note, parts, o']

theorem hear {front rest : List (Subscription Trigger C.Listener)}
    {l : Subscription Trigger C.Listener} (same : Same s t) (empty : s.channel = [])
    (parts : s.listeners = front ++ l :: rest) (active : l.active = true) (trigger : Trigger) :
    let told (s : Session C) (i : Nat) : Session C := { (s.hear l trigger).2 with
      listeners := (s.hear l trigger).2.listeners.set i
        { l with client := (s.hear l trigger).1.client } }
    ∃ l', l'.active = true ∧ (told s front.length).collect.listeners = front ++ l' :: rest ∧
      Same (told s front.length) (told t (front.countP (·.active))) := by
  intro told
  have quiet := silent.hear l.client trigger s.world
  let l' := { l with client := (C.hear l.client trigger s.world).client }
  have set : remaining [] ((front ++ l :: rest).set front.length l') = _ :=
    remaining_set active active
  rw [← parts, ← empty, same.listeners] at set
  have called := same.call (.heard l.number l.client trigger) quiet
  have same' : Same (told s front.length) (told t (front.countP (·.active))) := by
    simp only [told, Session.hear, ← same.world]
    simp only [absorb_silent _ quiet] at called ⊢
    exact { called with listeners := set }
  have still : (told s front.length).channel = [] := by
    simp only [told, Session.hear]
    rw [absorb_silent _ quiet]
    exact empty
  refine ⟨l', active, (same'.still still).2.trans ?_, same'⟩
  simp [told, Session.hear, note, parts, l']

theorem notifyAt {front rest : List (Subscription Selector C.Observer)}
    {o : Subscription Selector C.Observer} (same : Same s t) (previous : Snapshot)
    (parts : s.collect.observers = front ++ o :: rest) :
    let s' := notifyAt previous s front.length
    ∃ o', o'.active = o.active ∧ s'.collect.observers = front ++ o' :: rest ∧
      Same s' (if o.active then notifyAt previous t (front.countP (·.active)) else t) := by
  intro s'
  have empty := collect_channel s
  have both := same.collect
  have at_i : s.collect.observers[front.length]? = some o := by simp [parts]
  cases active : o.active with
  | false =>
      have spared : s' = s.collect := notifyAt_spared at_i (by simp [active])
      rw [spared]
      exact ⟨o, active, (both.still empty).1.trans parts, same.collect_left⟩
  | true =>
      have at_j : t.collect.observers[front.countP (·.active)]? = some o := by
        rw [← both.observers, empty, parts, remaining_at active]
      cases wanted : o.active && o.interest previous s.collect.snapshot with
      | false =>
          have spared : s' = s.collect := notifyAt_spared at_i wanted
          rw [spared, if_pos rfl, notifyAt_spared at_j (both.snapshot ▸ wanted)]
          exact ⟨o, active, (both.still empty).1.trans parts, both⟩
      | true =>
          have called : s' = _ := notifyAt_called at_i wanted
          rw [called, if_pos rfl, notifyAt_called at_j (both.snapshot ▸ wanted)]
          exact both.observe silent empty parts active

theorem fireAt {front rest : List (Subscription Trigger C.Listener)}
    {l : Subscription Trigger C.Listener} (same : Same s t) (trigger : Trigger)
    (parts : s.collect.listeners = front ++ l :: rest) :
    let s' := fireAt trigger s front.length
    ∃ l', l'.active = l.active ∧ s'.collect.listeners = front ++ l' :: rest ∧
      Same s' (if l.active then fireAt trigger t (front.countP (·.active)) else t) := by
  intro s'
  have empty := collect_channel s
  have both := same.collect
  have at_i : s.collect.listeners[front.length]? = some l := by simp [parts]
  cases active : l.active with
  | false =>
      have spared : s' = s.collect := fireAt_spared at_i (by simp [active])
      rw [spared]
      exact ⟨l, active, (both.still empty).2.trans parts, same.collect_left⟩
  | true =>
      have at_j : t.collect.listeners[front.countP (·.active)]? = some l := by
        rw [← both.listeners, empty, parts, remaining_at active]
      cases wanted : l.active && l.interest.isSameKind trigger with
      | false =>
          have spared : s' = s.collect := fireAt_spared at_i wanted
          rw [spared, if_pos rfl, fireAt_spared at_j wanted]
          exact ⟨l, active, (both.still empty).2.trans parts, both⟩
      | true =>
          have called : s' = _ := fireAt_called at_i wanted
          rw [called, if_pos rfl, fireAt_called at_j wanted]
          exact both.hear silent empty parts active trigger

theorem notify (same : Same s t) (previous : Snapshot) :
    Same (s.notify previous) (t.notify previous) := by
  have passed := pass (·.observers) (Session.notifyAt previous)
    (fun same parts => notifyAt silent same previous parts) same (List.nil_append _).symm
  obtain ⟨⟨length, count⟩, -⟩ := same.lengths
  rw [Session.notify, Session.notify, length, count, List.range_eq_range', List.range_eq_range']
  exact passed

theorem fire (same : Same s t) (trigger : Trigger) : Same (s.fire trigger) (t.fire trigger) := by
  have said := same.write [.noticed (.fired trigger)]
  have passed := pass (·.listeners) (Session.fireAt trigger)
    (fun same parts => fireAt silent same trigger parts) said (List.nil_append _).symm
  obtain ⟨-, length, count⟩ := said.lengths
  rw [Session.fire, Session.fire]
  change s.listeners.length = _ at length
  change t.listeners.length = _ at count
  rw [length, count, List.range_eq_range', List.range_eq_range']
  exact passed

theorem consult (same : Same s t) (a : Action) (ms : List C.Middleware) :
    (consult a ms s).1 = (consult a ms t).1 ∧ (consult a ms s).2.2 = (consult a ms t).2.2 ∧
      Same (consult a ms s).2.1 (consult a ms t).2.1 := by
  induction ms generalizing s t with
  | nil => exact ⟨rfl, rfl, same⟩
  | cons m ms ih =>
      let v := C.consult m a t.snapshot t.world
      have asked := same.call (.consulted m a t.snapshot v.passes) (silent.consult m a _ _ :
        v.toReply.sent = [])
      obtain ⟨clients, passed, later⟩ := ih asked
      unfold Session.consult
      simp only [same.snapshot, same.world]
      split
      · exact ⟨congrArg (v.client :: ·) clients, passed, later⟩
      · exact ⟨rfl, rfl, asked⟩

theorem apply (same : Same s t) (a : Action) : Same (s.apply a) (t.apply a) := by
  obtain ⟨clients, passed, asked⟩ := consult silent same a t.middleware
  unfold Session.apply
  simp only [same.middleware, clients, passed, same.snapshot]
  have ready (middleware : List C.Middleware) :
      Same { (Session.consult a t.middleware s).2.1 with middleware := middleware }
        { (Session.consult a t.middleware t).2.1 with middleware := middleware } :=
    { asked with middleware := rfl }
  split
  · refine notify silent ?_ t.snapshot
    have applied := (ready (Session.consult a t.middleware t).1).write [.applied a]
    have said := applied.write (a.notices.map .noticed)
    exact { said with snapshot := congrArg (Snapshot.reduce · a) asked.snapshot }
  · exact (ready _).write [.noticed (.consumed a)]

theorem perform (same : Same s t) (w : Work) : Same (s.perform w) (t.perform w) := by
  have took := same.write [.took w]
  cases w with
  | action a => exact (apply silent took a).write [.finished (.action a)]
  | trigger t => exact (fire silent took t).write [.finished (.trigger t)]

end Silent

theorem replay (silent : C.Silent) :
    Replay (fun c => ∀ id, c ≠ .unsubscribe id) (Same (C := C)) where
  perform w same := perform silent same w
  pending _ same := { same with }
  collect same := same.collect_left
  compact same := same.compact_left
  arrive {s t} same := by
    rw [arrive_eq]
    refine same.aside (course_aside fun e member => ?_) (arrivals_flatten s ▸ same.steady)
    obtain ⟨c, -, rfl⟩ := List.mem_map.1 member
    rfl
  put {s t c} admitted same := by
    refine same.aside rfl fun id member => ?_
    rcases List.mem_cons.1 member with here | arriving
    · exact admitted id here.symm
    · exact same.steady id arriving
  arrivals admitted same := { same with steady := fun id member => admitted _ member id rfl }

end Same

section Sight
variable {Own : Type} {own : C.World → Own}

def sight (own : C.World → Own) (s : Session C) :
    Snapshot × List C.Middleware × Own × List (Event C) :=
  (s.snapshot, s.middleware, own s.world, consultations s.journal)

theorem consultations_append (journal events : List (Event C)) :
    consultations (journal ++ events) = consultations journal ++ consultations events :=
  List.filter_append ..

theorem consultations_aside {events : List (Event C)} (aside : ∀ e ∈ events, e.inCourse = false) :
    consultations events = [] := by
  refine List.filter_eq_nil_iff.2 fun e member => ?_
  have outside := aside e member
  cases e with
  | consulted => cases outside
  | _ => simp [Event.isConsulted]

theorem sight_aside {s s' : Session C} (aside : Aside s s') (snapshot : s'.snapshot = s.snapshot)
    (middleware : s'.middleware = s.middleware) : sight own s' = sight own s := by
  obtain ⟨world, events, journal, none⟩ := aside
  simp only [sight, snapshot, middleware, world, journal, consultations_append,
    consultations_aside none, List.append_nil]

theorem sight_collect (s : Session C) : sight own s.collect = sight own s := by
  refine sight_aside (collect_aside s) (collect_snapshot s) ?_
  obtain ⟨events, -, same⟩ := collect_eq s
  rw [same]

theorem sight_called {Client : Type} (s : Session C) (e : Event C) (r : Reply Client C.World) :
    sight own ((s.note e).absorb r) =
      (s.snapshot, s.middleware, own r.world, consultations s.journal ++ consultations [e]) := by
  rw [sight_aside (absorb_aside (s.note e) r) (absorb_snapshot _ r) (by rw [absorb_toStore]),
    ← consultations_append]
  rfl

theorem sight_call {Client : Type} (s : Session C) {e : Event C} {r : Reply Client C.World}
    (other : e.isConsulted = false) (still : own r.world = own s.world) :
    sight own ((s.note e).absorb r) = sight own s := by
  have none : consultations [e] = [] := by simp [consultations, other]
  rw [sight_called, none, still, List.append_nil]
  rfl

theorem sight_written {s t : Session C} (same : sight own s = sight own t)
    (events : List (Event C)) :
    sight own { s with journal := s.journal ++ events } =
      sight own { t with journal := t.journal ++ events } := by
  simp only [sight, Prod.mk.injEq, consultations_append] at same ⊢
  simp [same]

variable (apart : C.Apart own)
include apart

theorem sight_notifyAt (previous : Snapshot) (s : Session C) (i : Nat) :
    sight own (notifyAt previous s i) = sight own s := by
  refine Eq.trans ?_ (sight_collect s)
  unfold notifyAt
  dsimp only
  split
  · rename_i o at_i
    split
    · exact sight_call s.collect (e := .observed o.number o.client s.collect.snapshot) rfl
        (apart.observe ..)
    · rfl
  · rfl

theorem sight_fireAt (t : Trigger) (s : Session C) (i : Nat) :
    sight own (fireAt t s i) = sight own s := by
  refine Eq.trans ?_ (sight_collect s)
  unfold fireAt
  dsimp only
  split
  · rename_i l at_i
    split
    · exact sight_call s.collect (e := .heard l.number l.client t) rfl (apart.hear ..)
    · rfl
  · rfl

omit apart in
theorem sight_turns {turn : Session C → Nat → Session C}
    (still : ∀ s i, sight own (turn s i) = sight own s) (s : Session C) (positions : List Nat) :
    sight own (positions.foldl turn s) = sight own s := by
  induction positions generalizing s with
  | nil => rfl
  | cons i positions ih => exact (ih (turn s i)).trans (still s i)

theorem sight_consult {s t : Session C} (same : sight own s = sight own t) (a : Action)
    (ms : List C.Middleware) :
    (consult a ms s).1 = (consult a ms t).1 ∧ (consult a ms s).2.2 = (consult a ms t).2.2 ∧
      sight own (consult a ms s).2.1 = sight own (consult a ms t).2.1 := by
  induction ms generalizing s t with
  | nil => exact ⟨rfl, rfl, same⟩
  | cons m ms ih =>
      obtain ⟨snapshot, middleware, world, asked⟩ : s.snapshot = t.snapshot ∧
          s.middleware = t.middleware ∧ own s.world = own t.world ∧
          consultations s.journal = consultations t.journal := by
        simpa [sight] using same
      obtain ⟨client, passes, own'⟩ := apart.consult m a s.snapshot s.world t.world world
      rw [snapshot] at client passes own'
      have called (passed : Bool) :
          sight own ((s.note (.consulted m a t.snapshot passed)).absorb
              (C.consult m a t.snapshot s.world).toReply) =
            sight own ((t.note (.consulted m a t.snapshot passed)).absorb
              (C.consult m a t.snapshot t.world).toReply) := by
        rw [sight_called, sight_called, snapshot, middleware, asked, own']
      obtain ⟨clients, passed, later⟩ := ih (called (C.consult m a t.snapshot t.world).passes)
      unfold consult
      simp only [snapshot, passes, client]
      split
      · exact ⟨congrArg (List.cons _) clients, passed, later⟩
      · exact ⟨rfl, rfl, called _⟩

theorem sight_apply {s t : Session C} (same : sight own s = sight own t) (a : Action) :
    sight own (s.apply a) = sight own (t.apply a) := by
  have middleware : s.middleware = t.middleware := congrArg (·.2.1) same
  have snapshot : s.snapshot = t.snapshot := congrArg (·.1) same
  obtain ⟨clients, passed, asked⟩ := sight_consult apart same a t.middleware
  unfold apply
  simp only [middleware, clients, passed]
  let ready (s : Session C) : Session C :=
    { (consult a t.middleware s).2.1 with middleware := (consult a t.middleware t).1 }
  have both : sight own (ready s) = sight own (ready t) := by
    simp only [sight, Prod.mk.injEq] at asked ⊢
    simp [ready, asked]
  split
  · rw [notify, notify, sight_turns (sight_notifyAt apart _), sight_turns (sight_notifyAt apart _)]
    have advanced : sight own ((ready s).note (.applied a)) =
        sight own ((ready t).note (.applied a)) := sight_written both [.applied a]
    have reduced : sight own { (ready s).note (.applied a) with
          snapshot := (ready s).snapshot.reduce a } =
        sight own { (ready t).note (.applied a) with snapshot := (ready t).snapshot.reduce a } := by
      simp only [sight, Prod.mk.injEq] at advanced both ⊢
      simp [advanced, both]
    exact sight_written reduced (a.notices.map .noticed)
  · exact sight_written both [.noticed (.consumed a)]

theorem sight_perform {s t : Session C} (same : sight own s = sight own t) (w : Work) :
    sight own (s.perform w) = sight own (t.perform w) := by
  have took := sight_written same [.took w]
  cases w with
  | action a => exact sight_written (sight_apply apart took a) [.finished (.action a)]
  | trigger t' =>
      have fired (s : Session C) : sight own (s.fire t') = sight own s := by
        refine (sight_turns (sight_fireAt apart t') _ _).trans ?_
        exact sight_aside (note_aside s (.noticed (.fired t')) rfl) rfl rfl
      have both := (fired (s.note (.took (.trigger t')))).trans
        (took.trans (fired (t.note (.took (.trigger t')))).symm)
      exact sight_written both [.finished (.trigger t')]

theorem sight_replay : Replay (fun _ => True) (fun s t : Session C => sight own s = sight own t) where
  perform w same := sight_perform apart same w
  pending _ same := same
  collect same := (sight_collect _).trans same
  compact same := same
  arrive same :=
    (sight_aside (arrive_aside _) (by rw [arrive_toStore]) (by rw [arrive_toStore])).trans same
  put _ same := (sight_aside (put_aside _ _) rfl rfl).trans same
  arrivals _ same := same

end Sight

def Active (s : Session C) : Prop :=
  (∀ o ∈ s.observers, o.active = true) ∧ ∀ l ∈ s.listeners, l.active = true

theorem active_compact (s : Session C) : Active s.compact :=
  ⟨fun _ member => by simpa using (List.mem_filter.1 member).2,
    fun _ member => by simpa using (List.mem_filter.1 member).2⟩

theorem active_operate (bound : Nat) {s : Session C} (o : Operation C) (active : Active s) :
    Active (s.operate bound o) := by
  cases o with
  | addMiddleware m => exact active
  | subscribe | dispatch | trigger | processPending => exact active_compact _
  | unsubscribe id => exact active_compact _
  | subscribeTrigger id t client =>
      obtain ⟨observing, listening⟩ := active_compact s.collect
      refine ⟨observing, fun l member => ?_⟩
      rcases List.mem_append.1 member with earlier | new
      · exact listening l earlier
      · rw [List.mem_singleton.1 new]
  | send cs =>
      have lists : (s.send cs).observers = s.observers ∧ (s.send cs).listeners = s.listeners := by
        rw [send_toStore]
        exact ⟨rfl, rfl⟩
      change Active (s.send cs)
      rwa [Active, lists.1, lists.2]

theorem active_serves {s : Session C} (calls : List (Call C)) (active : Active s) :
    Active (calls.foldl serve s) := by
  induction calls generalizing s with
  | nil => exact active
  | cons c calls ih =>
      exact ih (active_operate c.bound (s := { s with arrivals := c.arrivals }) _ active)

theorem active_ofCalls (snapshot : Snapshot) (world : C.World) (calls : List (Call C)) :
    Active (ofCalls snapshot world calls) :=
  active_serves calls ⟨by simp [start, Store.new], by simp [start, Store.new]⟩

theorem run_returns (silent : C.Silent) (snapshot : Snapshot) (world : C.World)
    (calls : List (Call C)) (arrivals : List (List Command)) :
    ∃ enough, ∀ bound ≥ enough,
      Resting ((ofCalls snapshot world calls).serve ⟨.processPending, bound, arrivals⟩) := by
  let ready := { ofCalls snapshot world calls with arrivals := arrivals }
  have finite (bound : Nat) :
      (issued .channel (ready.run bound).journal).length ≤ ready.traffic.length := by
    have any : Replay (fun _ => True) (fun _ _ : Session C => True) := by constructor <;> simp
    obtain ⟨done, -, traffic, -⟩ := any.drain silent bound (s := ready.collect) (t := ready) trivial
    rw [← traffic_collect, ← traffic]
    simp [Session.traffic, Session.run, compact]
  obtain ⟨enough, returned⟩ := returns (o := .processPending) rfl finite
  exact ⟨enough, fun bound large => resting_run (returned bound large).1⟩

/-- Clients send nothing themselves, and what other threads send is worked off in two ways, in
batches of any size, while more may be coming in. If the same was sent in the same order, then all
calls of clients are the same, with the same arguments, and so is the store in the end. If some of
it gives up subscriptions, this still holds of the snapshot and of middleware that keeps apart from
observers and listeners. -/
theorem batches_agree (silent : C.Silent) (snapshot : Snapshot) (world : C.World)
    (calls : List (Call C)) :
    let s := ofCalls snapshot world calls
    let ended (batch : List (Call C)) := batch.foldl serve s
    (∀ batch arrivals, ∃ enough, ∀ bound ≥ enough,
        Resting (ended (batch ++ [⟨.processPending, bound, arrivals⟩]))) ∧
      ∀ first second : List (Call C),
        (∀ c ∈ first ++ second, c.operation.polls = true) →
        Resting (ended first) → Resting (ended second) →
        issued .channel (ended first).journal = issued .channel (ended second).journal →
        ((∀ id, .unsubscribe id ∉ (first ++ second).flatMap Call.commands) →
            (ended first).toStore = (ended second).toStore ∧
              (ended first).world = (ended second).world ∧
              course (ended first).journal = course (ended second).journal) ∧
          ∀ (Own : Type) (own : C.World → Own), C.Apart own →
            (ended first).snapshot = (ended second).snapshot ∧
              (ended first).middleware = (ended second).middleware ∧
              consultations (ended first).journal = consultations (ended second).journal := by
  intro s ended
  refine ⟨fun batch arrivals => ?_, fun first second polls rests rests' issues => ⟨?_, ?_⟩⟩
  · have more : ended batch = ofCalls snapshot world (calls ++ batch) := by
      simp [ended, s, ofCalls]
    simp only [ended, List.foldl_append, List.foldl_cons, List.foldl_nil]
    rw [show batch.foldl serve s = _ from more]
    exact run_returns silent snapshot world (calls ++ batch) arrivals
  · intro kept
    -- what might have arrived during earlier calls never does
    let s' : Session C := { s with arrivals := [] }
    have late (batch : List (Call C)) :
        ∃ arrivals, batch.foldl serve s' = { ended batch with arrivals := arrivals } := by
      cases batch with
      | nil => exact ⟨[], rfl⟩
      | cons c batch => exact ⟨_, rfl⟩
    obtain ⟨arrivals, one⟩ := late first
    obtain ⟨arrivals', other⟩ := late second
    have admitted : ∀ c ∈ first ++ second, ∀ c' ∈ c.commands, ∀ id, c' ≠ .unsubscribe id := by
      rintro c member c' sent id rfl
      exact kept id (List.mem_flatMap.2 ⟨c, member, sent⟩)
    have rested {batch : List (Call C)} {arrivals : List (List Command)}
        (rests : Resting (ended batch)) : Resting { ended batch with arrivals := arrivals } :=
      ⟨rests.1, rests.2, rests.3, rests.4⟩
    obtain ⟨t, same, same'⟩ := (Same.replay silent).agree silent polls admitted (.cleared s' rfl)
      (one ▸ rested rests) (other ▸ rested rests') (by rw [one, other]; exact issues)
    rw [one] at same
    rw [other] at same'
    exact ⟨(same.store (rested rests)).trans (same'.store (rested rests')).symm,
      same.world.trans same'.world.symm, same.journal.trans same'.journal.symm⟩
  · intro Own own apart
    obtain ⟨t, one, other⟩ :=
      (sight_replay apart).agree silent polls (by simp) rfl rests rests' issues
    have both := one.trans other.symm
    exact ⟨congrArg (·.1) both, congrArg (·.2.1) both, congrArg (·.2.2.2) both⟩

def counting : Clients where
  World := Unit
  Middleware := Nat
  Observer := Nat
  Listener := Nat
  consult n _ _ w := ⟨⟨n + 1, w, [], []⟩, true⟩
  observe n _ w := ⟨n + 1, w, [], []⟩
  hear n _ w := ⟨n + 1, w, [], []⟩

theorem lengths_agree :
    let short : Command := .dispatch (.settings (.setPinLength 4))
    let long : Command := .dispatch (.settings (.setPinLength 8))
    let s := ofCalls (C := counting) (.initial .standard) ()
      [⟨.addMiddleware (0 : Nat), 0, []⟩, ⟨.subscribe ⟨"gone"⟩ (fun _ _ => true) (0 : Nat), 1, []⟩,
        ⟨.subscribe ⟨"pin"⟩ (fun _ _ => true) (0 : Nat), 1, []⟩,
        ⟨.subscribeTrigger ⟨"lock"⟩ .lock (0 : Nat), 0, []⟩, ⟨.send [.unsubscribe ⟨"gone"⟩], 0, []⟩]
    let first : List (Call counting) :=
      [⟨.send [short, .trigger .lock, long], 0, []⟩, ⟨.processPending, 3, []⟩]
    let second : List (Call counting) :=
      [⟨.processPending, 2, [[short], [.trigger .lock]]⟩, ⟨.processPending, 1, [[long]]⟩]
    (issued .channel (first.foldl serve s).journal = issued .channel (second.foldl serve s).journal ∧
        Resting (first.foldl serve s) ∧ Resting (second.foldl serve s)) ∧
      course (first.foldl serve s).journal = course (second.foldl serve s).journal := by
  intro short long s first second
  have silent : counting.Silent := ⟨fun _ _ _ _ => rfl, fun _ _ _ => rfl, fun _ _ _ => rfl⟩
  have issues : issued .channel (first.foldl serve s).journal =
      issued .channel (second.foldl serve s).journal := by decide
  have rests : Resting (first.foldl serve s) := ⟨by decide, by decide, by decide, by decide⟩
  have rests' : Resting (second.foldl serve s) := ⟨by decide, by decide, by decide, by decide⟩
  have kept (id : SubscriberId) : .unsubscribe id ∉ (first ++ second).flatMap Call.commands := by
    have all : (first ++ second).flatMap Call.commands =
        [short, .trigger .lock, long, short, .trigger .lock, long] := by decide
    rw [all]
    simp [short, long]
  have agree := ((batches_agree silent (.initial .standard) () _).2 first second (by decide) rests
    rests' issues).1 kept
  exact ⟨⟨issues, rests, rests'⟩, agree.2.2⟩

def gated : Clients where
  World := Bool
  Middleware := Unit
  Observer := Unit
  Listener := Empty
  consult m _ _ closed := ⟨⟨m, closed, [], []⟩, !closed⟩
  observe o s _ := ⟨o, s.pinLength == 4, [], []⟩
  hear l := l.elim

/-- Middleware that is reached through the shared world notices in which batches an observer was
given up: before the first length is told to it, or after. -/
theorem gated_differs :
    gated.Silent ∧
    let short : Command := .dispatch (.settings (.setPinLength 4))
    let long : Command := .dispatch (.settings (.setPinLength 8))
    let s := ofCalls (C := gated) (.initial .standard) false
      [⟨.addMiddleware (), 0, []⟩, ⟨.subscribe ⟨"pin"⟩ (fun _ _ => true) (), 1, []⟩]
    let first : List (Call gated) :=
      [⟨.send [short, .unsubscribe ⟨"pin"⟩, long], 0, []⟩, ⟨.processPending, 2, []⟩]
    let second : List (Call gated) :=
      [⟨.send [short], 0, []⟩, ⟨.processPending, 1, []⟩,
        ⟨.send [.unsubscribe ⟨"pin"⟩, long], 0, []⟩, ⟨.processPending, 1, []⟩]
    (∀ c ∈ first ++ second, c.operation.polls = true) ∧
      Resting (first.foldl serve s) ∧ Resting (second.foldl serve s) ∧
      issued .channel (first.foldl serve s).journal =
        issued .channel (second.foldl serve s).journal ∧
      (first.foldl serve s).snapshot.pinLength = 8 ∧
      (second.foldl serve s).snapshot.pinLength = 4 := by
  refine ⟨⟨fun _ _ _ _ => rfl, fun _ _ _ => rfl, nofun⟩, by decide, ?_, ?_, by decide, by decide,
    by decide⟩
  · exact ⟨by decide, by decide, by decide, by decide⟩
  · exact ⟨by decide, by decide, by decide, by decide⟩

end Session
end WalletLoop
