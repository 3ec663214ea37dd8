import Mathlib.Algebra.GroupWithZero.Nat
import Mathlib.Algebra.Order.BigOperators.Group.List
import Mathlib.Algebra.Order.Group.Nat
import WalletLoop.Proofs.Session.Inflow

namespace WalletLoop

variable {C : Clients}

def Event.sends (w : C.World) : Event C → List Command
  | .consulted m a s _ => (C.consult m a s w).sent
  | .observed _ o s => (C.observe o s w).sent
  | .heard _ l t => (C.hear l t w).sent
  | _ => []

/-- How many commands clients may still send, depending on their states and on the world: what they
send when they are called is taken from that. -/
structure Budget (C : Clients) where
  world : C.World → Nat
  middleware : C.Middleware → Nat
  observer : C.Observer → Nat
  listener : C.Listener → Nat
  consult : ∀ m a s w,
    let v := C.consult m a s w
    v.sent.length + middleware v.client + world v.world ≤ middleware m + world w
  observe : ∀ o s w,
    let r := C.observe o s w
    r.sent.length + observer r.client + world r.world ≤ observer o + world w
  hear : ∀ l t w,
    let r := C.hear l t w
    r.sent.length + listener r.client + world r.world ≤ listener l + world w

namespace Session

def sentBy (w : C.World) : List (Event C) → List Command
  | [] => []
  | e :: rest => e.sends w ++ sentBy (e.effect w) rest

theorem sentBy_append (w : C.World) (events more : List (Event C)) :
    sentBy w (events ++ more) = sentBy w events ++ sentBy (worldAfter w events) more := by
  induction events generalizing w with
  | nil => rfl
  | cons e events ih =>
      rw [List.cons_append, sentBy, ih, sentBy, List.append_assoc]
      rfl

theorem sentBy_aside (w : C.World) {events : List (Event C)}
    (aside : ∀ e ∈ events, e.inCourse = false) : sentBy w events = [] := by
  induction events generalizing w with
  | nil => rfl
  | cons e events ih =>
      obtain ⟨here, rest⟩ := List.forall_mem_cons.1 aside
      have silent : e.sends w = [] := by
        cases e with
        | consulted | observed | heard => cases here
        | _ => rfl
      rw [sentBy, silent, ih _ rest, List.nil_append]

theorem taken_aside {events : List (Event C)} (aside : ∀ e ∈ events, e.inCourse = false) :
    taken events = [] := by
  apply List.filterMap_eq_nil_iff.2
  intro e member
  have outside := aside e member
  cases e with
  | took => cases outside
  | _ => rfl

theorem feed_arrive (s : Session C) : s.arrive.feed = s.feed := by
  rw [arrive_eq, feed, inflow, arrived_flatten]
  rfl

theorem feed_send (s : Session C) (cs : List Command) :
    (s.send cs).feed.length = s.feed.length + (cs.filterMap Command.work?).length := by
  induction cs generalizing s with
  | nil => rfl
  | cons c cs ih =>
      have put : (s.arrive.put c).feed.length =
          s.arrive.feed.length + ([c].filterMap Command.work?).length := by
        simp only [feed, inflow, Session.put, note, List.filterMap_append, List.length_append]
        omega
      calc (s.send (c :: cs)).feed.length
        _ = (s.arrive.put c).feed.length + (cs.filterMap Command.work?).length := ih _
        _ = s.feed.length + ([c].filterMap Command.work? ++ cs.filterMap Command.work?).length := by
          rw [put, feed_arrive, List.length_append, Nat.add_assoc]
        _ = _ := by rw [← List.filterMap_append, List.singleton_append]

theorem feed_absorb {Client : Type} (s : Session C) (r : Reply Client C.World) :
    (s.absorb r).feed.length = s.feed.length + (r.sent.filterMap Command.work?).length :=
  feed_send { s with world := r.world } r.sent

def Paid (x : Budget C → Nat) (s : Session C) (y : Budget C → Nat) (s' : Session C) : Prop :=
  ∃ events, s'.journal = s.journal ++ events ∧ s'.world = worldAfter s.world events ∧
    (taken events).length + s'.feed.length =
      s.feed.length + ((sentBy s.world events).filterMap Command.work?).length ∧
    ∀ b, (sentBy s.world events).length + y b + b.world s'.world ≤ x b + b.world s.world

theorem Paid.refl (x : Budget C → Nat) (s : Session C) : Paid x s x s :=
  ⟨[], by simp, rfl, by simp [taken, sentBy], by simp [sentBy]⟩

section Steps
variable {x y z : Budget C → Nat} {s s' s'' : Session C}

theorem Paid.trans (first : Paid x s y s') (second : Paid y s' z s'') : Paid x s z s'' := by
  obtain ⟨events, journal, world, work, left⟩ := first
  obtain ⟨events', journal', world', work', left'⟩ := second
  refine ⟨events ++ events', ?_, ?_, ?_, fun b => ?_⟩
  · rw [journal', journal, List.append_assoc]
  · rw [world', world, worldAfter_append]
  · rw [taken_append, sentBy_append, ← world, List.filterMap_append, List.length_append,
      List.length_append]
    omega
  · have before := left b
    have after := left' b
    rw [sentBy_append, ← world, List.length_append]
    omega

theorem Paid.beside (paid : Paid x s y s') (z : Budget C → Nat) :
    Paid (fun b => x b + z b) s (fun b => y b + z b) s' := by
  obtain ⟨events, journal, world, work, left⟩ := paid
  refine ⟨events, journal, world, work, fun b => ?_⟩
  have before := left b
  dsimp only
  omega

theorem Paid.less (paid : Paid x s y s') (less : ∀ b, z b ≤ y b) : Paid x s z s' := by
  obtain ⟨events, journal, world, work, left⟩ := paid
  exact ⟨events, journal, world, work, fun b => le_trans (by have := less b; omega) (left b)⟩

theorem paid_aside (aside : Aside s s') (feed : s'.feed = s.feed) : Paid x s x s' := by
  obtain ⟨world, events, journal, aside⟩ := aside
  refine ⟨events, journal, ?_, ?_, ?_⟩
  · rw [world, worldAfter_aside _ aside]
  · rw [taken_aside aside, sentBy_aside _ aside, feed, List.filterMap_nil]
    omega
  · intro b
    rw [sentBy_aside _ aside, world, List.length_nil, Nat.zero_add]

theorem paid_note (s : Session C) {e : Event C} (still : e.effect s.world = s.world)
    (silent : e.sends s.world = []) (idle : taken [e] = []) : Paid x s x (s.note e) := by
  have none : sentBy s.world [e] = [] := by simp [sentBy, silent]
  refine ⟨[e], rfl, still.symm, ?_, ?_⟩
  · rw [none, idle]
    exact Nat.zero_add _
  · intro b
    rw [none, List.length_nil, Nat.zero_add]
    exact Nat.le_refl _

theorem paid_take {w : Work} {later : List Work} (next : s.pending = w :: later) :
    Paid x s x ({ s with pending := later }.note (.took w)) := by
  refine ⟨[.took w], rfl, rfl, ?_, ?_⟩
  · simp [taken, sentBy, Event.sends, feed, inflow, note, next]
    omega
  · intro b
    simp [sentBy, Event.sends, note]

theorem paid_call {Client : Type} (s : Session C) {e : Event C} {r : Reply Client C.World}
    (effect : e.effect s.world = r.world) (sends : e.sends s.world = r.sent)
    (idle : taken [e] = [])
    (affords : ∀ b : Budget C, r.sent.length + y b + b.world r.world ≤ x b + b.world s.world) :
    Paid x s y ((s.note e).absorb r) := by
  obtain ⟨world, events, journal, aside⟩ := absorb_aside (s.note e) r
  have sent : sentBy s.world (e :: events) = r.sent := by
    rw [sentBy, sends, sentBy_aside _ aside, List.append_nil]
  have none : taken (e :: events) = [] := by
    rw [← List.singleton_append, taken_append, idle, taken_aside aside]
    rfl
  refine ⟨e :: events, ?_, ?_, ?_, fun b => ?_⟩
  · rw [journal]
    simp [note]
  · rw [world, ← List.singleton_append, worldAfter_append, worldAfter_aside _ aside]
    exact effect.symm
  · rw [sent, none, feed_absorb, List.length_nil, Nat.zero_add]
    rfl
  · rw [sent, world]
    exact affords b

end Steps
end Session

namespace Budget

def subscribers (b : Budget C) (s : Session C) : Nat :=
  (s.observers.map fun o => b.observer o.client).sum +
    (s.listeners.map fun l => b.listener l.client).sum

def clients (b : Budget C) (s : Session C) : Nat :=
  (s.middleware.map b.middleware).sum + b.subscribers s

def left (b : Budget C) (s : Session C) : Nat := b.clients s + b.world s.world

def newcomer (b : Budget C) : Operation C → Nat
  | .subscribe _ _ client => b.observer client
  | _ => 0

end Budget

theorem sum_map_set {α : Type} (f : α → Nat) {l : List α} {i : Nat} {a : α}
    (at_i : l[i]? = some a) (a' : α) : ((l.set i a').map f).sum + f a = (l.map f).sum + f a' := by
  obtain ⟨inside, rfl⟩ := List.getElem?_eq_some_iff.1 at_i
  have parts := congrArg (fun l : List α => (l.map f).sum) (Session.split_at at_i)
  rw [List.set_eq_take_append_cons_drop, if_pos inside]
  simp only [List.map_append, List.map_cons, List.sum_append, List.sum_cons] at parts ⊢
  omega

namespace Session

theorem afterwards_client {Interest Client : Type} (cs : List Command)
    (o : Subscription Interest Client) : (o.afterwards cs).client = o.client := by
  unfold Subscription.afterwards
  split <;> rfl

theorem clients_collect (b : Budget C) (s : Session C) : b.clients s.collect = b.clients s := by
  obtain ⟨events, -, same⟩ := collect_eq s
  simp only [Budget.clients, Budget.subscribers, same, List.map_map, Function.comp_def,
    afterwards_client]

theorem subscribers_compact (b : Budget C) (s : Session C) :
    b.subscribers s.compact ≤ b.subscribers s := by
  have fewer {α : Type} (f : α → Nat) (p : α → Bool) (l : List α) :
      ((l.filter p).map f).sum ≤ (l.map f).sum :=
    (List.filter_sublist.map f).sum_le_sum fun _ _ => Nat.zero_le _
  exact Nat.add_le_add (fewer _ _ _) (fewer _ _ _)

abbrev Thrifty (s s' : Session C) : Prop :=
  Paid (fun b => b.clients s) s (fun b => b.clients s') s'

theorem collect_thrifty (s : Session C) : Thrifty s s.collect := by
  have same : (fun b : Budget C => b.clients s.collect) = fun b => b.clients s :=
    funext fun b => clients_collect b s
  rw [Thrifty, same]
  exact paid_aside (collect_aside s) (feed_collect s)

theorem compact_thrifty (s : Session C) : Thrifty s s.compact := by
  have still : Paid (fun b => b.clients s) s (fun b => b.clients s) s.compact := .refl _ s
  exact still.less fun b => Nat.add_le_add_left (subscribers_compact b s) _

theorem notifyAt_thrifty (previous : Snapshot) (s : Session C) (i : Nat) :
    Thrifty s (notifyAt previous s i) := by
  apply (collect_thrifty s).trans
  cases at_i : s.collect.observers[i]? with
  | none =>
      rw [notifyAt_none at_i]
      exact .refl _ _
  | some o =>
      cases wanted : o.active && o.interest previous s.collect.snapshot with
      | false =>
          rw [notifyAt_spared at_i wanted]
          exact .refl _ _
      | true =>
          rw [notifyAt_called at_i wanted]
          refine paid_call s.collect rfl rfl rfl fun b => ?_
          have spent := b.observe o.client s.collect.snapshot s.collect.world
          have others := sum_map_set (fun o => b.observer o.client) at_i
            { o with client := (C.observe o.client s.collect.snapshot s.collect.world).client }
          simp only [Budget.clients, Budget.subscribers, observe, absorb_middleware, absorb_observers,
            absorb_listeners, note] at spent others ⊢
          omega

theorem fireAt_thrifty (t : Trigger) (s : Session C) (i : Nat) : Thrifty s (fireAt t s i) := by
  apply (collect_thrifty s).trans
  cases at_i : s.collect.listeners[i]? with
  | none =>
      rw [fireAt_none at_i]
      exact .refl _ _
  | some l =>
      cases wanted : l.active && l.interest.isSameKind t with
      | false =>
          rw [fireAt_spared at_i wanted]
          exact .refl _ _
      | true =>
          rw [fireAt_called at_i wanted]
          refine paid_call s.collect rfl rfl rfl fun b => ?_
          have spent := b.hear l.client t s.collect.world
          have others := sum_map_set (fun l => b.listener l.client) at_i
            { l with client := (C.hear l.client t s.collect.world).client }
          simp only [Budget.clients, Budget.subscribers, hear, absorb_middleware, absorb_observers,
            absorb_listeners, note] at spent others ⊢
          omega

theorem turns_thrifty {turn : Session C → Nat → Session C} (thrifty : ∀ s i, Thrifty s (turn s i))
    (s : Session C) (positions : List Nat) : Thrifty s (positions.foldl turn s) := by
  induction positions generalizing s with
  | nil => exact .refl _ s
  | cons i positions ih => exact (thrifty s i).trans (ih (turn s i))

theorem consult_paid (a : Action) (ms : List C.Middleware) (s : Session C) :
    Paid (fun b => (ms.map b.middleware).sum) s
        (fun b => ((consult a ms s).1.map b.middleware).sum) (consult a ms s).2.1 ∧
      ∀ b : Budget C, b.subscribers (consult a ms s).2.1 = b.subscribers s := by
  induction ms generalizing s with
  | nil => exact ⟨.refl _ s, fun _ => rfl⟩
  | cons m ms ih =>
      let v := C.consult m a s.snapshot s.world
      let asked := (s.note (.consulted m a s.snapshot v.passes)).absorb v.toReply
      have called : Paid (fun b => ((m :: ms).map b.middleware).sum) s
          (fun b => ((v.client :: ms).map b.middleware).sum) asked := by
        refine paid_call s rfl rfl rfl fun b => ?_
        have spent := b.consult m a s.snapshot s.world
        simp only [List.map_cons, List.sum_cons, v] at spent ⊢
        omega
      have others (b : Budget C) : b.subscribers asked = b.subscribers s := by
        simp only [Budget.subscribers, asked, absorb_observers, absorb_listeners, note]
      cases passes : v.passes with
      | true =>
          have one : consult a (m :: ms) s =
              (v.client :: (consult a ms asked).1, (consult a ms asked).2) := by
            simp [consult, asked, v, passes]
          obtain ⟨rest, still⟩ := ih asked
          rw [one]
          refine ⟨called.trans ?_, fun b => (still b).trans (others b)⟩
          simpa only [List.map_cons, List.sum_cons, Nat.add_comm] using
            rest.beside fun b => b.middleware v.client
      | false =>
          have one : consult a (m :: ms) s = (v.client :: ms, asked, false) := by
            simp [consult, asked, v, passes]
          rw [one]
          exact ⟨called, others⟩

theorem apply_thrifty (s : Session C) (a : Action) : Thrifty s (s.apply a) := by
  obtain ⟨asked, still⟩ := consult_paid a s.middleware s
  have back : Thrifty s { (consult a s.middleware s).2.1 with
      middleware := (consult a s.middleware s).1 } := by
    have all := asked.beside fun b => b.subscribers s
    apply all.less
    intro b
    exact Nat.add_le_add_left (still b).le _
  unfold apply
  dsimp only
  split
  · apply back.trans
    refine .trans (paid_note _ (e := .applied a) rfl rfl rfl) ?_
    refine .trans (paid_aside (notices_aside _ a.notices) rfl) ?_
    exact turns_thrifty (notifyAt_thrifty s.snapshot) _ _
  · exact back.trans (paid_note _ (e := .noticed (.consumed a)) rfl rfl rfl)

theorem perform_thrifty {s : Session C} {w : Work} {later : List Work}
    (next : s.pending = w :: later) : Thrifty s ({ s with pending := later }.perform w) := by
  have took : Thrifty s ({ s with pending := later }.note (.took w)) := paid_take next
  have done (s : Session C) : Thrifty s (s.note (.finished w)) := paid_note s rfl rfl rfl
  cases w with
  | action a => exact took.trans ((apply_thrifty _ a).trans (done _))
  | trigger t =>
      refine took.trans (.trans ?_ (done _))
      refine .trans (paid_note _ (e := .noticed (.fired t)) rfl rfl rfl) ?_
      exact turns_thrifty (fireAt_thrifty t) _ _

theorem drain_thrifty (bound : Nat) (s : Session C) : Thrifty s (drain bound s) := by
  induction bound generalizing s with
  | zero => exact .refl _ s
  | succ bound ih =>
      unfold drain
      split
      · exact .refl _ s
      · rename_i w later next
        apply (perform_thrifty next).trans
        exact (collect_thrifty _).trans ((compact_thrifty _).trans (ih _))

theorem run_thrifty (bound : Nat) (s : Session C) : Thrifty s (s.run bound) :=
  (collect_thrifty s).trans ((drain_thrifty bound s.collect).trans (compact_thrifty _))

theorem welcome_paid (id : SubscriberId) (interest : Selector) (client : C.Observer)
    (s : Session C) :
    Paid (fun b => b.clients s + b.observer client) s
      (fun b => b.clients (s.welcome id interest client)) (s.welcome id interest client) := by
  refine ((collect_thrifty s).beside fun b => b.observer client).trans ?_
  refine .trans (paid_note _ (e := .registered .observer s.collect.registered id) rfl rfl rfl) ?_
  refine paid_call _ rfl rfl rfl fun b => ?_
  have spent := b.observe client s.collect.snapshot s.collect.world
  simp only [Budget.clients, Budget.subscribers, welcome, observe, absorb_middleware,
    absorb_observers, absorb_listeners, note, List.map_append, List.map_singleton, List.sum_append,
    List.sum_singleton] at spent ⊢
  omega

def since (s s' : Session C) : List (Event C) := s'.journal.drop s.journal.length

def Afforded (s : Session C) (o : Operation C) (s' : Session C) : Prop :=
  let events := since s s'
  s'.journal = s.journal ++ events ∧
    (taken events).length + s'.feed.length ≤
      s.feed.length + 1 + ((sentBy s.world events).filterMap Command.work?).length ∧
    ∀ b : Budget C, (sentBy s.world events).length + b.left s' ≤ b.left s + b.newcomer o

theorem afforded_of_paid {s ready s' : Session C} {o : Operation C} {front : List (Event C)}
    (paid : Paid (fun b => b.clients s + b.newcomer o) ready (fun b => b.clients s') s')
    (journal : ready.journal = s.journal ++ front) (aside : ∀ e ∈ front, e.inCourse = false)
    (world : ready.world = s.world) (feed : ready.feed.length ≤ s.feed.length + 1) :
    Afforded s o s' := by
  obtain ⟨events, journal', world', work, left⟩ := paid
  have all : s'.journal = s.journal ++ (front ++ events) := by
    rw [journal', journal, List.append_assoc]
  have happened : since s s' = front ++ events := by rw [since, all, List.drop_left]
  -- nothing was sent or done before the work began
  have sent : sentBy s.world (front ++ events) = sentBy ready.world events := by
    rw [sentBy_append, sentBy_aside _ aside, worldAfter_aside _ aside, world, List.nil_append]
  have done : taken (front ++ events) = taken events := by
    rw [taken_append, taken_aside aside, List.nil_append]
  rw [Afforded, happened, sent, done]
  refine ⟨all, by omega, fun b => ?_⟩
  have enough := left b
  simp only [world, Budget.left] at enough ⊢
  omega

theorem submit_afforded (bound : Nat) (s : Session C) (c : Command) (w : Work) {o : Operation C}
    (alone : ∀ b : Budget C, b.newcomer o = 0) :
    Afforded s o ({ s.note (.issued .direct c) with pending := s.pending ++ [w] }.run bound) := by
  let ready : Session C := { s.note (.issued .direct c) with pending := s.pending ++ [w] }
  have ran : Paid (fun b => b.clients s + b.newcomer o) ready (fun b => b.clients (ready.run bound))
      (ready.run bound) := by
    simp only [alone]
    exact run_thrifty bound ready
  have feed : ready.feed.length = s.feed.length + 1 := by
    simp only [ready, Session.feed, inflow, note, List.length_append, List.length_singleton]
    omega
  exact afforded_of_paid ran rfl (by simp [Event.inCourse]) rfl feed.le

theorem operate_afforded {o : Operation C} (runs : o.runs = true) (bound : Nat) (s : Session C) :
    Afforded s o (s.operate bound o) := by
  cases o with
  | subscribe id interest client =>
      have said : Thrifty (s.welcome id interest client)
          ((s.welcome id interest client).notice (.subscribed id)) := paid_note _ rfl rfl rfl
      have ran := (welcome_paid id interest client s).trans (said.trans (run_thrifty bound _))
      exact afforded_of_paid ran (List.append_nil _).symm (by simp) rfl (Nat.le_succ _)
  | dispatch a => exact submit_afforded bound s (.dispatch a) (.action a) fun _ => rfl
  | trigger t => exact submit_afforded bound s (.trigger t) (.trigger t) fun _ => rfl
  | processPending =>
      exact afforded_of_paid (run_thrifty bound s) (List.append_nil _).symm (by simp) rfl
        (Nat.le_succ _)
  | _ => cases runs

theorem operate_progress {o : Operation C} (runs : o.runs = true) (bound : Nat) (s : Session C) :
    (s.operate bound o).pending = [] ∨
      (taken s.journal).length + bound ≤ (taken (s.operate bound o).journal).length := by
  have more {ready : Session C} (grown : s.journal <+: ready.journal) :
      (ready.run bound).pending = [] ∨
        (taken s.journal).length + bound ≤ (taken (ready.run bound).journal).length :=
    (run_progress bound ready).imp_right
      (Nat.le_trans (Nat.add_le_add_right (taken_grows grown).length_le _))
  cases o with
  | subscribe id interest client =>
      obtain ⟨events, journal, -⟩ := welcome_paid id interest client s
      have welcomed : s.journal <+: (s.welcome id interest client).journal := ⟨events, journal.symm⟩
      exact more (welcomed.trans (List.prefix_append _ _))
  | dispatch | trigger => exact more (List.prefix_append _ _)
  | processPending => exact more (List.prefix_refl _)
  | _ => cases runs

/-- An operation does no more work than what was on its way, its own piece, and what its clients send
meanwhile. If they send no more than `n` commands however long it goes on, it returns after as many
more pieces, and a larger bound makes no difference. They send no more than they have a budget for. -/
theorem loop_ends (s : Session C) {o : Operation C} (runs : o.runs = true)
    (arrivals : List (List Command)) :
    let ended bound := s.serve ⟨o, bound, arrivals⟩
    let sent bound := sentBy s.world (since s (ended bound))
    let queued := { s with arrivals := arrivals }.feed.length
    (∀ bound, (taken (since s (ended bound))).length ≤ queued + 1 + (sent bound).length) ∧
      (∀ n, (∀ bound, (sent bound).length ≤ n) →
        (∀ bound, (taken (since s (ended bound))).length ≤ queued + 1 + n) ∧
        ∀ bound ≥ queued + 1 + n,
          (ended bound).pending = [] ∧ ended bound = ended (queued + 1 + n)) ∧
      ∀ (b : Budget C) bound, (sent bound).length ≤ b.left s + b.newcomer o := by
  intro ended sent queued
  have afforded (bound : Nat) : Afforded { s with arrivals := arrivals } o (ended bound) :=
    operate_afforded runs bound _
  have worked (bound : Nat) : (taken (since s (ended bound))).length + (ended bound).feed.length ≤
      queued + 1 + (sent bound).length :=
    (afforded bound).2.1.trans (Nat.add_le_add_left (List.length_filterMap_le _ _) _)
  refine ⟨fun bound => (Nat.le_add_right _ _).trans (worked bound), fun n few => ?_, ?_⟩
  · have done : ∀ bound ≥ queued + 1 + n, (ended bound).pending = [] := by
      intro bound large
      by_contra left
      -- with work left all of the bound is used up, and something is on its way: too much
      have busy : bound ≤ (taken (since s (ended bound))).length := by
        have progress := (operate_progress runs bound { s with arrivals := arrivals }).resolve_left left
        have parts := congrArg (fun events => (taken events).length) (afforded bound).1
        simp only [taken_append, List.length_append] at parts
        exact Nat.le_of_add_le_add_left (progress.trans parts.le)
      have work : 0 < (ended bound).feed.length :=
        List.length_pos_of_ne_nil fun none => left (List.append_eq_nil_iff.1 none).1
      have limit := worked bound
      have sends := few bound
      omega
    refine ⟨fun bound => ?_, fun bound large => ⟨done bound large, ?_⟩⟩
    · have limit := worked bound
      have sends := few bound
      omega
    · exact serve_stable runs large (done _ (Nat.le_refl _))
  · intro b bound
    have enough := (afforded bound).2.2 b
    exact (Nat.le_add_right _ _).trans enough

def whileLeft (n : Nat) (c : Command) : List Command := if n = 0 then [] else [c]

theorem whileLeft_length (n : Nat) (c : Command) : (whileLeft n c).length + (n - 1) ≤ n := by
  cases n <;> simp [whileLeft, Nat.add_comm]

def countdown : Clients where
  World := Unit
  Middleware := Nat
  Observer := Nat
  Listener := Nat
  consult n _ _ w := ⟨⟨n - 1, w, whileLeft n (.trigger .lock), []⟩, true⟩
  observe n _ w := ⟨n - 1, w, whileLeft n (.dispatch (.settings (.setPinLength 4))), []⟩
  hear n _ w := ⟨n - 1, w, whileLeft n (.trigger .rescan), []⟩

def countdownBudget : Budget countdown where
  world _ := 0
  middleware n := n
  observer n := n
  listener n := n
  consult n _ _ _ := whileLeft_length n _
  observe n _ _ := whileLeft_length n _
  hear n _ _ := whileLeft_length n _

def ticking : Session countdown :=
  { start (.new countdown (.initial .standard)) () with
    middleware := [(2 : Nat)]
    observers := [⟨0, ⟨"observer"⟩, fun _ _ => true, (3 : Nat), true⟩]
    listeners := [⟨1, ⟨"listener"⟩, .lock, (1 : Nat), true⟩]
    registered := 2
    channel := [.dispatch (.settings (.setPinLength 6))]
    pending := [.trigger .lock] }

theorem countdown_ends :
    let ended bound := ticking.serve ⟨.dispatch (.settings (.setPinLength 5)), bound, []⟩
    (∀ bound, (sentBy () (since ticking (ended bound))).length ≤ 6) ∧
      (∀ bound, (taken (since ticking (ended bound))).length ≤ 9) ∧
      ∀ bound ≥ 9, (ended bound).pending = [] ∧ ended bound = ended 9 := by
  intro ended
  obtain ⟨-, returned, paid⟩ :=
    loop_ends ticking (o := .dispatch (.settings (.setPinLength 5))) rfl []
  have few : ∀ bound, (sentBy () (since ticking (ended bound))).length ≤ 6 := paid countdownBudget
  exact ⟨few, returned 6 few⟩

end Session
end WalletLoop
