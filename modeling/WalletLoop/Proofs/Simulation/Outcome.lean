import WalletLoop.Proofs.Preferences.Startup
import WalletLoop.Proofs.Session.Inflow

/-!
# How the simulation ends

The sync engine sends from a thread of its own, so its commands come in at any moments. None of them
changes who is called, and the one answer of a view comes after all of them: what is done next
depends only on the work that is on its way, not on how much of it has arrived (`drain_leads`). So
every schedule leads to the same snapshot, up to the settings that were loaded (`run_synced`).
-/

namespace WalletLoop

open Session

structure Action.Incidental (a : Action) : Prop where
  unsaved : ∀ s, a.preference? s = none
  unreported : a.event? = none

theorem Action.Incidental.wallet (a : WalletAction) : (Action.wallet a).Incidental :=
  ⟨fun _ => rfl, rfl⟩

theorem Watcher.watch_incidental {S : Services} {a : Action} (incidental : a.Incidental)
    (w : Watcher S) (s : Snapshot) (world : S.World) :
    (w.watch a s world).world = world ∧ (w.watch a s world).sent = [] := by
  cases w with
  | log count =>
      simp only [watch]
      split <;> exact ⟨rfl, rfl⟩
  | preferences store => simp [watch, incidental.unsaved]
  | telemetry sink => simp [watch, incidental.unreported]

namespace Json
variable {α : Type} {write : α → Json}

@[simp] theorem isNamed_flag (b : Bool) : (flag b).isNamed = true := rfl

@[simp] theorem isNamed_ofString (s : String) : (ofString s).isNamed = true := rfl

@[simp] theorem isNamed_ofNat (n : Nat) : (ofNat n).isNamed = true := rfl

@[simp] theorem isNamed_ofBinary64 (x : Binary64) : (ofBinary64 x).isNamed = true := by
  unfold ofBinary64
  split <;> rfl

@[simp] theorem isNamed_record (members : List (String × Json)) :
    (record members).isNamed = members.all fun m => m.2.isNamed := by
  rw [record, isNamed]
  induction members with
  | nil => rfl
  | cons m members ih => simp [membersNamed, ih]

theorem isNamed_map (named : ∀ a, (write a).isNamed = true) (l : List α) :
    (array (l.map write)).isNamed = true := by
  rw [isNamed]
  induction l with
  | nil => rfl
  | cons a l ih => rw [List.map_cons, areNamed, named, ih, Bool.and_self]

theorem isNamed_optional (named : ∀ a, (write a).isNamed = true) (a : Option α) :
    (optional write a).isNamed = true := by
  cases a with
  | none => rfl
  | some a => exact named a

end Json

theorem Transaction.isNamed_json (t : Transaction) : t.json.isNamed = true := by
  have height : (Json.optional (fun n : UInt32 => .ofNat n.toNat) t.blockHeight).isNamed = true :=
    Json.isNamed_optional (fun _ => rfl) _
  simp [Transaction.json, height]

theorem Wallet.isNamed_json (w : Wallet) : w.json.isNamed = true := by
  have balance : (Json.optional (fun n : UInt64 => .ofNat n.toNat) w.balance).isNamed = true :=
    Json.isNamed_optional (fun _ => rfl) _
  have transactions := Json.isNamed_map Transaction.isNamed_json w.transactions
  simp [Wallet.json, balance, transactions]

theorem Rate.isNamed_json (r : Rate) : r.json.isNamed = true := by
  simp [Rate.json]

theorem Snapshot.isNamed_json (s : Snapshot) : s.json.isNamed = true := by
  have wallet := Wallet.isNamed_json s.wallet
  have alert : (Json.optional (fun kind : AlertKind => .ofString kind.name) s.alert).isNamed =
      true := Json.isNamed_optional (fun _ => rfl) _
  have fees : s.fees.json.isNamed = true := by simp [Fees.json]
  have current := Json.isNamed_optional Rate.isNamed_json s.currentRate
  have rates := Json.isNamed_map Rate.isNamed_json s.rates
  simp [Snapshot.json, wallet, alert, fees, current, rates]

theorem Snapshot.printed?_json (s : Snapshot) : s.json.printed? = some s.json.pretty :=
  if_pos (isNamed_json s)

namespace Simulation

/-! ## The views at their posts -/

def post (number : Nat) (v : View) : Subscription Selector clients.Observer :=
  ⟨number, v.subscriber, v.aspect.differs, v, true⟩

def posts : List (Subscription Selector clients.Observer) :=
  [post 0 .header, post 1 .balance, post 2 .syncState, post 3 .modal]

def locks : List (Subscription Trigger clients.Listener) := [⟨4, lockId, .lock, (), true⟩]

def told (previous next : Snapshot) (v : View) : List Command :=
  if v.aspect.differs previous next then v.commands next else []

def reaction (previous next : Snapshot) : List Work :=
  (told previous next .syncState).filterMap Command.work?

theorem told_eq_nil {previous next : Snapshot} (none : reaction previous next = []) :
    told previous next .syncState = [] := by
  unfold reaction told at *
  split
  · rw [if_pos ‹_›] at none
    simp only [View.commands] at none ⊢
    split at none
    · cases none
    · rw [if_neg ‹_›]
  · rfl

theorem told_other {previous next : Snapshot} {v : View} (other : v ≠ .syncState) :
    told previous next v = [] := by
  unfold told
  split
  · cases v with
    | syncState => exact absurd rfl other
    | _ => rfl
  · rfl

structure Stands (running : Prop) (w : clients.World) (x : Snapshot) (f : List Work)
    (s : Session clients) : Prop where
  observers : s.observers = posts
  listeners : s.listeners = locks
  world : s.world = w
  snapshot : s.snapshot = x
  feed : s.feed = f
  steady : s.Steady
  alone : ¬running → s.arrivals = []

section Passes
variable {running : Prop} {w : clients.World} {x previous : Snapshot} {f : List Work}
  {s : Session clients}

theorem Stands.written (stands : Stands running w x f s) (journal : List (Event clients)) :
    Stands running w x f { s with journal := journal } :=
  ⟨stands.1, stands.2, stands.3, stands.4, stands.5, stands.6, stands.7⟩

theorem Stands.collect (stands : Stands running w x f s) : Stands running w x f s.collect := by
  have feed : s.collect.feed = f := (feed_collect s).trans stands.feed
  have steady := stands.steady.collect
  obtain ⟨events, -, same⟩ := stands.steady.collect_eq
  rw [same] at feed steady ⊢
  refine ⟨stands.observers, stands.listeners, stands.world, stands.snapshot, feed, steady, ?_⟩
  intro ended
  simp [stands.alone ended]

theorem Stands.compact (stands : Stands running w x f s) : Stands running w x f s.compact := by
  refine ⟨?_, ?_, stands.world, stands.snapshot, stands.feed, stands.steady, stands.alone⟩
  · rw [Session.compact, stands.observers]
    rfl
  · rw [Session.compact, stands.listeners]
    rfl

theorem Stands.absorb {Client : Type} (stands : Stands running w x f s)
    {r : Reply Client clients.World} (still : r.world = w) (works : ∀ id, .unsubscribe id ∉ r.sent)
    (last : r.sent = [] ∨ f = []) :
    Stands running w x (f ++ r.sent.filterMap Command.work?) (s.absorb r) := by
  have last : r.sent = [] ∨ s.arrivals.flatten = [] := by
    refine last.imp_right fun none => ?_
    have nothing := stands.steady.inflow_nil (stands.feed.trans none)
    exact (List.append_eq_nil_iff.1 nothing).2
  have inflow := absorb_inflow last
  refine ⟨?_, ?_, (absorb_world s r).trans still, ?_, ?_, fun id member => ?_, fun ended => ?_⟩
  · rw [absorb_observers, stands.observers]
  · rw [absorb_listeners, stands.listeners]
  · rw [absorb_snapshot, stands.snapshot]
  · have pending : (s.absorb r).pending = s.pending := by rw [absorb_toStore]
    rw [Session.feed, inflow, pending, List.filterMap_append, ← List.append_assoc, ← stands.feed]
    rfl
  · rw [inflow] at member
    rcases List.mem_append.1 member with before | new
    · exact stands.steady id before
    · exact works id new
  · exact absorb_alone (stands.alone ended) r

theorem commands_work (x : Snapshot) (v : View) (id : SubscriberId) :
    .unsubscribe id ∉ v.commands x := by
  cases v with
  | syncState => simp only [View.commands]; split <;> simp
  | _ => simp [View.commands]

theorem notifyAt_stands (previous : Snapshot) {v : View} {i : Nat}
    (at_i : posts[i]? = some (post i v))
    (stands : Stands running w x f s) (last : told previous x v = [] ∨ f = []) :
    Stands running w x (f ++ (told previous x v).filterMap Command.work?)
      (notifyAt previous s i) := by
  have ready := stands.collect
  have here : s.collect.observers[i]? = some (post i v) := by rw [ready.observers, at_i]
  have wish : (post i v).interest previous s.collect.snapshot = v.aspect.differs previous x :=
    congrArg (v.aspect.differs previous) ready.snapshot
  by_cases wanted : v.aspect.differs previous x = true
  · let called := s.collect.note (.observed i v s.collect.snapshot)
    let r : Reply View clients.World := clients.observe v s.collect.snapshot s.collect.world
    have sent : r.sent = told previous x v := by
      rw [told, if_pos wanted]
      exact congrArg (View.commands · v) ready.snapshot
    have works (id : SubscriberId) : .unsubscribe id ∉ r.sent := commands_work _ v id
    have stands' := (ready.written _).absorb (s := called) ready.world works (sent ▸ last)
    rw [sent] at stands'
    -- The view is what it was before the call.
    have same : (called.absorb r).observers.set i (post i v) =
        (called.absorb r).observers := by
      obtain ⟨inside, there⟩ := List.getElem?_eq_some_iff.1 at_i
      rw [stands'.observers, ← there]
      exact List.set_getElem_self inside
    rw [notifyAt_called here (by rw [wish, wanted]; rfl)]
    exact ⟨same.trans stands'.1, stands'.2, stands'.3, stands'.4, stands'.5, stands'.6, stands'.7⟩
  · have spared : ((post i v).active && (post i v).interest previous
        s.collect.snapshot) = false := by
      rw [wish, Bool.eq_false_iff.2 wanted, Bool.and_false]
    rw [notifyAt_spared here spared, told, if_neg wanted]
    simpa using ready

theorem notify_stands (stands : Stands running w x f s)
    (last : reaction previous x = [] ∨ f = []) :
    Stands running w x (f ++ reaction previous x) (s.notify previous) := by
  have quiet (v : View) {i : Nat} (at_i : posts[i]? = some (post i v))
      (other : v ≠ .syncState) {f : List Work} {s : Session clients}
      (stands : Stands running w x f s) :
      Stands running w x f (notifyAt previous s i) := by
    have turn := notifyAt_stands previous at_i stands (.inl (told_other other))
    rwa [told_other other, List.filterMap_nil, List.append_nil] at turn
  have first := quiet .header (i := 0) rfl (by decide) stands
  have second := quiet .balance (i := 1) rfl (by decide) first
  have third := notifyAt_stands previous (v := .syncState) (i := 2) rfl second
    (last.imp_left told_eq_nil)
  have fourth := quiet .modal (i := 3) rfl (by decide) third
  have turns : List.range s.observers.length = [0, 1, 2, 3] := by
    rw [stands.observers]
    rfl
  rw [notify, turns]
  simp only [List.foldl_cons, List.foldl_nil]
  exact fourth

theorem fire_stands (stands : Stands running w x [] s) :
    Stands running w x [.action (.startup .requireLogin)] (s.fire .lock) := by
  have ready := (stands.written (s.journal ++ [.noticed (.fired .lock)])).collect
  have one : List.range s.listeners.length = [0] := by
    rw [stands.listeners]
    rfl
  have here : (s.notice (.fired .lock)).collect.listeners[0]? = some ⟨4, lockId, .lock, (), true⟩ :=
    congrArg (·[0]?) ready.listeners
  rw [fire, one, List.foldl_cons, List.foldl_nil, fireAt_called here rfl]
  let called := (s.notice (.fired .lock)).collect.note (.heard 4 () .lock)
  let r : Reply Unit clients.World :=
    clients.hear () .lock (s.notice (.fired .lock)).collect.world
  have works (id : SubscriberId) : .unsubscribe id ∉ r.sent := by
    simp [r, clients, Clients.watched, View.clients]
  have stands' := (ready.written _).absorb (s := called) ready.world works (.inr rfl)
  have same : (called.absorb r).listeners.set 0 ⟨4, lockId, .lock, (), true⟩ =
      (called.absorb r).listeners := by
    rw [stands'.listeners]
    rfl
  exact ⟨stands'.1, same.trans stands'.2, stands'.3, stands'.4, stands'.5, stands'.6, stands'.7⟩

theorem middleware_incidental {a : Action} (incidental : a.Incidental) (m : clients.Middleware)
    (x : Snapshot) (w : clients.World) :
    let v := clients.consult m a x w
    v.passes = true ∧ v.world = w ∧ v.sent = [] := by
  cases m with
  | inl watcher =>
      obtain ⟨still, silent⟩ := watcher.watch_incidental incidental x w.1
      exact ⟨rfl, Prod.ext still rfl, silent⟩
  | inr m => nomatch m

theorem consult_incidental {a : Action} (incidental : a.Incidental)
    (ms : List clients.Middleware) (s : Session clients) :
    ∃ ms' journal, consult a ms s = (ms', { s with journal := journal }, true) := by
  induction ms generalizing s with
  | nil => exact ⟨[], s.journal, rfl⟩
  | cons m ms ih =>
      obtain ⟨passes, still, silent⟩ := middleware_incidental incidental m s.snapshot s.world
      let asked := s.note (.consulted m a s.snapshot true)
      let verdict := clients.consult m a s.snapshot s.world
      obtain ⟨later, journal, rest⟩ :=
        ih { s with journal := asked.journal ++ verdict.notices.map .noticed }
      refine ⟨verdict.client :: later, journal, ?_⟩
      have absorbed : asked.absorb verdict.toReply =
          { s with journal := asked.journal ++ verdict.notices.map .noticed } := by
        rw [absorb_silent _ silent, still]
        rfl
      rw [consult]
      simp only [passes, if_true]
      rw [absorbed, rest]

theorem apply_stands {a : Action} (incidental : a.Incidental) (stands : Stands running w x f s)
    (last : reaction x (x.reduce a) = [] ∨ f = []) :
    Stands running w (x.reduce a) (f ++ reaction x (x.reduce a)) (s.apply a) := by
  obtain ⟨ms, journal, asked⟩ := consult_incidental incidental s.middleware s
  have told : s.apply a =
      (({ s with middleware := ms, journal := journal }.advance a).notify s.snapshot) := by
    simp [apply, asked]
  rw [told, stands.snapshot]
  refine notify_stands ?_ last
  exact ⟨stands.1, stands.2, stands.3, rfl, stands.5, stands.6, stands.7⟩

end Passes

/-! ## Where the work leads -/

/-- Work leads from one snapshot to another in so many pieces, with what the clients ask for on the
way. A view asks for more only when nothing else is left to do. -/
inductive Leads : Snapshot → List Work → Snapshot → Nat → Prop
  | done (x : Snapshot) : Leads x [] x 0
  | act {a : Action} {x y : Snapshot} {f : List Work} {n : Nat} (incidental : a.Incidental)
      (last : reaction x (x.reduce a) = [] ∨ f = [])
      (rest : Leads (x.reduce a) (f ++ reaction x (x.reduce a)) y n) :
      Leads x (.action a :: f) y (n + 1)
  | lock {x y : Snapshot} {n : Nat} (rest : Leads x [.action (.startup .requireLogin)] y n) :
      Leads x [.trigger .lock] y (n + 1)

def Heads (running : Prop) (w : clients.World) (y : Snapshot) (n : Nat) (s : Session clients) :
    Prop :=
  ∃ x f m, m ≤ n ∧ Leads x f y m ∧ Stands running w x f s

section Loop
variable {running : Prop} {w : clients.World} {x y : Snapshot} {f : List Work} {n : Nat}
  {s : Session clients}

theorem perform_leads {v : Work} (leads : Leads x (v :: f) y n) (stands : Stands running w x f s) :
    ∃ x' f' m, n = m + 1 ∧ Leads x' f' y m ∧ Stands running w x' f' (s.perform v) := by
  have took := stands.written (s.journal ++ [.took v])
  cases leads with
  | act incidental last rest =>
      exact ⟨_, _, _, rfl, rest, (apply_stands incidental took last).written _⟩
  | lock rest => exact ⟨_, _, _, rfl, rest, (fire_stands took).written _⟩

theorem drain_heads (bound : Nat) (heads : Heads running w y n s) :
    Heads running w y n (drain bound s) ∧ (n ≤ bound → (drain bound s).pending = []) := by
  induction bound generalizing n s with
  | zero =>
      refine ⟨heads, fun few => ?_⟩
      obtain ⟨x, f, m, le, leads, stands⟩ := heads
      obtain rfl : m = 0 := by omega
      cases leads
      exact (List.append_eq_nil_iff.1 stands.feed).1
  | succ bound ih =>
      unfold drain
      split
      · rename_i done
        exact ⟨heads, fun _ => done⟩
      · rename_i v later next
        obtain ⟨x, f, m, le, leads, stands⟩ := heads
        let left : Session clients := { s with pending := later }
        have first : f = v :: left.feed := by
          rw [← stands.feed, feed, next]
          rfl
        rw [first] at leads
        have stands' : Stands running w x left.feed left :=
          ⟨stands.1, stands.2, stands.3, stands.4, rfl, stands.6, stands.7⟩
        obtain ⟨x', f', m, rfl, leads', performed⟩ := perform_leads leads stands'
        obtain ⟨⟨x', f', k, few, heads⟩, ended⟩ :=
          ih (n := m) ⟨x', f', m, Nat.le_refl m, leads', performed.collect.compact⟩
        exact ⟨⟨x', f', k, by omega, heads⟩, fun enough => ended (by omega)⟩

theorem run_heads (bound : Nat) (heads : Heads running w y n s) :
    Heads running w y n (s.run bound) := by
  obtain ⟨x, f, m, le, leads, stands⟩ := heads
  obtain ⟨⟨x', f', k, few, leads', drained⟩, -⟩ :=
    drain_heads bound (n := n) ⟨x, f, m, le, leads, stands.collect⟩
  exact ⟨x', f', k, few, leads', drained.compact⟩

theorem run_arrives (bound : Nat) (ended : ¬running) (enough : n ≤ bound)
    (heads : Heads running w y n s) :
    Stands running w y [] (s.run bound) ∧ Resting (s.run bound) := by
  obtain ⟨x, f, m, le, leads, stands⟩ := heads
  have done : (s.run bound).pending = [] :=
    (drain_heads bound ⟨x, f, m, le, leads, stands.collect⟩).2 enough
  obtain ⟨x', f', k, -, leads', ran⟩ := run_heads bound ⟨x, f, m, le, leads, stands⟩
  have nothing : (s.run bound).feed = [] := by
    simp [feed, inflow, done, run_channel, ran.alone ended]
  obtain rfl : f' = [] := ran.feed.symm.trans nothing
  cases leads'
  exact ⟨ran, resting_run done⟩

theorem Stands.submitted (stands : Stands running w x [] s) (e : Event clients) (v : Work) :
    Stands running w x [v] { s.note e with pending := s.pending ++ [v] } := by
  obtain ⟨idle, rest⟩ := List.append_eq_nil_iff.1 stands.feed
  refine ⟨stands.1, stands.2, stands.3, stands.4, ?_, stands.6, stands.7⟩
  change (s.pending ++ [v]) ++ s.inflow.filterMap Command.work? = [v]
  rw [idle, rest]
  rfl

theorem Stands.join (stands : Stands running w x f s) : Stands False w x f s.join := by
  have same : s.join = { s with
      channel := s.inflow
      arrivals := []
      journal := s.journal ++ s.arrivals.flatten.map (.issued .channel) } := puts_eq _ _
  rw [same]
  refine ⟨stands.1, stands.2, stands.3, stands.4, ?_, ?_, fun _ => rfl⟩
  · rw [← stands.feed]
    simp [Session.feed, inflow]
  · intro id member
    exact stands.steady id (by simpa [inflow] using member)

theorem Stands.opened {portions : List (List Command)}
    (steady : ∀ id, .unsubscribe id ∉ portions.flatten) (stands : Stands running w x [] s) :
    Stands True w x (portions.flatten.filterMap Command.work?)
      { s with arrivals := portions } := by
  obtain ⟨idle, -⟩ := List.append_eq_nil_iff.1 stands.feed
  obtain ⟨empty, -⟩ := List.append_eq_nil_iff.1 (stands.steady.inflow_nil stands.feed)
  refine ⟨stands.1, stands.2, stands.3, stands.4, ?_, ?_, fun ended => absurd trivial ended⟩
  · simp [Session.feed, inflow, idle, empty]
  · intro id member
    exact steady id (by simpa [inflow, empty] using member)

theorem Heads.join (heads : Heads running w y n s) : Heads False w y n s.join := by
  obtain ⟨x, f, m, le, leads, stands⟩ := heads
  exact ⟨x, f, m, le, leads, stands.join⟩

theorem repeat_heads (rounds bound : Nat) (heads : Heads running w y n s) :
    Heads running w y n (rounds.repeat (processPending bound) s) := by
  induction rounds with
  | zero => exact heads
  | succ rounds ih => exact run_heads bound ih

end Loop

/-! ## The script -/

def alerts (before after : Wallet) : Bool :=
  before.syncState != after.syncState && after.syncState == .success && after.balance.isSome

def alertLast (w : Wallet) : List WalletAction → Bool
  | [] => false
  | [a] => alerts w (w.reduce a)
  | a :: rest => !alerts w (w.reduce a) && alertLast (w.reduce a) rest

def alert : Work := .action (.alert (.show .resolvedSuccess))

theorem reaction_eq (previous next : Snapshot) :
    reaction previous next = if alerts previous.wallet next.wallet then [alert] else [] := by
  have differs : View.syncState.aspect.differs previous next =
      (previous.wallet.syncState != next.wallet.syncState) := by
    simp [View.aspect, Aspect.differs, Aspect.fields, Field.same, bne]
  unfold reaction told
  rw [differs, alerts]
  by_cases changed : (previous.wallet.syncState != next.wallet.syncState) = true
  · rw [if_pos changed, changed, View.commands]
    split
    · rename_i synced
      rw [if_pos (by simp [synced])]
      rfl
    · rename_i other
      rw [if_neg (by simpa using other)]
      rfl
  · rw [if_neg changed, Bool.eq_false_iff.2 changed]
    rfl

theorem action_leads {x : Snapshot} {a : Action} (incidental : a.Incidental)
    (apart : (x.reduce a).wallet = x.wallet) : Leads x [.action a] (x.reduce a) 1 := by
  have silent : reaction x (x.reduce a) = [] := by simp [reaction_eq, alerts, apart]
  refine .act incidental (.inl silent) ?_
  rw [silent]
  exact .done _

theorem login_leads (x : Snapshot) :
    Leads x [.action (.startup .loginSuccess)] { x with loginRequired := false } 1 :=
  action_leads ⟨fun _ => rfl, rfl⟩ rfl

theorem lock_leads (x : Snapshot) :
    Leads x [.trigger .lock] { x with loginRequired := true } 2 :=
  .lock (action_leads ⟨fun _ => rfl, rfl⟩ rfl)

theorem reports_lead (x : Snapshot) (as : List WalletAction) (last : alertLast x.wallet as) :
    Leads x (as.map fun a => .action (.wallet a))
      { x with
        wallet := as.foldl Wallet.reduce x.wallet
        alert := some .resolvedSuccess } (as.length + 1) := by
  induction as generalizing x with
  | nil => cases last
  | cons a as ih =>
      have here : reaction x (x.reduce (.wallet a)) =
          if alerts x.wallet (x.wallet.reduce a) then [alert] else [] := reaction_eq _ _
      cases as with
      | nil =>
          have alerted : alerts x.wallet (x.wallet.reduce a) = true := last
          rw [if_pos alerted] at here
          refine .act (.wallet a) (.inr rfl) ?_
          rw [here]
          exact action_leads ⟨fun _ => rfl, rfl⟩ rfl
      | cons b bs =>
          obtain ⟨calm, later⟩ : (!alerts x.wallet (x.wallet.reduce a)) = true ∧
              alertLast (x.wallet.reduce a) (b :: bs) = true := by
            simpa [alertLast] using last
          rw [if_neg (by simpa using calm)] at here
          refine .act (.wallet a) (.inl here) ?_
          rw [here, List.append_nil]
          exact ih (x.reduce (.wallet a)) later

/-! ## From start to lock -/

theorem attach_views (views : List View) {s : Session clients} (rests : Resting s)
    (alone : s.arrivals = []) (silent : ∀ v ∈ views, View.commands s.snapshot v = []) :
    let attached := { s with
      registered := s.registered + views.length
      observers := s.observers ++ (views.zipIdx s.registered).map fun p => post p.2 p.1 }
    Resting attached ∧ ∃ journal,
      views.foldl (fun s v => s.subscribe bound v.subscriber v.aspect.differs v) s =
        { attached with journal := journal } := by
  induction views generalizing s with
  | nil => exact ⟨by simpa using rests, s.journal, by simp⟩
  | cons v views ih =>
      let joined : Session clients := { s with
        registered := s.registered + 1
        observers := s.observers ++ [post s.registered v] }
      obtain ⟨rests', events, -, same⟩ : Resting joined ∧ ∃ events : List (Event clients),
          course events = [.observed s.registered v s.snapshot] ∧
            s.subscribe bound v.subscriber v.aspect.differs v =
              { joined with journal := s.journal ++ events } :=
        rests.subscribe alone bound v.subscriber v.aspect.differs (silent v (by simp))
      obtain ⟨rests'', journal, later⟩ := ih (rests'.written (s.journal ++ events)) alone
        fun v member => silent v (by simp [member])
      have count : s.registered + 1 + views.length = s.registered + (v :: views).length := by
        rw [List.length_cons, Nat.add_right_comm, Nat.add_assoc]
      have entries : joined.observers ++
          (views.zipIdx joined.registered).map (fun p => post p.2 p.1) =
            s.observers ++ ((v :: views).zipIdx s.registered).map fun p => post p.2 p.1 :=
        List.append_assoc s.observers [post s.registered v] _
      refine ⟨?_, journal, ?_⟩
      · rw [← entries, ← count]
        exact rests''.written s.journal
      · rw [List.foldl_cons, same, later, ← entries, ← count]

def synced (p : Persisted) : Snapshot :=
  { Snapshot.initial p with
    loginRequired := true
    alert := some .resolvedSuccess
    wallet := { Wallet.initial with
      connected := true
      syncProgress := .one
      lastBlockTimestamp := 1500006000
      syncState := .success
      balance := some 250000
      transactions := [transaction] } }

theorem reports_fold : reports.foldl Wallet.reduce Wallet.initial = (synced .standard).wallet := by
  decide +kernel

theorem attach_stands {s : Session clients} (rests : Resting s) (alone : s.arrivals = [])
    (silent : ∀ v, View.commands s.snapshot v = []) (observers : s.observers = [])
    (listeners : s.listeners = []) (registered : s.registered = 0) :
    Stands False s.world s.snapshot [] (attach s) := by
  obtain ⟨rests', journal, attached⟩ := attach_views View.all rests alone fun v _ => silent v
  have still := rests'.written journal
  obtain ⟨events, -, locked⟩ := still.subscribeTrigger alone lockId .lock ()
  rw [attach, attached, locked]
  have nothing : s.inflow = [] := by simp [inflow, rests.channel, alone]
  refine ⟨?_, ?_, rfl, rfl, ?_, fun id member => ?_, fun _ => alone⟩
  · change s.observers ++ (View.all.zipIdx s.registered).map (fun p => post p.2 p.1) = posts
    rw [observers, registered]
    rfl
  · change s.listeners ++ [⟨s.registered + View.all.length, lockId, .lock, (), true⟩] = locks
    rw [listeners, registered]
    rfl
  · change s.pending ++ s.inflow.filterMap Command.work? = []
    rw [nothing, rests.pending]
    rfl
  · change .unsubscribe id ∈ s.inflow at member
    rw [nothing] at member
    cases member

theorem reports_alertLast : alertLast Wallet.initial reports = true := by decide +kernel

theorem notices_written (ns : List Notice) (s : Session clients) :
    ∃ journal, ns.foldl notice s = { s with journal := journal } := by
  induction ns generalizing s with
  | nil => exact ⟨s.journal, rfl⟩
  | cons n ns ih =>
      obtain ⟨journal, rest⟩ := ih (s.notice n)
      exact ⟨journal, by rw [List.foldl_cons, rest]; rfl⟩

theorem watched_eq (ws : List (Watcher Surroundings.services)) (s : Session clients) :
    ∃ ms journal, ws.foldl (fun s w => s.addMiddleware (.inl w)) s =
      { s with middleware := ms, journal := journal } := by
  induction ws generalizing s with
  | nil => exact ⟨s.middleware, s.journal, rfl⟩
  | cons w ws ih =>
      obtain ⟨ms, journal, rest⟩ := ih (s.addMiddleware (.inl w))
      exact ⟨ms, journal, by rw [List.foldl_cons, rest]; rfl⟩

theorem engine_work : engine.filterMap Command.work? = reports.map fun a => .action (.wallet a) := by
  simp [engine, Command.work?, Function.comp_def]

theorem finish_synced {schedule : Schedule} (all : schedule.portions.flatten = engine)
    (c : Configuration) (p : PreferenceStore) (fs : Files) :
    let s := finish schedule c p fs
    s.snapshot = synced (Persisted.load p.lookup).1 ∧ s.world.1.files = fs ∧ Resting s := by
  let loaded := Persisted.load p.lookup
  let w : clients.World := (⟨fs, [p], []⟩, ())
  let x : Snapshot := .initial loaded.1
  let new := Session.start (.new clients x) w
  obtain ⟨journal, told⟩ := notices_written (loaded.2 ++ loaded.1.notices) new
  obtain ⟨ms, journal', watched⟩ := watched_eq (watchers c) { new with journal := journal }
  let ready : Session clients := { new with middleware := ms, journal := journal' }
  have rests : Resting ready :=
    ⟨rfl, rfl, by simp [ready, new, start, Store.new], by simp [ready, new, start, Store.new]⟩
  have silent (v : View) : v.commands ready.snapshot = [] := by
    cases v <;> rfl
  have attached : Stands False w x [] (attach ready) := attach_stands rests rfl silent rfl rfl rfl
  -- the user logs in
  have asked := attached.submitted (.issued .direct (.dispatch (.startup .loginSuccess)))
    (.action (.startup .loginSuccess))
  have logged := (run_arrives bound id (by decide)
    ⟨_, _, _, Nat.le_refl 1, login_leads x, asked⟩).1
  let x' := { x with loginRequired := false }
  -- the engine reports
  have steady (id : SubscriberId) : .unsubscribe id ∉ schedule.portions.flatten := by
    rw [all]
    simp [engine]
  have opened := logged.opened steady
  rw [all, engine_work] at opened
  have reported := reports_lead x' reports reports_alertLast
  have worked := (repeat_heads schedule.rounds bound ⟨_, _, _, Nat.le_refl _, reported, opened⟩).join
  have done := (run_arrives bound id (by decide) worked).1
  -- the wallet is locked
  have locks := done.submitted (.issued .direct (.trigger .lock)) (.trigger .lock)
  obtain ⟨ended, rests⟩ := run_arrives bound id (by decide)
    ⟨_, _, _, Nat.le_refl 2, lock_leads _, locks⟩
  have same : finish schedule c p fs =
      (synchronise schedule
        ((attach ready).dispatch bound (.startup .loginSuccess))).trigger bound .lock := by
    simp only [finish]
    rw [told, watched]
  rw [same]
  refine ⟨ended.snapshot.trans ?_, congrArg (·.1.files) ended.world, rests⟩
  have wallet : reports.foldl Wallet.reduce x'.wallet = (synced loaded.1).wallet := reports_fold
  rw [wallet]
  rfl

/-! ## The whole program -/

def loaded (c : Configuration) (env : Environment) (fs : Files) : Persisted :=
  match c.preferencesPath env fs with
  | (.error _, _) => .standard
  | (.ok path, fs) =>
    match PreferenceFile.open fs path with
    | .error _ => .standard
    | .ok (f, _) => (Persisted.load fun key => .ok (f.table.get? key)).1

theorem load_empty : (Persisted.load (PreferenceStore.memory .empty).lookup).1 = .standard :=
  Persisted.load_eq_ofKeys fun _ => rfl

theorem load_opened (c : Configuration) (env : Environment) (fs : Files) :
    (Persisted.load (openPreferences c env fs).1.lookup).1 = loaded c env fs := by
  unfold openPreferences loaded
  obtain ⟨found, fs'⟩ := c.preferencesPath env fs
  cases found with
  | error e => exact load_empty
  | ok path =>
      dsimp only
      cases PreferenceFile.open fs' path with
      | error e => exact load_empty
      | ok opened => rfl

theorem grown_directory (env : Environment) (fs : Files) :
    Files.Grown fs (env.directory fs).2 := by
  unfold Environment.directory
  split
  · exact .refl fs
  · rename_i base _
    have made := Files.grown_makeDirectories fs (Path.join base "wallet-store")
    dsimp only
    split
    · rename_i same
      rwa [same] at made
    · rename_i same
      rwa [same] at made

theorem grown_preferencesPath (c : Configuration) (env : Environment) (fs : Files) :
    Files.Grown fs (c.preferencesPath env fs).2 := by
  unfold Configuration.preferencesPath
  split
  · exact .refl fs
  · exact grown_directory env fs

theorem grown_openPreferences (c : Configuration) (env : Environment) (fs : Files) :
    Files.Grown fs (openPreferences c env fs).2.1 := by
  have located := grown_preferencesPath c env fs
  unfold openPreferences
  revert located
  obtain ⟨found, fs'⟩ := c.preferencesPath env fs
  intro located
  cases found with
  | error e => exact located
  | ok path =>
      dsimp only
      cases PreferenceFile.open fs' path with
      | error e => exact located
      | ok opened => exact located

theorem exitCode_execute (log : Option Level) (schedule : Schedule) (env : Environment)
    (requested : Option String) (fs : Files) :
    (execute log schedule env requested fs).exitCode = if log.isSome then 1 else 0 := by
  cases log with
  | some l => rfl
  | none => simp [execute, Snapshot.printed?_json, Result.exitCode]

theorem run_eq (schedule : Schedule) (env : Environment) (requested : Option String) (fs : Files) :
    let c := (Configuration.load env fs).1
    let opened := openPreferences c env fs
    let s := finish schedule c opened.1 opened.2.1
    (run schedule env requested fs).output = s.snapshot.json.pretty ++ "\n" ∧
      (run schedule env requested fs).files = s.world.1.files := by
  intro c opened s
  simp [run, execute, Snapshot.printed?_json, s, opened, c]

/-- However the reports of the engine come in, and whatever the files hold: the program ends
normally, with nothing left to do, and prints the synchronised snapshot over the settings that were
loaded. Every file that could be read before can be read after, with the same content. -/
theorem run_synced {schedule : Schedule} (all : schedule.portions.flatten = engine)
    (env : Environment) (requested : Option String) (fs : Files) :
    let c := (Configuration.load env fs).1
    let opened := openPreferences c env fs
    let result := run schedule env requested fs
    result.exitCode = 0 ∧
      result.output = (synced (loaded c env fs)).json.pretty ++ "\n" ∧
      Resting (finish schedule c opened.1 opened.2.1) ∧
      ∀ path content, fs.read path = .ok content → result.files.read path = .ok content := by
  intro c opened result
  obtain ⟨snapshot, files, rests⟩ := finish_synced all c opened.1 opened.2.1
  obtain ⟨printed, left⟩ := run_eq schedule env requested fs
  refine ⟨exitCode_execute none schedule env requested fs, ?_, rests, fun path content read => ?_⟩
  · rw [printed, snapshot, load_opened]
  · rw [left, files]
    exact (grown_openPreferences c env fs).read read

theorem halves_synced :
    let schedule : Schedule := ⟨[engine.take 8, [], engine.drop 8], 2⟩
    let fs := fileWith "istouchidenabled = true\n"
    let result := run schedule ⟨none, none, none⟩ none fs
    schedule.portions.flatten = engine ∧
      result.output = (synced .standard).json.pretty ++ "\n" ∧
      result.files.read "p" = .ok (.text "istouchidenabled = true\n") := by
  intro schedule fs result
  have all : schedule.portions.flatten = engine := by simp [schedule]
  obtain ⟨-, output, -, kept⟩ := run_synced all ⟨none, none, none⟩ none fs
  exact ⟨all, output, kept "p" _ rfl⟩

end Simulation
end WalletLoop
