import WalletLoop.Proofs.Session.Inflow

namespace WalletLoop

variable {C : Clients}

structure Clients.Silent (C : Clients) : Prop where
  consult : ∀ m a s w, (C.consult m a s w).sent = []
  observe : ∀ o s w, (C.observe o s w).sent = []
  hear : ∀ l t w, (C.hear l t w).sent = []

def Operation.polls : Operation C → Bool
  | .processPending | .send _ => true
  | _ => false

def Operation.sends : Operation C → List Command
  | .send cs => cs
  | _ => []

def Call.commands (c : Call C) : List Command := c.operation.sends ++ c.arrivals.flatten

namespace Session

def traffic (s : Session C) : List Command := issued .channel s.journal ++ s.arrivals.flatten

def Conserved (s s' : Session C) : Prop := s'.feed = s.feed ∧ s'.traffic = s.traffic

theorem Conserved.refl (s : Session C) : Conserved s s := ⟨rfl, rfl⟩

theorem Conserved.trans {s s' s'' : Session C} (first : Conserved s s')
    (second : Conserved s' s'') : Conserved s s'' :=
  ⟨second.1.trans first.1, second.2.trans first.2⟩

theorem issued_notices (route : Route) (ns : List Notice) :
    issued route (ns.map .noticed : List (Event C)) = [] := by
  simp [issued]

theorem note_conserved (s : Session C) {e : Event C} (aside : issued .channel [e] = []) :
    Conserved s (s.note e) := by
  refine ⟨rfl, ?_⟩
  rw [traffic, note, issued_append, aside, List.append_nil]
  rfl

theorem notices_conserved (s : Session C) (ns : List Notice) :
    Conserved s { s with journal := s.journal ++ ns.map .noticed } := by
  refine ⟨rfl, ?_⟩
  rw [traffic, issued_append, issued_notices, List.append_nil]
  rfl

theorem issued_puts (cs : List Command) :
    issued .channel (cs.map (.issued .channel) : List (Event C)) = cs := by
  induction cs with
  | nil => rfl
  | cons c cs ih => simp [issued] at ih ⊢

theorem traffic_collect (s : Session C) : s.collect.traffic = s.traffic := by
  obtain ⟨ns, same⟩ := emptyChannel_eq s.arrive
  have last (cs : List Command) (os ls : List Nat) :
      issued .channel [(.collected cs os ls : Event C)] = [] := rfl
  rw [collect, same, arrive_eq]
  simp only [traffic, emptied, issued_append, issued_puts, issued_notices, last, List.append_nil,
    List.append_assoc]
  cases s.arrivals <;> rfl

theorem collect_conserved (s : Session C) : Conserved s s.collect :=
  ⟨feed_collect s, traffic_collect s⟩

theorem call_conserved {Client : Type} (s : Session C) {e : Event C} {r : Reply Client C.World}
    (aside : issued .channel [e] = []) (silent : r.sent = []) :
    Conserved s ((s.note e).absorb r) := by
  rw [absorb_silent _ silent]
  exact (note_conserved s aside).trans (notices_conserved (s.note e) r.notices)

section Silent
variable (silent : C.Silent)
include silent

theorem notifyAt_conserved (previous : Snapshot) (s : Session C) (i : Nat) :
    Conserved s (notifyAt previous s i) := by
  refine (collect_conserved s).trans ?_
  unfold notifyAt
  dsimp only
  split
  · rename_i o at_i
    split
    · exact call_conserved s.collect (e := .observed o.number o.client s.collect.snapshot) rfl
        (silent.observe ..)
    · exact .refl _
  · exact .refl _

theorem fireAt_conserved (t : Trigger) (s : Session C) (i : Nat) :
    Conserved s (fireAt t s i) := by
  refine (collect_conserved s).trans ?_
  unfold fireAt
  dsimp only
  split
  · rename_i l at_i
    split
    · exact call_conserved s.collect (e := .heard l.number l.client t) rfl (silent.hear ..)
    · exact .refl _
  · exact .refl _

end Silent

theorem turns_conserved {turn : Session C → Nat → Session C}
    (conserved : ∀ s i, Conserved s (turn s i)) (s : Session C) (positions : List Nat) :
    Conserved s (positions.foldl turn s) := by
  induction positions generalizing s with
  | nil => exact .refl s
  | cons i positions ih => exact (conserved s i).trans (ih (turn s i))

section Silent
variable (silent : C.Silent)
include silent

theorem consult_conserved (a : Action) (s : Session C) (ms : List C.Middleware) :
    Conserved s (consult a ms s).2.1 := by
  induction ms generalizing s with
  | nil => exact .refl s
  | cons m ms ih =>
      let v := C.consult m a s.snapshot s.world
      have called : Conserved s ((s.note (.consulted m a s.snapshot v.passes)).absorb v.toReply) :=
        call_conserved s rfl (silent.consult ..)
      unfold consult
      dsimp only
      split
      · exact called.trans (ih _)
      · exact called

theorem perform_conserved (s : Session C) (w : Work) : Conserved s (s.perform w) := by
  have took : Conserved s (s.note (.took w)) := note_conserved s rfl
  have done (s : Session C) : Conserved s (s.note (.finished w)) := note_conserved s rfl
  cases w with
  | action a =>
      refine took.trans (.trans ?_ (done _))
      have asked := consult_conserved silent a (s.note (.took (.action a))) s.middleware
      unfold apply
      dsimp only
      split
      · refine asked.trans (.trans (note_conserved _ (e := .applied a) rfl) ?_)
        refine (notices_conserved _ a.notices).trans ?_
        exact turns_conserved (notifyAt_conserved silent _) _ _
      · exact asked.trans (note_conserved _ (e := .noticed (.consumed a)) rfl)
  | trigger t =>
      refine took.trans (.trans ?_ (done _))
      refine (note_conserved _ (e := .noticed (.fired t)) rfl).trans ?_
      exact turns_conserved (fireAt_conserved silent t) _ _

end Silent

def due (s : Session C) : List Work := s.pending ++ s.channel.filterMap Command.work?

def Worked (done : List Work) (s s' : Session C) : Prop :=
  ∃ cs, issued .channel s'.journal = issued .channel s.journal ++ cs ∧
    s.due ++ cs.filterMap Command.work? = done ++ s'.due

theorem Worked.refl (s : Session C) : Worked [] s s := ⟨[], by simp, by simp⟩

theorem Worked.trans {done done' : List Work} {s s' s'' : Session C} (first : Worked done s s')
    (second : Worked done' s' s'') : Worked (done ++ done') s s'' := by
  obtain ⟨cs, came, worked⟩ := first
  obtain ⟨cs', came', worked'⟩ := second
  refine ⟨cs ++ cs', by rw [came', came, List.append_assoc], ?_⟩
  rw [List.filterMap_append, ← List.append_assoc, worked, List.append_assoc, worked',
    List.append_assoc]

theorem feed_eq (s : Session C) :
    s.feed = s.due ++ s.arrivals.flatten.filterMap Command.work? := by
  rw [feed, due, inflow, List.filterMap_append, List.append_assoc]

theorem worked_of_feed {done : List Work} {s s' : Session C} (grown : s.journal <+: s'.journal)
    (feed : s.feed = done ++ s'.feed) (traffic : s'.traffic = s.traffic) : Worked done s s' := by
  obtain ⟨events, journal⟩ := grown
  have came : issued .channel s'.journal =
      issued .channel s.journal ++ issued .channel events := by
    rw [← journal, issued_append]
  have arrived : issued .channel events ++ s'.arrivals.flatten = s.arrivals.flatten := by
    rw [Session.traffic, Session.traffic, came, List.append_assoc] at traffic
    exact List.append_cancel_left traffic
  refine ⟨issued .channel events, came, ?_⟩
  rw [feed_eq, feed_eq, ← arrived, List.filterMap_append] at feed
  simp only [← List.append_assoc] at feed
  exact List.append_cancel_right feed

/-- What two sessions agree on, if it depends on the work that was done and on nothing else. Commands
may come in if they are admitted. -/
structure Replay (Admits : Command → Prop) (Agree : Session C → Session C → Prop) : Prop where
  perform : ∀ {s t} w, Agree s t → Agree (s.perform w) (t.perform w)
  pending : ∀ {s t} pending, Agree s t → Agree { s with pending := pending } t
  collect : ∀ {s t}, Agree s t → Agree s.collect t
  compact : ∀ {s t}, Agree s t → Agree s.compact t
  arrive : ∀ {s t}, Agree s t → Agree s.arrive t
  put : ∀ {s t c}, Admits c → Agree s t → Agree (s.put c) t
  arrivals : ∀ {s t later}, (∀ c ∈ later.flatten, Admits c) → Agree s t →
    Agree { s with arrivals := later } t

namespace Replay

variable {Admits : Command → Prop} {Agree : Session C → Session C → Prop} {s t : Session C}

theorem drain (replay : Replay Admits Agree) (silent : C.Silent) (bound : Nat) (agree : Agree s t) :
    ∃ done, s.feed = done ++ (drain bound s).feed ∧ (drain bound s).traffic = s.traffic ∧
      Agree (drain bound s) (done.foldl Session.perform t) := by
  induction bound generalizing s t with
  | zero => exact ⟨[], rfl, rfl, agree⟩
  | succ bound ih =>
      unfold Session.drain
      split
      · exact ⟨[], rfl, rfl, agree⟩
      · rename_i w later next
        let left := { s with pending := later }
        have performed : Agree (left.perform w).collect.compact (t.perform w) :=
          replay.compact (replay.collect (replay.perform w (replay.pending later agree)))
        have conserved : Conserved left (left.perform w).collect.compact :=
          (perform_conserved silent left w).trans (collect_conserved _)
        obtain ⟨done, feed, traffic, agree'⟩ := ih performed
        refine ⟨w :: done, ?_, traffic.trans conserved.2, agree'⟩
        calc s.feed
          _ = w :: left.feed := by rw [Session.feed, next]; rfl
          _ = w :: (done ++ _) := by rw [← feed, conserved.1]

theorem run (replay : Replay Admits Agree) (silent : C.Silent) (bound : Nat) (agree : Agree s t) :
    ∃ done, Worked done s (s.run bound) ∧ Agree (s.run bound) (done.foldl Session.perform t) := by
  obtain ⟨done, feed, traffic, agree'⟩ := replay.drain silent bound (replay.collect agree)
  refine ⟨done, worked_of_feed (journal_moves (run_moves bound s)) ?_ ?_, replay.compact agree'⟩
  · exact (feed_collect s).symm.trans feed
  · exact traffic.trans (traffic_collect s)

theorem put_worked (s : Session C) (c : Command) : Worked [] s (s.put c) := by
  refine ⟨[c], issued_append .channel s.journal [.issued .channel c], ?_⟩
  simp [due, Session.put, note, List.filterMap_append]

theorem arrive_worked (s : Session C) : Worked [] s s.arrive := by
  refine ⟨s.arrivals.headD [], ?_, ?_⟩
  · rw [arrive_eq, issued_append, issued_puts]
  · rw [arrive_eq]
    simp [due, arrived, List.filterMap_append]

theorem send (replay : Replay Admits Agree) {cs : List Command} (admitted : ∀ c ∈ cs, Admits c)
    (agree : Agree s t) : Worked [] s (s.send cs) ∧ Agree (s.send cs) t := by
  induction cs generalizing s with
  | nil => exact ⟨.refl s, agree⟩
  | cons c cs ih =>
      obtain ⟨here, later⟩ := List.forall_mem_cons.1 admitted
      obtain ⟨worked, agree'⟩ := ih later (replay.put here (replay.arrive agree))
      exact ⟨(arrive_worked s).trans ((put_worked s.arrive c).trans worked), agree'⟩

theorem serve (replay : Replay Admits Agree) (silent : C.Silent) {c : Call C}
    (polls : c.operation.polls = true) (admitted : ∀ c' ∈ c.commands, Admits c')
    (agree : Agree s t) :
    ∃ done, Worked done s (s.serve c) ∧ Agree (s.serve c) (done.foldl Session.perform t) := by
  obtain ⟨operation, bound, arrivals⟩ := c
  obtain ⟨sends, arrive⟩ := List.forall_mem_append.1 admitted
  have ready : Agree { s with arrivals := arrivals } t := replay.arrivals arrive agree
  cases operation with
  | processPending => exact replay.run silent bound ready
  | send cs => exact ⟨[], replay.send sends ready⟩
  | _ => cases polls

theorem serves (replay : Replay Admits Agree) (silent : C.Silent) {calls : List (Call C)}
    (polls : ∀ c ∈ calls, c.operation.polls = true)
    (admitted : ∀ c ∈ calls, ∀ c' ∈ c.commands, Admits c') (agree : Agree s t) :
    ∃ done, Worked done s (calls.foldl Session.serve s) ∧
      Agree (calls.foldl Session.serve s) (done.foldl Session.perform t) := by
  induction calls generalizing s t with
  | nil => exact ⟨[], .refl s, agree⟩
  | cons c calls ih =>
      obtain ⟨here, later⟩ := List.forall_mem_cons.1 polls
      obtain ⟨admits, admits'⟩ := List.forall_mem_cons.1 admitted
      obtain ⟨done, worked, agree'⟩ := replay.serve silent here admits agree
      obtain ⟨done', worked', agree''⟩ := ih later admits' agree'
      exact ⟨done ++ done', worked.trans worked', by rwa [List.foldl_append]⟩

theorem agree (replay : Replay Admits Agree) (silent : C.Silent) {first second : List (Call C)}
    (polls : ∀ c ∈ first ++ second, c.operation.polls = true)
    (admitted : ∀ c ∈ first ++ second, ∀ c' ∈ c.commands, Admits c') (agree : Agree s t)
    (rests : Resting (first.foldl Session.serve s)) (rests' : Resting (second.foldl Session.serve s))
    (same : issued .channel (first.foldl Session.serve s).journal =
      issued .channel (second.foldl Session.serve s).journal) :
    ∃ t, Agree (first.foldl Session.serve s) t ∧ Agree (second.foldl Session.serve s) t := by
  obtain ⟨polls, polls'⟩ := List.forall_mem_append.1 polls
  obtain ⟨admits, admits'⟩ := List.forall_mem_append.1 admitted
  obtain ⟨done, ⟨cs, came, worked⟩, one⟩ := replay.serves silent polls admits agree
  obtain ⟨done', ⟨cs', came', worked'⟩, other⟩ := replay.serves silent polls' admits' agree
  have nothing {t : Session C} (rests : Resting t) : t.due = [] := by
    simp [due, rests.channel, rests.pending]
  obtain rfl : cs = cs' := by
    rw [came, came'] at same
    exact List.append_cancel_left same
  rw [nothing rests, List.append_nil] at worked
  rw [nothing rests', List.append_nil] at worked'
  exact ⟨_, one, by rwa [← worked, worked']⟩

end Replay

end Session
end WalletLoop
