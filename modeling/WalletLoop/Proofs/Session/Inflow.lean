import WalletLoop.Proofs.Session.Course
import WalletLoop.Proofs.Session.Quiescence
import WalletLoop.Proofs.Session.World

namespace WalletLoop.Session

variable {C : Clients}

def arrived (s : Session C) : List Command := s.channel ++ s.arrivals.headD []

def inflow (s : Session C) : List Command := s.channel ++ s.arrivals.flatten

/-- The work that is on its way, in the order in which it will be done if nobody sends more. -/
def feed (s : Session C) : List Work := s.pending ++ s.inflow.filterMap Command.work?

def Steady (s : Session C) : Prop := ∀ id, .unsubscribe id ∉ s.inflow

theorem puts_eq (s : Session C) (cs : List Command) :
    cs.foldl put s = { s with
      channel := s.channel ++ cs
      journal := s.journal ++ cs.map (.issued .channel) } := by
  induction cs generalizing s with
  | nil => simp
  | cons c cs ih => simp [ih, put, note]

theorem arrive_eq (s : Session C) :
    s.arrive = { s with
      channel := s.arrived
      arrivals := s.arrivals.tail
      journal := s.journal ++ (s.arrivals.headD []).map (.issued .channel) } :=
  puts_eq _ _

theorem collect_eq (s : Session C) :
    ∃ events : List (Event C), (∀ e ∈ events, e.inCourse = false) ∧ s.collect = { s with
      channel := []
      arrivals := s.arrivals.tail
      pending := s.pending ++ s.arrived.filterMap Command.work?
      observers := s.observers.map (·.afterwards s.arrived)
      listeners := s.listeners.map (·.afterwards s.arrived)
      journal := s.journal ++ events } := by
  obtain ⟨-, events, journal, aside⟩ := collect_aside s
  refine ⟨events, aside, ?_⟩
  obtain ⟨ns, same⟩ := emptyChannel_eq s.arrive
  rw [← journal, collect, same, arrive_eq]
  rfl

theorem absorb_silent {Client : Type} (s : Session C) {r : Reply Client C.World}
    (silent : r.sent = []) :
    s.absorb r = { s with world := r.world, journal := s.journal ++ r.notices.map .noticed } := by
  simp [absorb, silent, send]

theorem observe_silent (s : Session C) (o : Subscription Selector C.Observer)
    (silent : (C.observe o.client s.snapshot s.world).sent = []) :
    let r := C.observe o.client s.snapshot s.world
    s.observe o = (r, { s with
      world := r.world
      journal := s.journal ++ .observed o.number o.client s.snapshot ::
        r.notices.map .noticed }) := by
  have quiet := absorb_silent (s.note (.observed o.number o.client s.snapshot)) silent
  simp only [observe, quiet]
  simp [note]

theorem absorb_world {Client : Type} (s : Session C) (r : Reply Client C.World) :
    (s.absorb r).world = r.world :=
  (absorb_aside s r).world

theorem arrivals_flatten (s : Session C) :
    s.arrivals.flatten = s.arrivals.headD [] ++ s.arrivals.tail.flatten := by
  cases s.arrivals <;> rfl

theorem arrived_flatten (s : Session C) : s.arrived ++ s.arrivals.tail.flatten = s.inflow := by
  rw [arrived, inflow, arrivals_flatten, List.append_assoc]

theorem Steady.arrived {s : Session C} (steady : s.Steady) (id : SubscriberId) :
    .unsubscribe id ∉ s.arrived := by
  have none := steady id
  rw [← arrived_flatten, List.mem_append, not_or] at none
  exact none.1

theorem afterwards_others {Interest Client : Type} {cs : List Command}
    (none : ∀ id, .unsubscribe id ∉ cs) (entries : List (Subscription Interest Client)) :
    entries.map (·.afterwards cs) = entries := by
  have same (o : Subscription Interest Client) : o.afterwards cs = o := if_neg (none o.id)
  simp [same]

theorem feed_collect (s : Session C) : s.collect.feed = s.feed := by
  obtain ⟨events, -, same⟩ := collect_eq s
  rw [same]
  simp only [feed, inflow, List.nil_append, List.append_assoc]
  rw [← List.filterMap_append, arrived_flatten, inflow]

theorem Steady.collect {s : Session C} (steady : s.Steady) : s.collect.Steady := by
  obtain ⟨events, -, same⟩ := collect_eq s
  intro id member
  refine steady id ?_
  rw [← arrived_flatten]
  rw [same] at member
  exact List.mem_append_right _ (by simpa [inflow] using member)

theorem Steady.collect_eq {s : Session C} (steady : s.Steady) :
    ∃ events : List (Event C), (∀ e ∈ events, e.inCourse = false) ∧ s.collect = { s with
      channel := []
      arrivals := s.arrivals.tail
      pending := s.pending ++ s.arrived.filterMap Command.work?
      journal := s.journal ++ events } := by
  obtain ⟨events, aside, same⟩ := Session.collect_eq s
  rw [afterwards_others steady.arrived, afterwards_others steady.arrived] at same
  exact ⟨events, aside, same⟩

theorem Steady.inflow_nil {s : Session C} (steady : s.Steady) (none : s.feed = []) :
    s.inflow = [] := by
  obtain ⟨-, idle⟩ := List.append_eq_nil_iff.1 none
  refine List.eq_nil_iff_forall_not_mem.2 fun c member => ?_
  have asks := List.filterMap_eq_nil_iff.1 idle c member
  cases c with
  | unsubscribe id => exact steady id member
  | _ => cases asks

theorem send_eq {s : Session C} (last : s.arrivals.flatten = []) (cs : List Command) :
    ∃ events : List (Event C), s.send cs = { s with
      channel := s.channel ++ cs
      arrivals := s.arrivals.drop cs.length
      journal := s.journal ++ events } := by
  induction cs generalizing s with
  | nil => exact ⟨[], by simp [send]⟩
  | cons c cs ih =>
      have nothing : s.arrivals.headD [] = [] ∧ s.arrivals.tail.flatten = [] := by
        revert last
        cases s.arrivals <;> simp
      obtain ⟨events, rest⟩ := ih (s := s.arrive.put c) (by rw [arrive_eq]; exact nothing.2)
      refine ⟨.issued .channel c :: events, ?_⟩
      rw [send, List.foldl_cons, ← send, rest, arrive_eq]
      simp only [put, note, arrived, nothing.1]
      simp

theorem absorb_inflow {Client : Type} {s : Session C} {r : Reply Client C.World}
    (last : r.sent = [] ∨ s.arrivals.flatten = []) :
    (s.absorb r).inflow = s.inflow ++ r.sent := by
  by_cases silent : r.sent = []
  · rw [absorb_silent s silent, silent, List.append_nil]
    rfl
  · have last := last.resolve_left silent
    obtain ⟨events, same⟩ := send_eq (s := { s with world := r.world }) last r.sent
    have later : (s.arrivals.drop r.sent.length).flatten = [] := by
      rw [List.flatten_eq_nil_iff] at last ⊢
      exact fun cs member => last cs (List.mem_of_mem_drop member)
    rw [absorb, same]
    simp [inflow, last, later]

theorem absorb_alone {Client : Type} {s : Session C} (alone : s.arrivals = [])
    (r : Reply Client C.World) : (s.absorb r).arrivals = [] := by
  obtain ⟨events, same⟩ := send_eq (s := { s with world := r.world }) (by simp [alone]) r.sent
  rw [absorb, same]
  simp [alone]

section Rest
variable {s : Session C}

theorem Resting.written (rests : Resting s) (journal : List (Event C)) :
    Resting { s with journal := journal } :=
  ⟨rests.1, rests.2, rests.3, rests.4⟩

theorem course_aside {events : List (Event C)} (aside : ∀ e ∈ events, e.inCourse = false) :
    course events = [] :=
  List.filter_eq_nil_iff.2 fun e member => by simp [aside e member]

theorem Resting.collect (rests : Resting s) (alone : s.arrivals = []) :
    ∃ events : List (Event C), course events = [] ∧
      s.collect = { s with journal := s.journal ++ events } := by
  have nothing : s.arrived = [] := by simp [arrived, rests.channel, alone]
  obtain ⟨events, aside, same⟩ := collect_eq s
  refine ⟨events, course_aside aside, ?_⟩
  rw [nothing, afterwards_others (by simp), afterwards_others (by simp), alone] at same
  have here : s = { s with channel := [], arrivals := [] } := by rw [← rests.channel, ← alone]
  rw [same, here]
  simp

theorem Resting.run (rests : Resting s) (alone : s.arrivals = []) (bound : Nat) :
    ∃ events : List (Event C), course events = [] ∧
      s.run bound = { s with journal := s.journal ++ events } := by
  obtain ⟨events, aside, same⟩ := rests.collect alone
  refine ⟨events, aside, ?_⟩
  have still := rests.written (s.journal ++ events)
  rw [Session.run, same, drain_done bound still.pending, still.compact]

theorem Resting.subscribe (rests : Resting s) (alone : s.arrivals = []) (bound : Nat)
    (id : SubscriberId) (interest : Selector) {client : C.Observer}
    (silent : (C.observe client s.snapshot s.world).sent = []) :
    let r := C.observe client s.snapshot s.world
    let joined := { s with
      registered := s.registered + 1
      observers := s.observers ++ [⟨s.registered, id, interest, r.client, true⟩]
      world := r.world }
    Resting joined ∧ ∃ events : List (Event C),
      course events = [.observed s.registered client s.snapshot] ∧
        s.subscribe bound id interest client =
          { joined with journal := s.journal ++ events } := by
  intro r joined
  have rests' : Resting joined := by
    refine ⟨rests.channel, rests.pending, fun o member => ?_, rests.listeners⟩
    rcases List.mem_append.1 member with earlier | new
    · exact rests.observers o earlier
    · rw [List.mem_singleton.1 new]
  refine ⟨rests', ?_⟩
  obtain ⟨events, looks, same⟩ := rests.collect alone
  have welcomed : ∃ events : List (Event C),
      course events = [.observed s.registered client s.snapshot] ∧
        (s.welcome id interest client).notice (.subscribed id) =
          { joined with journal := s.journal ++ events } := by
    have said : course (r.notices.map .noticed : List (Event C)) = [] := by
      simp [course, Event.inCourse]
    refine ⟨events ++ .registered .observer s.registered id ::
      .observed s.registered client s.snapshot :: r.notices.map .noticed ++
        [.noticed (.subscribed id)], ?_, ?_⟩
    · rw [course_append, course_append, looks]
      change [_] ++ course (r.notices.map .noticed) ++ [] = _
      rw [said]
      rfl
    · simp only [welcome, same]
      rw [observe_silent _ _ silent]
      simp [joined, r, notice, note]
  obtain ⟨sofar, greeted, welcomed⟩ := welcomed
  obtain ⟨later, aside, ran⟩ := (rests'.written (s.journal ++ sofar)).run alone bound
  refine ⟨sofar ++ later, ?_, by rw [subscribe_eq, welcomed, ran, List.append_assoc]⟩
  rw [course_append, greeted, aside, List.append_nil]

theorem Resting.subscribeTrigger (rests : Resting s) (alone : s.arrivals = [])
    (id : SubscriberId) (t : Trigger) (client : C.Listener) :
    ∃ events : List (Event C), course events = [] ∧ s.subscribeTrigger id t client = { s with
      registered := s.registered + 1
      listeners := s.listeners ++ [⟨s.registered, id, t, client, true⟩]
      journal := s.journal ++ events } := by
  obtain ⟨events, looks, same⟩ := rests.collect alone
  have still := rests.written (s.journal ++ events)
  refine ⟨events ++ [.registered .listener s.registered id], ?_, ?_⟩
  · rw [course_concat, looks]
    rfl
  · simp only [Session.subscribeTrigger, same, still.compact]
    simp [note]

end Rest
end WalletLoop.Session
