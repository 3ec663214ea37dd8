import WalletLoop.Proofs.Session.Course

namespace WalletLoop

variable {C : Clients}

def Event.effect (w : C.World) : Event C → C.World
  | .consulted m a s _ => (C.consult m a s w).world
  | .observed _ o s => (C.observe o s w).world
  | .heard _ l t => (C.hear l t w).world
  | _ => w

namespace Session

def worldAfter (w : C.World) (events : List (Event C)) : C.World :=
  events.foldl (fun w e => e.effect w) w

theorem worldAfter_append (w : C.World) (events more : List (Event C)) :
    worldAfter w (events ++ more) = worldAfter (worldAfter w events) more :=
  List.foldl_append

theorem worldAfter_aside (w : C.World) {events : List (Event C)}
    (aside : ∀ e ∈ events, e.inCourse = false) : worldAfter w events = w := by
  induction events generalizing w with
  | nil => rfl
  | cons e events ih =>
      obtain ⟨here, rest⟩ := List.forall_mem_cons.1 aside
      have still : e.effect w = w := by
        cases e with
        | consulted | observed | heard => cases here
        | _ => rfl
      rw [← List.singleton_append, worldAfter_append, ih _ rest]
      exact still

theorem worldAfter_course (w : C.World) (events : List (Event C)) :
    worldAfter w (course events) = worldAfter w events := by
  induction events generalizing w with
  | nil => rfl
  | cons e events ih =>
      rw [← List.singleton_append, course_append, worldAfter_append, worldAfter_append, ih]
      cases same : e.inCourse with
      | true => rw [course, List.filter_singleton, same]; rfl
      | false =>
          have aside : ∀ e' ∈ [e], e'.inCourse = false := by simpa using same
          rw [worldAfter_aside w aside, course, List.filter_singleton, same]
          rfl

structure Aside (s s' : Session C) : Prop where
  world : s'.world = s.world
  journal : ∃ events, s'.journal = s.journal ++ events ∧ ∀ e ∈ events, e.inCourse = false

theorem Aside.refl (s : Session C) : Aside s s := ⟨rfl, [], by simp, by simp⟩

theorem Aside.trans {s s' s'' : Session C} (first : Aside s s') (second : Aside s' s'') :
    Aside s s'' := by
  obtain ⟨world, events, journal, aside⟩ := first
  obtain ⟨world', events', journal', aside'⟩ := second
  refine ⟨world'.trans world, events ++ events', ?_, ?_⟩
  · rw [journal', journal, List.append_assoc]
  · exact List.forall_mem_append.2 ⟨aside, aside'⟩

theorem note_aside (s : Session C) (e : Event C) (aside : e.inCourse = false) :
    Aside s (s.note e) :=
  ⟨rfl, [e], rfl, by simpa using aside⟩

theorem put_aside (s : Session C) (c : Command) : Aside s (s.put c) :=
  ⟨rfl, [.issued .channel c], rfl, by simp [Event.inCourse]⟩

theorem puts_aside (s : Session C) (cs : List Command) : Aside s (cs.foldl put s) := by
  induction cs generalizing s with
  | nil => exact .refl s
  | cons c cs ih => exact (put_aside s c).trans (ih (s.put c))

theorem arrive_aside (s : Session C) : Aside s s.arrive := by
  have rest := puts_aside { s with arrivals := s.arrivals.tail } (s.arrivals.headD [])
  exact ⟨rest.world, rest.journal⟩

theorem send_aside (s : Session C) (cs : List Command) : Aside s (s.send cs) := by
  induction cs generalizing s with
  | nil => exact .refl s
  | cons c cs ih => exact (arrive_aside s).trans ((put_aside s.arrive c).trans (ih _))

theorem notices_aside (s : Session C) (ns : List Notice) :
    Aside s { s with journal := s.journal ++ ns.map .noticed } := by
  refine ⟨rfl, ns.map .noticed, rfl, ?_⟩
  intro e member
  obtain ⟨n, -, rfl⟩ := List.mem_map.1 member
  rfl

theorem absorb_aside {Client : Type} (s : Session C) (r : Reply Client C.World) :
    Aside { s with world := r.world } (s.absorb r) :=
  (send_aside _ r.sent).trans (notices_aside _ r.notices)

theorem collect_aside (s : Session C) : Aside s s.collect := by
  obtain ⟨ns, same⟩ := emptyChannel_eq s.arrive
  rw [collect, same]
  refine (arrive_aside s).trans ((notices_aside _ ns).trans ?_)
  exact ⟨rfl, [.collected _ _ _], rfl, by simp [Event.inCourse]⟩

def Follows (s s' : Session C) : Prop :=
  ∃ events, s'.journal = s.journal ++ events ∧ s'.world = worldAfter s.world events

theorem Follows.refl (s : Session C) : Follows s s := ⟨[], by simp, rfl⟩

theorem Follows.trans {s s' s'' : Session C} (first : Follows s s') (second : Follows s' s'') :
    Follows s s'' := by
  obtain ⟨events, journal, world⟩ := first
  obtain ⟨events', journal', world'⟩ := second
  refine ⟨events ++ events', ?_, ?_⟩
  · rw [journal', journal, List.append_assoc]
  · rw [world', world, worldAfter_append]

theorem Aside.follows {s s' : Session C} (aside : Aside s s') : Follows s s' := by
  obtain ⟨world, events, journal, all⟩ := aside
  exact ⟨events, journal, by rw [world, worldAfter_aside _ all]⟩

theorem note_follows (s : Session C) (e : Event C) (still : e.effect s.world = s.world) :
    Follows s (s.note e) :=
  ⟨[e], rfl, still.symm⟩

theorem call_follows {Client : Type} (s : Session C) {e : Event C} {r : Reply Client C.World}
    (effect : e.effect s.world = r.world) : Follows s ((s.note e).absorb r) := by
  have called : Follows s { s.note e with world := r.world } := ⟨[e], rfl, effect.symm⟩
  exact called.trans (absorb_aside (s.note e) r).follows

theorem notifyAt_follows (previous : Snapshot) (s : Session C) (i : Nat) :
    Follows s (notifyAt previous s i) := by
  refine (collect_aside s).follows.trans ?_
  unfold notifyAt
  dsimp only
  split
  · split
    · exact call_follows s.collect rfl
    · exact .refl _
  · exact .refl _

theorem fireAt_follows (t : Trigger) (s : Session C) (i : Nat) : Follows s (fireAt t s i) := by
  refine (collect_aside s).follows.trans ?_
  unfold fireAt
  dsimp only
  split
  · split
    · exact call_follows s.collect rfl
    · exact .refl _
  · exact .refl _

theorem turns_follow {turn : Session C → Nat → Session C}
    (follows : ∀ s i, Follows s (turn s i)) (s : Session C) (positions : List Nat) :
    Follows s (positions.foldl turn s) := by
  induction positions generalizing s with
  | nil => exact .refl s
  | cons i positions ih => exact (follows s i).trans (ih (turn s i))

theorem consult_follows (a : Action) (s : Session C) (ms : List C.Middleware) :
    Follows s (consult a ms s).2.1 := by
  induction ms generalizing s with
  | nil => exact .refl s
  | cons m ms ih =>
      let v := C.consult m a s.snapshot s.world
      have called : Follows s ((s.note (.consulted m a s.snapshot v.passes)).absorb v.toReply) :=
        call_follows s rfl
      unfold consult
      dsimp only
      split
      · exact called.trans (ih _)
      · exact called

theorem apply_follows (s : Session C) (a : Action) : Follows s (s.apply a) := by
  have asked := consult_follows a s s.middleware
  unfold apply
  dsimp only
  split
  · refine asked.trans ?_
    refine .trans (note_follows _ (.applied a) rfl) ?_
    refine .trans (notices_aside _ a.notices).follows ?_
    exact turns_follow (notifyAt_follows s.snapshot) _ _
  · exact asked.trans (note_aside _ (.noticed (.consumed a)) rfl).follows

theorem perform_follows (s : Session C) (w : Work) : Follows s (s.perform w) := by
  have took : Follows s (s.note (.took w)) := note_follows s _ rfl
  have done (s : Session C) : Follows s (s.note (.finished w)) := note_follows s _ rfl
  cases w with
  | action a => exact took.trans ((apply_follows _ a).trans (done _))
  | trigger t =>
      refine took.trans (.trans ?_ (done _))
      refine .trans (note_aside _ (.noticed (.fired t)) rfl).follows ?_
      exact turns_follow (fireAt_follows t) _ _

theorem drain_follows (bound : Nat) (s : Session C) : Follows s (drain bound s) := by
  induction bound generalizing s with
  | zero => exact .refl s
  | succ bound ih =>
      unfold drain
      split
      · exact .refl s
      · rename_i w later next
        have performed := perform_follows { s with pending := later } w
        exact performed.trans ((collect_aside _).follows.trans (ih _))

theorem run_follows (bound : Nat) (s : Session C) : Follows s (s.run bound) :=
  (collect_aside s).follows.trans (drain_follows bound s.collect)

theorem welcome_follows (id : SubscriberId) (interest : Selector) (client : C.Observer)
    (s : Session C) : Follows s (s.welcome id interest client) := by
  refine (collect_aside s).follows.trans ?_
  refine .trans (note_aside _ (.registered .observer s.collect.registered id) rfl).follows ?_
  exact call_follows _ rfl

theorem unsubscribe_follows (id : SubscriberId) (s : Session C) :
    Follows s (s.unsubscribe id) := by
  obtain ⟨ns, same⟩ := deactivate_eq (s.note (.issued .direct (.unsubscribe id))) id
  unfold unsubscribe
  rw [same]
  refine .trans (note_aside s (.issued .direct (.unsubscribe id)) rfl).follows ?_
  exact (notices_aside _ ns).follows

theorem operate_follows (bound : Nat) (s : Session C) (o : Operation C) :
    Follows s (s.operate bound o) := by
  cases o with
  | addMiddleware m => exact note_follows s (.added m) rfl
  | subscribe id interest client =>
      refine (welcome_follows id interest client s).trans ?_
      exact (note_aside _ (.noticed (.subscribed id)) rfl).follows.trans (run_follows bound _)
  | subscribeTrigger id t client =>
      refine (collect_aside s).follows.trans ?_
      exact (note_aside _ (.registered .listener s.collect.registered id) rfl).follows
  | unsubscribe id => exact unsubscribe_follows id s
  | dispatch a =>
      refine .trans (note_aside s (.issued .direct (.dispatch a)) rfl).follows ?_
      exact run_follows bound _
  | trigger t =>
      refine .trans (note_aside s (.issued .direct (.trigger t)) rfl).follows ?_
      exact run_follows bound _
  | processPending => exact run_follows bound s
  | send cs => exact (send_aside s cs).follows

theorem serves_follow (s : Session C) (calls : List (Call C)) :
    Follows s (calls.foldl serve s) := by
  induction calls generalizing s with
  | nil => exact .refl s
  | cons c calls ih =>
      exact (operate_follows c.bound { s with arrivals := c.arrivals } c.operation).trans (ih _)

theorem world_ofCalls (snapshot : Snapshot) (world : C.World) (calls : List (Call C)) :
    (ofCalls snapshot world calls).world =
      worldAfter world (ofCalls snapshot world calls).journal := by
  obtain ⟨events, journal, follows⟩ := serves_follow (start (.new C snapshot) world) calls
  have all : (ofCalls snapshot world calls).journal = events := journal
  rw [all]
  exact follows

end Session
end WalletLoop
