import WalletLoop.Proofs.Session.World

namespace WalletLoop

variable {C : Clients}

def Event.isIncidental : Event C → Bool
  | .added _ | .took (.action _) | .consulted .. | .applied _ | .finished (.action _) => false
  | _ => true

def Verdict.Spoken {Client World : Type} (v : Verdict Client World) (said : List (Event C)) :
    Prop :=
  ∃ sending, said = sending ++ v.notices.map .noticed ∧
    (∀ e ∈ sending, ∃ c, e = .issued .channel c) ∧ (v.sent = [] → sending = [])

namespace Session

/-- Some middleware is asked in turn, up to the first that does not pass the action on. -/
inductive Interview (a : Action) (s : Snapshot) :
    List C.Middleware → List (Event C) → List C.Middleware → Bool → Prop
  | ended : Interview a s [] [] [] true
  | passed {m : C.Middleware} {rest rest' : List C.Middleware} {said asked : List (Event C)}
      {through : Bool} (w : C.World) (passes : (C.consult m a s w).passes = true)
      (spoken : (C.consult m a s w).Spoken said) (later : Interview a s rest asked rest' through) :
      Interview a s (m :: rest) (.consulted m a s true :: said ++ asked)
        ((C.consult m a s w).client :: rest') through
  | held {m : C.Middleware} {said : List (Event C)} (rest : List C.Middleware) (w : C.World)
      (holds : (C.consult m a s w).passes = false) (spoken : (C.consult m a s w).Spoken said) :
      Interview a s (m :: rest) (.consulted m a s false :: said)
        ((C.consult m a s w).client :: rest) false

/-- What happens while the middleware is what it is at first, and what it is in the end. Not every
middleware need be one that may join. -/
inductive Diary (joins : C.Middleware → Prop) :
    List C.Middleware → List (Event C) → List C.Middleware → Prop
  | closed (chain : List C.Middleware) : Diary joins chain [] chain
  | incidental {chain chain' : List C.Middleware} {events : List (Event C)} {e : Event C}
      (aside : e.isIncidental = true) (later : Diary joins chain events chain') :
      Diary joins chain (e :: events) chain'
  | added {chain chain' : List C.Middleware} {events : List (Event C)} {m : C.Middleware}
      (new : joins m) (later : Diary joins (chain ++ [m]) events chain') :
      Diary joins chain (.added m :: events) chain'
  | applied {chain chain' chain'' : List C.Middleware} {asked told events : List (Event C)}
      {a : Action} {s : Snapshot} (interview : Interview a s chain asked chain' true)
      (aside : ∀ e ∈ told, e.isIncidental = true) (later : Diary joins chain' events chain'') :
      Diary joins chain
        (.took (.action a) :: asked ++ .applied a :: told ++ .finished (.action a) :: events)
        chain''
  | consumed {chain chain' chain'' : List C.Middleware} {asked events : List (Event C)}
      {a : Action} {s : Snapshot} (interview : Interview a s chain asked chain' false)
      (later : Diary joins chain' events chain'') :
      Diary joins chain
        (.took (.action a) :: asked ++ .noticed (.consumed a) :: .finished (.action a) :: events)
        chain''

variable {joins : C.Middleware → Prop}

theorem Diary.incidentals {chain chain' : List C.Middleware} {more events : List (Event C)}
    (aside : ∀ e ∈ more, e.isIncidental = true) (later : Diary joins chain events chain') :
    Diary joins chain (more ++ events) chain' := by
  induction more with
  | nil => exact later
  | cons e more ih =>
      obtain ⟨here, rest⟩ := List.forall_mem_cons.1 aside
      exact .incidental here (ih rest)

theorem Diary.append {chain chain' chain'' : List C.Middleware} {events more : List (Event C)}
    (first : Diary joins chain events chain') (second : Diary joins chain' more chain'') :
    Diary joins chain (events ++ more) chain'' := by
  induction first with
  | closed => exact second
  | incidental aside _ ih => exact .incidental aside (ih second)
  | added new _ ih => exact .added new (ih second)
  | applied interview aside _ ih => simpa using Diary.applied interview aside (ih second)
  | consumed interview _ ih => simpa using Diary.consumed interview (ih second)

def Recorded (joins : C.Middleware → Prop) (s s' : Session C) : Prop :=
  ∃ events, s'.journal = s.journal ++ events ∧ Diary joins s.middleware events s'.middleware

theorem Recorded.refl (s : Session C) : Recorded joins s s := ⟨[], by simp, .closed _⟩

theorem Recorded.trans {s s' s'' : Session C} (first : Recorded joins s s')
    (second : Recorded joins s' s'') : Recorded joins s s'' := by
  obtain ⟨events, journal, diary⟩ := first
  obtain ⟨events', journal', diary'⟩ := second
  exact ⟨events ++ events', by rw [journal', journal, List.append_assoc], diary.append diary'⟩

structure Incidental (s s' : Session C) : Prop where
  middleware : s'.middleware = s.middleware
  journal : ∃ events, s'.journal = s.journal ++ events ∧ ∀ e ∈ events, e.isIncidental = true

theorem Incidental.refl (s : Session C) : Incidental s s := ⟨rfl, [], by simp, by simp⟩

theorem Incidental.trans {s s' s'' : Session C} (first : Incidental s s')
    (second : Incidental s' s'') : Incidental s s'' := by
  obtain ⟨middleware, events, journal, aside⟩ := first
  obtain ⟨middleware', events', journal', aside'⟩ := second
  refine ⟨middleware'.trans middleware, events ++ events', ?_, ?_⟩
  · rw [journal', journal, List.append_assoc]
  · exact List.forall_mem_append.2 ⟨aside, aside'⟩

theorem Incidental.recorded {s s' : Session C} (incidental : Incidental s s') :
    Recorded joins s s' := by
  obtain ⟨middleware, events, journal, aside⟩ := incidental
  refine ⟨events, journal, ?_⟩
  rw [middleware, ← List.append_nil events]
  exact Diary.incidentals aside (.closed _)

theorem Aside.incidental {s s' : Session C} (aside : Aside s s')
    (middleware : s'.middleware = s.middleware) : Incidental s s' := by
  obtain ⟨-, events, journal, outside⟩ := aside
  refine ⟨middleware, events, journal, fun e member => ?_⟩
  have out := outside e member
  cases e with
  | added | took | consulted | applied | finished => cases out
  | _ => rfl

theorem note_incidental (s : Session C) {e : Event C} (aside : e.isIncidental = true) :
    Incidental s (s.note e) :=
  ⟨rfl, [e], rfl, by simpa using aside⟩

theorem collect_incidental (s : Session C) : Incidental s s.collect :=
  (collect_aside s).incidental (collect_middleware s)

theorem call_incidental {Client : Type} (s : Session C) {e : Event C} (r : Reply Client C.World)
    (aside : e.isIncidental = true) : Incidental s ((s.note e).absorb r) := by
  have absorbed : Incidental { s.note e with world := r.world } ((s.note e).absorb r) :=
    (absorb_aside (s.note e) r).incidental (absorb_middleware _ r)
  obtain ⟨middleware, events, journal, asides⟩ := absorbed
  exact (note_incidental s aside).trans ⟨middleware, events, journal, asides⟩

theorem notifyAt_incidental (previous : Snapshot) (s : Session C) (i : Nat) :
    Incidental s (notifyAt previous s i) := by
  refine (collect_incidental s).trans ?_
  unfold notifyAt
  dsimp only
  split
  · split
    · rename_i o at_i called
      have calls := call_incidental s.collect (e := .observed o.number o.client s.collect.snapshot)
        (C.observe o.client s.collect.snapshot s.collect.world) rfl
      exact ⟨calls.middleware, calls.journal⟩
    · exact .refl _
  · exact .refl _

theorem fireAt_incidental (t : Trigger) (s : Session C) (i : Nat) :
    Incidental s (fireAt t s i) := by
  refine (collect_incidental s).trans ?_
  unfold fireAt
  dsimp only
  split
  · split
    · rename_i l at_i called
      have calls := call_incidental s.collect (e := .heard l.number l.client t)
        (C.hear l.client t s.collect.world) rfl
      exact ⟨calls.middleware, calls.journal⟩
    · exact .refl _
  · exact .refl _

theorem turns_incidental {turn : Session C → Nat → Session C}
    (incidental : ∀ s i, Incidental s (turn s i)) (s : Session C) (positions : List Nat) :
    Incidental s (positions.foldl turn s) := by
  induction positions generalizing s with
  | nil => exact .refl s
  | cons i positions ih => exact (incidental s i).trans (ih (turn s i))

def Sends (s s' : Session C) : Prop :=
  ∃ sending, s'.journal = s.journal ++ sending ∧ ∀ e ∈ sending, ∃ c, e = .issued .channel c

theorem Sends.trans {s s' s'' : Session C} (first : Sends s s') (second : Sends s' s'') :
    Sends s s'' := by
  obtain ⟨sending, journal, all⟩ := first
  obtain ⟨sending', journal', all'⟩ := second
  refine ⟨sending ++ sending', ?_, List.forall_mem_append.2 ⟨all, all'⟩⟩
  rw [journal', journal, List.append_assoc]

theorem put_sends (s : Session C) (c : Command) : Sends s (s.put c) :=
  ⟨[.issued .channel c], rfl, by simp⟩

theorem puts_sends (s : Session C) (cs : List Command) : Sends s (cs.foldl put s) := by
  induction cs generalizing s with
  | nil => exact ⟨[], by simp, by simp⟩
  | cons c cs ih => exact (put_sends s c).trans (ih (s.put c))

theorem send_sends (s : Session C) (cs : List Command) : Sends s (s.send cs) := by
  induction cs generalizing s with
  | nil => exact ⟨[], by simp [send], by simp⟩
  | cons c cs ih =>
      have arrived : Sends s s.arrive :=
        puts_sends { s with arrivals := s.arrivals.tail } (s.arrivals.headD [])
      exact arrived.trans ((put_sends s.arrive c).trans (ih _))

theorem absorb_spoken (s : Session C) (v : Verdict C.Middleware C.World) :
    ∃ said, (s.absorb v.toReply).journal = s.journal ++ said ∧ v.Spoken said := by
  obtain ⟨sending, journal, all⟩ := send_sends { s with world := v.world } v.sent
  refine ⟨sending ++ v.notices.map .noticed, ?_, sending, rfl, all, fun none => ?_⟩
  · rw [absorb, journal, List.append_assoc]
  · rw [none] at journal
    exact List.append_right_eq_self.1 journal.symm

theorem consult_interview (a : Action) (s : Session C) (ms : List C.Middleware) :
    ∃ asked, (consult a ms s).2.1.journal = s.journal ++ asked ∧
      Interview a s.snapshot ms asked (consult a ms s).1 (consult a ms s).2.2 := by
  induction ms generalizing s with
  | nil => exact ⟨[], by simp [consult], .ended⟩
  | cons m ms ih =>
      let v := C.consult m a s.snapshot s.world
      let called := (s.note (.consulted m a s.snapshot v.passes)).absorb v.toReply
      obtain ⟨said, grown, spoken⟩ :=
        absorb_spoken (s.note (.consulted m a s.snapshot v.passes)) v
      have shown : called.snapshot = s.snapshot := absorb_snapshot _ _
      have journal : called.journal = s.journal ++ .consulted m a s.snapshot v.passes :: said := by
        rw [grown]
        simp [note]
      have next : consult a (m :: ms) s =
          if v.passes then
            (v.client :: (consult a ms called).1, (consult a ms called).2)
          else (v.client :: ms, called, false) := rfl
      cases passes : v.passes with
      | true =>
          obtain ⟨asked, later, interview⟩ := ih called
          rw [shown] at interview
          refine ⟨.consulted m a s.snapshot true :: said ++ asked, ?_, ?_⟩
          · rw [next, if_pos passes, later, journal, passes, List.append_assoc]
          · rw [next, if_pos passes]
            exact .passed s.world passes spoken interview
      | false =>
          refine ⟨.consulted m a s.snapshot false :: said, ?_, ?_⟩
          · rw [next, passes, if_neg (by decide), journal, passes]
          · rw [next, passes, if_neg (by decide)]
            exact .held ms s.world passes spoken

theorem action_recorded (s : Session C) (a : Action) :
    Recorded joins s (s.perform (.action a)) := by
  let began := s.note (.took (.action a))
  obtain ⟨asked, journal, interview⟩ := consult_interview a began began.middleware
  let after : Session C :=
    { (consult a began.middleware began).2.1 with
      middleware := (consult a began.middleware began).1 }
  have work : s.perform (.action a) =
      (if (consult a began.middleware began).2.2 then (after.advance a).notify began.snapshot
        else after.notice (.consumed a)).note (.finished (.action a)) := rfl
  have journal' : after.journal = s.journal ++ .took (.action a) :: asked := by
    refine journal.trans ?_
    simp [began, note]
  rw [work]
  cases through : (consult a began.middleware began).2.2 with
  | true =>
      rw [through] at interview
      have told := turns_incidental (notifyAt_incidental began.snapshot) (after.advance a)
        (List.range (after.advance a).observers.length)
      obtain ⟨middleware, events, grown, aside⟩ := told
      have advanced : (after.advance a).journal =
          after.journal ++ .applied a :: a.notices.map .noticed := by
        simp [advance, note]
      refine ⟨.took (.action a) :: asked ++ .applied a :: (a.notices.map .noticed ++ events) ++
        .finished (.action a) :: [], ?_, ?_⟩
      · refine (congrArg (· ++ [.finished (.action a)]) grown).trans ?_
        rw [advanced, journal']
        simp
      · have chain : after.middleware = ((after.advance a).notify began.snapshot).middleware :=
          middleware.symm
        refine .applied interview ?_ (chain ▸ .closed _)
        intro e member
        rcases List.mem_append.1 member with notice | later
        · obtain ⟨n, -, rfl⟩ := List.mem_map.1 notice
          rfl
        · exact aside e later
  | false =>
      rw [through] at interview
      rw [if_neg Bool.false_ne_true]
      refine ⟨.took (.action a) :: asked ++ .noticed (.consumed a) :: .finished (.action a) :: [],
        ?_, ?_⟩
      · change after.journal ++ [.noticed (.consumed a)] ++ [.finished (.action a)] = _
        rw [journal']
        simp
      · exact .consumed interview (.closed _)

theorem perform_recorded (s : Session C) (w : Work) : Recorded joins s (s.perform w) := by
  cases w with
  | action a => exact action_recorded s a
  | trigger t =>
      have fired :
          Incidental (s.note (.took (.trigger t))) ((s.note (.took (.trigger t))).fire t) :=
        (note_incidental _ rfl).trans (turns_incidental (fireAt_incidental t) _ _)
      exact ((note_incidental s rfl).trans (fired.trans (note_incidental _ rfl))).recorded

theorem drain_recorded (bound : Nat) (s : Session C) : Recorded joins s (drain bound s) := by
  induction bound generalizing s with
  | zero => exact .refl s
  | succ bound ih =>
      unfold drain
      split
      · exact .refl s
      · rename_i w later next
        have performed : Recorded joins s ({ s with pending := later }.perform w) :=
          perform_recorded { s with pending := later } w
        exact performed.trans ((collect_incidental _).recorded.trans (ih _))

theorem run_recorded (bound : Nat) (s : Session C) : Recorded joins s (s.run bound) :=
  (collect_incidental s).recorded.trans (drain_recorded bound s.collect)

theorem operate_recorded (bound : Nat) (s : Session C) {o : Operation C}
    (new : ∀ m, o = .addMiddleware m → joins m) : Recorded joins s (s.operate bound o) := by
  cases o with
  | addMiddleware m => exact ⟨[.added m], rfl, .added (new m rfl) (.closed _)⟩
  | subscribe id interest client =>
      have welcomed : Incidental s (s.welcome id interest client) := by
        refine (collect_incidental s).trans ?_
        have registered := note_incidental s.collect
          (e := .registered .observer s.collect.registered id) rfl
        have called := call_incidental
          ({ s.collect with registered := s.collect.registered + 1 }.note
            (.registered .observer s.collect.registered id))
          (e := .observed s.collect.registered client s.collect.snapshot)
          (C.observe client s.collect.snapshot s.collect.world) rfl
        exact registered.trans ⟨called.middleware, called.journal⟩
      exact (welcomed.trans (note_incidental _ rfl)).recorded.trans (run_recorded bound _)
  | subscribeTrigger id t client =>
      have listed := note_incidental s.collect
        (e := .registered .listener s.collect.registered id) rfl
      exact ((collect_incidental s).trans ⟨listed.middleware, listed.journal⟩).recorded
  | unsubscribe id =>
      obtain ⟨ns, same⟩ := deactivate_eq (s.note (.issued .direct (.unsubscribe id))) id
      have issued := note_incidental s (e := .issued .direct (.unsubscribe id)) rfl
      have noticed := (notices_aside (s.released id) ns).incidental rfl
      have all := issued.trans ⟨noticed.middleware, noticed.journal⟩
      rw [operate, unsubscribe, same]
      exact (Incidental.mk all.middleware all.journal).recorded
  | dispatch a =>
      have issued := note_incidental s (e := .issued .direct (.dispatch a)) rfl
      exact issued.recorded.trans (run_recorded bound _)
  | trigger t =>
      have issued := note_incidental s (e := .issued .direct (.trigger t)) rfl
      exact issued.recorded.trans (run_recorded bound _)
  | processPending => exact run_recorded bound s
  | send cs =>
      have sent : (s.send cs).middleware = s.middleware := by rw [send_toStore]
      exact ((send_aside s cs).incidental sent).recorded

theorem serves_recorded (s : Session C) {calls : List (Call C)}
    (new : ∀ c ∈ calls, ∀ m, c.operation = .addMiddleware m → joins m) :
    Recorded joins s (calls.foldl serve s) := by
  induction calls generalizing s with
  | nil => exact .refl s
  | cons c calls ih =>
      obtain ⟨first, later⟩ := List.forall_mem_cons.1 new
      exact (operate_recorded c.bound { s with arrivals := c.arrivals } first).trans (ih _ later)

end Session
end WalletLoop
