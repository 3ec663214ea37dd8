import WalletLoop.Proofs.Session.Interviews
import WalletLoop.Watcher.Surroundings

namespace WalletLoop

variable {C : Clients}

def Event.asked (n : Nat) : Event C → Nat
  | .consulted .. => n + 1
  | .took _ | .applied _ | .finished _ => 0
  | _ => n

namespace Session

def verdicts : List (Event C) → List Bool
  | .consulted _ _ _ passes :: events => passes :: verdicts events
  | .finished _ :: _ | [] => []
  | _ :: events => verdicts events

/-- The actions that are processed and that none of the first `k` middlewares holds back. -/
def reaching (k : Nat) : List (Event C) → List Action
  | .took (.action a) :: events =>
    if false ∈ (verdicts events).take k then reaching k events else a :: reaching k events
  | _ :: events => reaching k events
  | [] => []

/-- The actions that are numbered by the middleware at a position, when so many have been asked. -/
def numbered (k : Nat) : Nat → List (Event C) → List (Action × UInt64)
  | n, .noticed (.numbered i a) :: events =>
    if n = k + 1 then (a, i) :: numbered k n events else numbered k n events
  | n, e :: events => numbered k (e.asked n) events
  | _, [] => []

/-- Actions and their numbers, of which a log keeps the last 64 bits. -/
def inTurn (first : Nat) (actions : List Action) : List (Action × UInt64) :=
  (actions.zipIdx first).map (Prod.map id UInt64.ofNat)

theorem inTurn_append (first : Nat) (actions later : List Action) :
    inTurn first (actions ++ later) = inTurn first actions ++ inTurn (first + actions.length) later := by
  rw [inTurn, List.zipIdx_append, List.map_append]
  rfl

theorem inTurn_toNat {first : Nat} {actions : List Action} (few : first + actions.length ≤ UInt64.size) :
    (inTurn first actions).map (Prod.map id UInt64.toNat) = actions.zipIdx first := by
  rw [inTurn, List.map_map]
  refine (List.map_congr_left ?_).trans (List.map_id _)
  rintro ⟨a, n⟩ member
  have below : n < first + actions.length := List.snd_lt_add_of_mem_zipIdx member
  exact congrArg (Prod.mk a) (UInt64.toNat_ofNat_of_lt' (Nat.lt_of_lt_of_le below few))

section Interview
variable {a : Action} {s : Snapshot} {k n : Nat} {chain chain' : List C.Middleware}
  {events more : List (Event C)} {through : Bool}

theorem reaching_untaken (untaken : ∀ e ∈ events, ∀ b, e ≠ .took (.action b))
    (more : List (Event C)) : reaching k (events ++ more) = reaching k more := by
  induction events with
  | nil => rfl
  | cons e events ih =>
      obtain ⟨here, later⟩ := List.forall_mem_cons.1 untaken
      rw [List.cons_append, ← ih later]
      cases e with
      | took w =>
          cases w with
          | action b => exact absurd rfl (here b)
          | trigger t => rfl
      | _ => rfl

theorem spoken_cases {v : Verdict C.Middleware C.World} (spoken : v.Spoken events) :
    ∀ e ∈ events, (∃ c, e = .issued .channel c) ∨ ∃ notice, e = .noticed notice := by
  obtain ⟨sending, rfl, sent, -⟩ := spoken
  intro e member
  rcases List.mem_append.1 member with issued | noticed
  · exact .inl (sent e issued)
  · obtain ⟨notice, -, rfl⟩ := List.mem_map.1 noticed
    exact .inr ⟨notice, rfl⟩

theorem verdicts_spoken {v : Verdict C.Middleware C.World} (spoken : v.Spoken events) :
    verdicts (events ++ more) = verdicts more := by
  have cases := spoken_cases spoken
  clear spoken
  induction events with
  | nil => rfl
  | cons e events ih =>
      obtain ⟨here, later⟩ := List.forall_mem_cons.1 cases
      rw [List.cons_append, ← ih later]
      rcases here with ⟨c, rfl⟩ | ⟨notice, rfl⟩ <;> rfl

theorem numbered_notice (notice : Notice) (other : n ≠ k + 1) :
    numbered k n (.noticed notice :: events) = numbered k n events := by
  cases notice with
  | numbered i b => rw [numbered, if_neg other]
  | _ => rfl

theorem numbered_spoken {v : Verdict C.Middleware C.World} (spoken : v.Spoken events)
    (other : n ≠ k + 1) : numbered k n (events ++ more) = numbered k n more := by
  have cases := spoken_cases spoken
  clear spoken
  induction events with
  | nil => rfl
  | cons e events ih =>
      obtain ⟨here, later⟩ := List.forall_mem_cons.1 cases
      rw [List.cons_append, ← ih later]
      rcases here with ⟨c, rfl⟩ | ⟨notice, rfl⟩
      · rfl
      · exact numbered_notice notice other

theorem numbered_incidental (aside : ∀ e ∈ events, e.isIncidental = true)
    (more : List (Event C)) : numbered k 0 (events ++ more) = numbered k 0 more := by
  induction events with
  | nil => rfl
  | cons e events ih =>
      obtain ⟨here, later⟩ := List.forall_mem_cons.1 aside
      rw [List.cons_append, ← ih later]
      cases e with
      | noticed notice => exact numbered_notice notice (by omega)
      | added | applied | consulted => cases here
      | _ => rfl

theorem incidental_untaken (aside : ∀ e ∈ events, e.isIncidental = true) :
    ∀ e ∈ events, ∀ b, e ≠ .took (.action b) := by
  rintro e member b rfl
  cases aside _ member

theorem reaching_told {told : List (Event C)} (aside : ∀ e ∈ told, e.isIncidental = true) :
    reaching k (.applied a :: (told ++ .finished (.action a) :: more)) = reaching k more :=
  reaching_untaken (incidental_untaken aside) (.finished (.action a) :: more)

theorem Interview.untaken (interview : Interview a s chain events chain' through) :
    ∀ e ∈ events, ∀ b, e ≠ .took (.action b) := by
  have said {v : Verdict C.Middleware C.World} {events : List (Event C)}
      (spoken : v.Spoken events) : ∀ e ∈ events, ∀ b, e ≠ .took (.action b) := by
    rintro e member b rfl
    rcases spoken_cases spoken _ member with ⟨c, same⟩ | ⟨notice, same⟩ <;> cases same
  induction interview with
  | ended => simp
  | passed w passes spoken later ih =>
      rw [List.cons_append, List.forall_mem_cons, List.forall_mem_append]
      exact ⟨by simp, said spoken, ih⟩
  | held rest w holds spoken =>
      rw [List.forall_mem_cons]
      exact ⟨by simp, said spoken⟩

theorem Interview.verdicts (interview : Interview a s chain events chain' through) :
    ∃ answers, (∀ more, Session.verdicts (events ++ more) = answers ++ Session.verdicts more) ∧
      answers.length ≤ chain.length ∧
      (through = true → answers = List.replicate chain.length true) ∧
      (through = false → false ∈ answers) := by
  induction interview with
  | ended => exact ⟨[], by simp, by simp, by simp, by simp⟩
  | @passed m rest rest' said asked through w passes spoken later ih =>
      obtain ⟨answers, read, few, all, held⟩ := ih
      refine ⟨true :: answers, fun more => ?_, Nat.succ_le_succ few, fun yes => ?_, fun no => ?_⟩
      · rw [List.cons_append, List.cons_append, Session.verdicts, List.append_assoc,
          verdicts_spoken spoken, read]
        rfl
      · rw [all yes]
        rfl
      · exact List.mem_cons_of_mem _ (held no)
  | @held m said rest w holds spoken =>
      refine ⟨[false], fun more => ?_, by simp, by simp, by simp⟩
      rw [List.cons_append, Session.verdicts, verdicts_spoken spoken]
      rfl

theorem Interview.unnumbered (interview : Interview a s chain events chain' through)
    (elsewhere : n + chain.length ≤ k ∨ k < n) :
    ∃ asked, (∀ more, numbered k n (events ++ more) = numbered k (n + asked) more) ∧
      (through = true → asked = chain.length) := by
  induction interview generalizing n with
  | ended => exact ⟨0, by simp, by simp⟩
  | @passed m rest rest' said asked through w passes spoken later ih =>
      rw [List.length_cons] at elsewhere
      obtain ⟨number, read, all⟩ := ih (n := n + 1) (by omega)
      refine ⟨number + 1, fun more => ?_, fun yes => by rw [all yes, List.length_cons]⟩
      change numbered k (n + 1) (said ++ asked ++ more) = _
      rw [List.append_assoc, numbered_spoken spoken (by omega), read, Nat.add_assoc, Nat.add_comm 1]
  | @held m said rest w holds spoken =>
      rw [List.length_cons] at elsewhere
      refine ⟨1, fun more => ?_, by simp⟩
      change numbered k (n + 1) (said ++ more) = _
      exact numbered_spoken spoken (by omega)

theorem Interview.split {front back : List C.Middleware}
    (interview : Interview a s (front ++ back) events chain' through) :
    (∃ first later front' back', events = first ++ later ∧ chain' = front' ++ back' ∧
      Interview a s front first front' true ∧ Interview a s back later back' through) ∨
    ∃ front', chain' = front' ++ back ∧ through = false ∧
      Interview a s front events front' false := by
  induction front generalizing events chain' with
  | nil => exact .inl ⟨[], events, [], chain', rfl, rfl, .ended, interview⟩
  | cons m front ih =>
      cases interview with
      | passed w passes spoken later =>
          rcases ih later with ⟨first, rest, front', back', rfl, rfl, asked, others⟩ |
            ⟨front', rfl, rfl, asked⟩
          · exact .inl ⟨_, rest, _, back', by simp, rfl, .passed w passes spoken asked, others⟩
          · exact .inr ⟨_, rfl, rfl, .passed w passes spoken asked⟩
      | held rest w holds spoken => exact .inr ⟨_, rfl, rfl, .held front w holds spoken⟩

theorem Interview.length (interview : Interview a s chain events chain' through) :
    chain'.length = chain.length := by
  induction interview with
  | ended => rfl
  | passed w passes spoken later ih => rw [List.length_cons, List.length_cons, ih]
  | held => rfl

end Interview

section Watcher
variable {S : Services} {a : Action} {s : Snapshot} {k : Nat} {w : Watcher S}
  {front back chain chain' : List (C.watched S).Middleware}
  {events more : List (Event (C.watched S))}
  {joins : (C.watched S).Middleware → Prop} {through : Bool}

theorem Interview.watched
    (interview : Interview a s (front ++ .inl w :: back) events chain' through) :
    (∃ (first said later : List (Event (C.watched S)))
        (front' back' : List (C.watched S).Middleware) (world : S.World × C.World),
      events = first ++ (.consulted (.inl w) a s true :: said ++ later) ∧
        chain' = front' ++ .inl (w.watch a s world.1).client :: back' ∧
        Interview a s front first front' true ∧
        ((C.watched S).consult (.inl w) a s world).Spoken said ∧
        Interview a s back later back' through) ∨
    ∃ front', chain' = front' ++ .inl w :: back ∧ through = false ∧
      Interview a s front events front' false := by
  rcases interview.split with ⟨first, rest, front', back', rfl, rfl, asked, others⟩ |
    ⟨front', rfl, rfl, asked⟩
  · refine .inl ?_
    cases others with
    | @passed m rest rest' said later through world passes spoken others =>
        exact ⟨first, said, later, front', rest', world, by simp, rfl, asked, spoken, others⟩
    | held rest world holds spoken => cases holds
  · exact .inr ⟨front', rfl, rfl, asked⟩

theorem Interview.reached (interview : Interview a s front events chain' through) :
    false ∈ (Session.verdicts (events ++ more)).take front.length ↔ through = false := by
  obtain ⟨answers, read, few, all, held⟩ := interview.verdicts
  rw [read]
  cases through with
  | true =>
      rw [all rfl, List.take_left' (by simp)]
      simp
  | false =>
      rw [List.take_append, List.take_of_length_le few]
      simp [held rfl]

theorem Interview.reaching (interview : Interview a s front events chain' through)
    {others : List (Event (C.watched S))} (untaken : ∀ e ∈ events ++ others, ∀ b, e ≠ .took (.action b))
    (more : List (Event (C.watched S))) :
    Session.reaching front.length (.took (.action a) :: (events ++ others ++ more)) =
      (if through then [a] else []) ++ Session.reaching front.length more := by
  rw [List.append_assoc]
  cases through with
  | true =>
      rw [Session.reaching, if_neg (by simp [interview.reached]), ← List.append_assoc,
        reaching_untaken untaken]
      rfl
  | false =>
      rw [Session.reaching, if_pos (by simp [interview.reached]), ← List.append_assoc,
        reaching_untaken untaken]
      rfl

theorem Interview.reaching_held (interview : Interview a s front events chain' false)
    (more : List (Event (C.watched S))) :
    Session.reaching front.length (.took (.action a) :: (events ++ more)) =
      Session.reaching front.length more := by
  have untaken : ∀ e ∈ events ++ [], ∀ b, e ≠ .took (.action b) := by
    simpa using interview.untaken
  simpa using interview.reaching untaken more

theorem spoken_numbers {count : Nat} {world : S.World × C.World}
    (spoken : ((C.watched S).consult (.inl (.log (.ofNat count))) a s world).Spoken events) :
    numbered k (k + 1) (events ++ more) =
      inTurn (count + 1) ([a].filter (· ≠ .idle)) ++ numbered k (k + 1) more := by
  obtain ⟨sending, rfl, -, silent⟩ := spoken
  by_cases idle : a = .idle
  · subst idle
    rw [silent rfl]
    rfl
  · let n := UInt64.ofNat (count + 1)
    have next : UInt64.ofNat count + 1 = n := (UInt64.ofNat_add count 1).symm
    have none : ((C.watched S).consult (.inl (.log (.ofNat count))) a s world).sent = [] := by
      simp [Clients.watched, Watcher.watch, idle]
    have notices : ((C.watched S).consult (.inl (.log (.ofNat count))) a s world).notices =
        [.numbered n a, .appliesTo n s] := by
      simp [Clients.watched, Watcher.watch, idle, next]
    rw [silent none, notices]
    simp [numbered, idle, Event.asked, inTurn, n]

theorem Interview.numbers {count : Nat}
    (interview : Interview a s (front ++ .inl (.log (.ofNat count)) :: back) events chain' through) :
    ∃ (reached : List Action) (front' back' : List (C.watched S).Middleware) (n : Nat),
      chain' = front' ++
        .inl (.log (.ofNat (count + (reached.filter (· ≠ .idle)).length))) :: back' ∧
      front'.length = front.length ∧
      (∀ more, Session.reaching front.length (.took (.action a) :: (events ++ more)) =
        reached ++ Session.reaching front.length more) ∧
      ∀ more, numbered front.length 0 (events ++ more) =
        inTurn (count + 1) (reached.filter (· ≠ .idle)) ++ numbered front.length n more := by
  rcases interview.watched with
    ⟨first, said, later, front', back', world, rfl, rfl, asked, spoken, others⟩ |
      ⟨front', rfl, rfl, asked⟩
  · obtain ⟨before, sooner, all⟩ := asked.unnumbered (k := front.length) (n := 0) (by omega)
    obtain ⟨after, rest, -⟩ :=
      others.unnumbered (k := front.length) (n := front.length + 1) (by omega)
    have client : ((Watcher.log (.ofNat count) : Watcher S).watch a s world.1).client =
        .log (.ofNat (count + ([a].filter (· ≠ .idle)).length)) := by
      by_cases idle : a = .idle <;> simp [Watcher.watch, idle]
    refine ⟨[a], front', back', front.length + 1 + after, by rw [client], asked.length,
      asked.reaching interview.untaken, fun more => ?_⟩
    · rw [List.append_assoc, List.append_assoc, sooner, Nat.zero_add, all rfl]
      change numbered front.length (front.length + 1) (said ++ (later ++ more)) = _
      rw [spoken_numbers spoken, rest]
  · obtain ⟨number, read, -⟩ := asked.unnumbered (k := front.length) (n := 0) (by omega)
    refine ⟨[], front', back, 0 + number, by simp, asked.length, asked.reaching_held,
      fun more => ?_⟩
    rw [read]
    rfl

theorem continued {reached : List Action} {count n : Nat} {later : List Action}
    (numbers : ∀ more, numbered k 0 (events ++ more) =
      inTurn (count + 1) (reached.filter (· ≠ .idle)) ++ numbered k n more)
    (rest : numbered k n more = inTurn (count + (reached.filter (· ≠ .idle)).length + 1)
      (later.filter (· ≠ .idle))) :
    numbered k 0 (events ++ more) =
      inTurn (count + 1) ((reached ++ later).filter (· ≠ .idle)) := by
  rw [numbers, rest, List.filter_append, inTurn_append, Nat.add_right_comm]

theorem Diary.numbers {count : Nat} (diary : Diary joins chain events chain')
    (placed : chain = front ++ .inl (.log (.ofNat count)) :: back) :
    numbered front.length 0 events =
      inTurn (count + 1) ((Session.reaching front.length events).filter (· ≠ .idle)) := by
  induction diary generalizing front back count with
  | closed => rfl
  | @incidental chain chain' events e aside later ih =>
      have alone : ∀ e' ∈ [e], e'.isIncidental = true := by simpa using aside
      rw [← List.singleton_append, numbered_incidental alone,
        reaching_untaken (incidental_untaken alone)]
      exact ih placed
  | @added chain chain' events m new later ih =>
      subst placed
      have placed : front ++ .inl (.log (.ofNat count)) :: back ++ [m] =
          front ++ .inl (.log (.ofNat count)) :: (back ++ [m]) := List.append_assoc ..
      exact ih placed
  | @applied chain chain' chain'' asked told events b shown interview aside later ih =>
      subst placed
      obtain ⟨reached, front', back', n, rfl, same, reaches, numbers⟩ := interview.numbers
      have ended := ih rfl
      rw [same] at ended
      rw [List.append_assoc, List.cons_append, List.cons_append, reaches]
      rw [reaching_told aside]
      refine continued numbers ?_
      exact (numbered_incidental aside (.finished (.action b) :: events)).trans ended
  | @consumed chain chain' chain'' asked events b shown interview later ih =>
      subst placed
      obtain ⟨reached, front', back', n, rfl, same, reaches, numbers⟩ := interview.numbers
      have ended := ih rfl
      rw [same] at ended
      rw [List.cons_append, reaches]
      exact continued numbers ended

end Watcher

section Recorder
variable {name : String} {a : Action} {s : Snapshot}
  {front back chain chain' : List (C.watched Surroundings.services).Middleware}
  {events : List (Event (C.watched Surroundings.services))} {through : Bool}

abbrev recorder (C : Clients) (name : String) : (C.watched Surroundings.services).Middleware :=
  .inl (.telemetry (.recorder name))

def records? (name : String) : Watcher Surroundings.services → Action → Option TelemetryEvent
  | .telemetry (.recorder n), a => if n = name then a.event? else none
  | _, _ => none

def recorded? (name : String) : Event (C.watched Surroundings.services) → Option TelemetryEvent
  | .consulted (.inl watcher) a _ _ => records? name watcher a
  | _ => none

theorem update_recorded (store : Nat) (call : PreferenceStore → Saving PreferenceStore)
    (w : Surroundings) : (w.update store call).world.recorded = w.recorded := by
  unfold Surroundings.update
  split <;> rfl

theorem watch_events (watcher : Watcher Surroundings.services) (w : Surroundings) (name : String) :
    Surroundings.events (watcher.watch a s w).world name =
      w.events name ++ (records? name watcher a).toList := by
  cases watcher with
  | log count => by_cases idle : a = .idle <;> simp [Watcher.watch, idle, records?]
  | preferences store =>
      cases entry : a.preference? s with
      | none => simp [Watcher.watch, entry, records?]
      | some entry' =>
          have kept : (Surroundings.save store entry' w).world.recorded = w.recorded :=
            update_recorded store _ w
          simp [Watcher.watch, entry, records?, Surroundings.services, Surroundings.events, kept]
  | telemetry sink =>
      cases event : a.event? with
      | none => cases sink <;> simp [Watcher.watch, event, records?]
      | some e =>
          cases sink with
          | recorder n =>
              by_cases same : n = name <;>
                simp [Watcher.watch, event, records?, Surroundings.services, Surroundings.report,
                  Surroundings.events, same]
          | _ => simp [Watcher.watch, event, records?, Surroundings.services, Surroundings.report]

theorem effect_events (w : Surroundings × C.World)
    (e : Event (C.watched Surroundings.services)) (name : String) :
    (Surroundings.events (e.effect w).1 name) =
      Surroundings.events w.1 name ++ (recorded? name e).toList := by
  cases e with
  | consulted m a s passes =>
      cases m with
      | inl watcher => exact watch_events watcher w.1 name
      | inr m => exact (List.append_nil _).symm
  | _ => exact (List.append_nil _).symm

theorem worldAfter_events (w : Surroundings × C.World)
    (events : List (Event (C.watched Surroundings.services))) (name : String) :
    Surroundings.events (worldAfter w events).1 name =
      Surroundings.events w.1 name ++ events.filterMap (recorded? name) := by
  induction events generalizing w with
  | nil => exact (List.append_nil _).symm
  | cons e events ih =>
      refine (ih (e.effect w)).trans ?_
      rw [effect_events, List.append_assoc]
      cases records : recorded? name e <;> simp [records]

theorem watch_client (watcher : Watcher Surroundings.services) (w : Surroundings) :
    (watcher.watch a s w).client = watcher ∨
      ∃ count, (watcher.watch a s w).client = .log count := by
  cases watcher with
  | log count => by_cases idle : a = .idle <;> simp [Watcher.watch, idle]
  | preferences store => cases entry : a.preference? s <;> simp [Watcher.watch, entry]
  | telemetry sink => cases event : a.event? <;> simp [Watcher.watch, event]

theorem client_recorder {m : (C.watched Surroundings.services).Middleware}
    {w : Surroundings × C.World} (other : m ≠ recorder C name) :
    ((C.watched Surroundings.services).consult m a s w).client ≠ recorder C name := by
  cases m with
  | inl watcher =>
      intro same
      have client : (watcher.watch a s w.1).client = .telemetry (.recorder name) := Sum.inl.inj same
      rcases watch_client (a := a) (s := s) watcher w.1 with kept | ⟨count, log⟩
      · exact other (congrArg Sum.inl (kept.symm.trans client))
      · cases log.symm.trans client
  | inr m => exact nofun

theorem recorded_spoken {v : Verdict (C.watched Surroundings.services).Middleware
    (C.watched Surroundings.services).World} (spoken : v.Spoken events) :
    events.filterMap (recorded? name) = [] := by
  refine List.filterMap_eq_nil_iff.2 fun e member => ?_
  rcases spoken_cases spoken e member with ⟨c, rfl⟩ | ⟨notice, rfl⟩ <;> rfl

theorem recorded_incidental (aside : ∀ e ∈ events, e.isIncidental = true) :
    events.filterMap (recorded? name) = [] := by
  refine List.filterMap_eq_nil_iff.2 fun e member => ?_
  have incidental := aside e member
  cases e with
  | consulted => cases incidental
  | _ => rfl

theorem consulted_recorder {m : (C.watched Surroundings.services).Middleware} {passes : Bool}
    (other : m ≠ recorder C name) : recorded? name (.consulted m a s passes) = none := by
  cases m with
  | inl watcher =>
      cases watcher with
      | telemetry sink =>
          cases sink with
          | recorder n => exact if_neg fun same => other (by rw [same])
          | _ => rfl
      | _ => rfl
  | inr m => rfl

theorem Interview.unrecorded (interview : Interview a s chain events chain' through)
    (absent : recorder C name ∉ chain) :
    events.filterMap (recorded? name) = [] ∧ recorder C name ∉ chain' := by
  induction interview with
  | ended => exact ⟨rfl, absent⟩
  | passed w passes spoken later ih =>
      obtain ⟨other, behind⟩ := not_or.1 (List.mem_cons.not.1 absent)
      obtain ⟨nothing, rest⟩ := ih behind
      constructor
      · rw [List.cons_append, List.filterMap_cons_none (consulted_recorder (Ne.symm other)),
          List.filterMap_append, recorded_spoken spoken, nothing]
        rfl
      · exact List.mem_cons.not.2 (not_or.2 ⟨(client_recorder (Ne.symm other)).symm, rest⟩)
  | held rest w holds spoken =>
      obtain ⟨other, behind⟩ := not_or.1 (List.mem_cons.not.1 absent)
      constructor
      · rw [List.filterMap_cons_none (consulted_recorder (Ne.symm other)), recorded_spoken spoken]
      · exact List.mem_cons.not.2 (not_or.2 ⟨(client_recorder (Ne.symm other)).symm, behind⟩)

theorem Interview.records
    (interview : Interview a s (front ++ recorder C name :: back) events chain' through)
    (absent : recorder C name ∉ front ++ back) :
    ∃ (reached : List Action) (front' back' : List (C.watched Surroundings.services).Middleware),
      chain' = front' ++ recorder C name :: back' ∧ recorder C name ∉ front' ++ back' ∧
      front'.length = front.length ∧
      (∀ more, Session.reaching front.length (.took (.action a) :: (events ++ more)) =
        reached ++ Session.reaching front.length more) ∧
      events.filterMap (recorded? name) = reached.filterMap Action.event? := by
  obtain ⟨before, behind⟩ := not_or.1 (List.mem_append.not.1 absent)
  rcases interview.watched with
    ⟨first, said, later, front', back', world, rfl, rfl, asked, spoken, others⟩ |
      ⟨front', rfl, rfl, asked⟩
  · obtain ⟨sooner, absent'⟩ := asked.unrecorded before
    obtain ⟨rest, absent''⟩ := others.unrecorded behind
    have client : ((Watcher.telemetry (.recorder name) : Watcher Surroundings.services).watch a s
        world.1).client = .telemetry (.recorder name) := by
      cases event : a.event? <;> simp [Watcher.watch, event]
    have here : recorded? name (.consulted (recorder C name) a s true) = a.event? := if_pos rfl
    refine ⟨[a], front', back', by rw [client], ?_, asked.length,
      asked.reaching interview.untaken, ?_⟩
    · exact List.mem_append.not.2 (not_or.2 ⟨absent', absent''⟩)
    · rw [List.filterMap_append, sooner, List.cons_append, List.filterMap_cons,
        here, List.filterMap_append, recorded_spoken spoken, rest]
      cases event : a.event? <;> simp [event]
  · obtain ⟨nothing, absent'⟩ := asked.unrecorded before
    refine ⟨[], front', back, rfl, ?_, asked.length, asked.reaching_held, nothing⟩
    exact List.mem_append.not.2 (not_or.2 ⟨absent', behind⟩)

theorem recorded_applied {asked told : List (Event (C.watched Surroundings.services))}
    (aside : ∀ e ∈ told, e.isIncidental = true) :
    (.took (.action a) :: asked ++ .applied a :: told ++ .finished (.action a) :: events).filterMap
        (recorded? name) =
      asked.filterMap (recorded? name) ++ events.filterMap (recorded? name) := by
  rw [List.filterMap_append, List.filterMap_append]
  change _ ++ told.filterMap (recorded? name) ++ _ = _
  rw [recorded_incidental aside, List.append_nil]
  rfl

theorem recorded_consumed {asked : List (Event (C.watched Surroundings.services))} :
    (.took (.action a) :: asked ++
        .noticed (.consumed a) :: .finished (.action a) :: events).filterMap (recorded? name) =
      asked.filterMap (recorded? name) ++ events.filterMap (recorded? name) := by
  rw [List.filterMap_append]
  rfl

theorem Diary.unrecorded (diary : Diary (· ≠ recorder C name) chain events chain')
    (absent : recorder C name ∉ chain) :
    events.filterMap (recorded? name) = [] ∧ recorder C name ∉ chain' := by
  induction diary with
  | closed => exact ⟨rfl, absent⟩
  | @incidental chain chain' events e aside later ih =>
      obtain ⟨nothing, rest⟩ := ih absent
      have alone : [e].filterMap (recorded? name) = [] := recorded_incidental (by simpa using aside)
      rw [← List.singleton_append, List.filterMap_append, alone, nothing]
      exact ⟨rfl, rest⟩
  | added new later ih =>
      refine ih fun member => ?_
      rcases List.mem_append.1 member with earlier | last
      · exact absent earlier
      · exact new (List.mem_singleton.1 last).symm
  | applied interview aside later ih =>
      obtain ⟨asked, absent'⟩ := interview.unrecorded absent
      obtain ⟨rest, absent''⟩ := ih absent'
      rw [recorded_applied aside, asked, rest]
      exact ⟨rfl, absent''⟩
  | consumed interview later ih =>
      obtain ⟨asked, absent'⟩ := interview.unrecorded absent
      obtain ⟨rest, absent''⟩ := ih absent'
      rw [recorded_consumed, asked, rest]
      exact ⟨rfl, absent''⟩

theorem Diary.records (diary : Diary (· ≠ recorder C name) chain events chain')
    (placed : chain = front ++ recorder C name :: back) (absent : recorder C name ∉ front ++ back) :
    events.filterMap (recorded? name) =
      (Session.reaching front.length events).filterMap Action.event? := by
  induction diary generalizing front back with
  | closed => rfl
  | @incidental chain chain' events e aside later ih =>
      have alone : ∀ e' ∈ [e], e'.isIncidental = true := by simpa using aside
      rw [← List.singleton_append, reaching_untaken (incidental_untaken alone),
        List.filterMap_append, recorded_incidental alone, ih placed absent]
      rfl
  | @added chain chain' events m new later ih =>
      subst placed
      have placed : front ++ recorder C name :: back ++ [m] =
          front ++ recorder C name :: (back ++ [m]) := List.append_assoc ..
      refine ih placed ?_
      rw [← List.append_assoc]
      refine List.mem_append.not.2 (not_or.2 ⟨absent, fun last => ?_⟩)
      exact new (List.mem_singleton.1 last).symm
  | @applied chain chain' chain'' asked told events b shown interview aside later ih =>
      subst placed
      obtain ⟨reached, front', back', rfl, absent', same, reaches, records⟩ :=
        interview.records absent
      have ended := ih rfl absent'
      rw [same] at ended
      rw [recorded_applied aside, records, ended, List.append_assoc, List.cons_append,
        List.cons_append, reaches, reaching_told aside, List.filterMap_append]
  | @consumed chain chain' chain'' asked events b shown interview later ih =>
      subst placed
      obtain ⟨reached, front', back', rfl, absent', same, reaches, records⟩ :=
        interview.records absent
      have ended := ih rfl absent'
      rw [same] at ended
      rw [recorded_consumed, records, ended, List.cons_append, reaches, List.filterMap_append]
      rfl

theorem added_recorded {C : Clients} {joins : C.Middleware → Prop} (snapshot : Snapshot)
    (world : C.World) (before : List (Call C)) {after : List (Call C)} (m : C.Middleware)
    (bound : Nat) (arrivals : List (List Command))
    (new : ∀ c ∈ after, ∀ m, c.operation = .addMiddleware m → joins m) :
    let was := ofCalls snapshot world before
    let s := ofCalls snapshot world (before ++ ⟨.addMiddleware m, bound, arrivals⟩ :: after)
    ∃ since chain, s.journal = was.journal ++ .added m :: since ∧
      Diary joins (was.middleware ++ [m]) since chain := by
  intro was s
  have same : s = after.foldl serve (was.serve ⟨.addMiddleware m, bound, arrivals⟩) := by
    simp [s, was, ofCalls]
  obtain ⟨since, journal, diary⟩ :=
    serves_recorded (was.serve ⟨.addMiddleware m, bound, arrivals⟩) new
  refine ⟨since, _, ?_, diary⟩
  rw [same, journal]
  simp [serve, operate, addMiddleware, note]

end Recorder

inductive Reports : Action → TelemetryEvent → Prop
  | touchId (enabled : Bool) : Reports (.settings (.setTouchIdEnabled enabled))
      ⟨"event.enableTouchId", [("isEnabled", if enabled then "true" else "false")]⟩
  | rescan (recommend : Bool) : Reports (.settings (.setRecommendRescan recommend))
      ⟨"event.recommendRescan", []⟩
  | digits (n : UInt32) : Reports (.settings (.setMaxDisplayDigits n))
      ⟨"maxDigits.set", [("maxDigits", decimalText n.toNat)]⟩

theorem event?_eq_some (a : Action) (e : TelemetryEvent) : a.event? = some e ↔ Reports a e := by
  constructor
  · intro event
    cases a with
    | settings action =>
        cases action with
        | setTouchIdEnabled enabled => exact Option.some.inj event ▸ .touchId enabled
        | setRecommendRescan recommend => exact Option.some.inj event ▸ .rescan recommend
        | setMaxDisplayDigits n => exact Option.some.inj event ▸ .digits n
        | _ => cases event
    | _ => cases event
  · rintro (enabled | recommend | n) <;> rfl

/-- A recorder that only one watcher reports to keeps an event for each of the three settings that
reach the watcher, and a log numbers all that reaches it, whatever other middleware does. The numbers
are those of 64 bits: they start anew after as many actions. -/
theorem trails (snapshot : Snapshot) (world : Surroundings × C.World)
    (before after : List (Call (C.watched Surroundings.services)))
    (w : Watcher Surroundings.services) (bound : Nat) (arrivals : List (List Command)) :
    let was := ofCalls snapshot world before
    let s := ofCalls snapshot world
      (before ++ ⟨.addMiddleware (.inl w), bound, arrivals⟩ :: after)
    let since := s.journal.drop (was.journal.length + 1)
    let reached := reaching was.middleware.length since
    let logged := reached.filter (· ≠ .idle)
    s.journal = was.journal ++ .added (.inl w) :: since ∧
      (∀ name, w = .telemetry (.recorder name) →
        (∀ c ∈ before ++ after, c.operation ≠ .addMiddleware (.inl w)) →
        Surroundings.events s.world.1 name =
          Surroundings.events world.1 name ++ reached.filterMap Action.event?) ∧
      (∀ (a : Action) (e : TelemetryEvent), a.event? = some e ↔ Reports a e) ∧
      (w = .log 0 → numbered was.middleware.length 0 since = inTurn 1 logged ∧
        (logged.length < UInt64.size →
          (numbered was.middleware.length 0 since).map (Prod.map id UInt64.toNat) =
            logged.zipIdx 1)) := by
  intro was s since reached logged
  have parts {events : List (Event (C.watched Surroundings.services))}
      (journal : s.journal = was.journal ++ .added (.inl w) :: events) : since = events := by
    simp [since, journal]
  have any : ∀ c ∈ after, ∀ m, c.operation = .addMiddleware m → True := fun _ _ _ _ => trivial
  refine ⟨?_, ?_, event?_eq_some, ?_⟩
  · obtain ⟨events, chain, journal, -⟩ := added_recorded snapshot world before (.inl w) bound
      arrivals any
    exact (parts journal).symm ▸ journal
  · rintro name rfl alone
    have others {calls : List (Call (C.watched Surroundings.services))}
        (among : calls ⊆ before ++ after) :
        ∀ c ∈ calls, ∀ m, c.operation = .addMiddleware m → m ≠ recorder C name := by
      rintro c member m adds rfl
      exact alone c (among member) adds
    -- nothing is recorded before the watcher is there
    obtain ⟨earlier, start, first⟩ := serves_recorded
      (Session.start (.new (C.watched Surroundings.services) snapshot) world)
      (others (List.subset_append_left before after))
    obtain ⟨nothing, absent⟩ := first.unrecorded List.not_mem_nil
    change recorder C name ∉ was.middleware at absent
    have opening : was.journal = earlier := start
    obtain ⟨events, chain, journal, diary⟩ := added_recorded snapshot world before
      (recorder C name) bound arrivals (others (List.subset_append_right before after))
    have records := diary.records rfl (by simpa using absent)
    have whole : s.world = worldAfter world s.journal :=
      @world_ofCalls (C.watched Surroundings.services) snapshot world _
    rw [whole, worldAfter_events, journal, List.filterMap_append]
    change _ ++ (was.journal.filterMap (recorded? name) ++ events.filterMap (recorded? name)) = _
    rw [opening, nothing, records, List.nil_append, ← parts journal]
  · rintro rfl
    obtain ⟨events, chain, journal, diary⟩ := added_recorded snapshot world before
      (.inl (.log 0)) bound arrivals any
    have numbers : numbered was.middleware.length 0 events =
        inTurn 1 ((reaching was.middleware.length events).filter (· ≠ .idle)) :=
      diary.numbers rfl
    rw [← parts journal] at numbers
    refine ⟨numbers, fun few => ?_⟩
    have room : 1 + logged.length ≤ UInt64.size := by omega
    exact (congrArg _ numbers).trans (inTurn_toNat room)

def gates : Clients where
  World := Unit
  Middleware := Action
  Observer := Empty
  Listener := Empty
  consult held a _ w := ⟨⟨held, w, [], []⟩, a ≠ held⟩
  observe o := o.elim
  hear l := l.elim

def digitsChosen : Action := .settings (.setMaxDisplayDigits 4)

def rescanChosen (recommend : Bool) : Action := .settings (.setRecommendRescan recommend)

def gatedBefore : List (Call (gates.watched Surroundings.services)) :=
  [⟨.addMiddleware (.inr (rescanChosen true)), 0, []⟩]

def gatedAfter : List (Call (gates.watched Surroundings.services)) :=
  [⟨.addMiddleware (.inr digitsChosen), 0, []⟩, ⟨.dispatch (rescanChosen true), 1, []⟩,
    ⟨.dispatch digitsChosen, 1, []⟩, ⟨.dispatch .idle, 1, []⟩,
    ⟨.dispatch (rescanChosen false), 1, []⟩, ⟨.dispatch digitsChosen, 1, []⟩]

def gatedBy (w : Watcher Surroundings.services) :
    Session (gates.watched Surroundings.services) :=
  ofCalls (.initial .standard) ((⟨.empty, [], []⟩ : Surroundings), ())
    (gatedBefore ++ ⟨.addMiddleware (.inl w), 0, []⟩ :: gatedAfter)

theorem gated_trails :
    (∀ c ∈ gatedBefore ++ gatedAfter,
      c.operation ≠ .addMiddleware (recorder gates "settings")) ∧
    Surroundings.events (gatedBy (.telemetry (.recorder "settings"))).world.1 "settings" =
      [digitsChosen, .idle, rescanChosen false, digitsChosen].filterMap Action.event? ∧
    numbered 1 0 ((gatedBy (.log 0)).journal.drop 2) =
      [(digitsChosen, 1), (rescanChosen false, 2), (digitsChosen, 3)] := by
  have alone : ∀ c ∈ gatedBefore ++ gatedAfter,
      c.operation ≠ .addMiddleware (recorder gates "settings") := by
    simp only [gatedBefore, gatedAfter, List.mem_append, List.mem_cons, List.not_mem_nil, or_false]
    rintro c (rfl | rfl | rfl | rfl | rfl | rfl | rfl) same <;> cases same
  have reached : reaching 1 ((gatedBy (.telemetry (.recorder "settings"))).journal.drop 2) =
      [digitsChosen, .idle, rescanChosen false, digitsChosen] := by decide +kernel
  have numbers : reaching 1 ((gatedBy (.log 0)).journal.drop 2) =
      [digitsChosen, .idle, rescanChosen false, digitsChosen] := by decide +kernel
  obtain ⟨-, records, -, -⟩ := trails (C := gates) (.initial .standard)
    ((⟨.empty, [], []⟩ : Surroundings), ()) gatedBefore gatedAfter
    (.telemetry (.recorder "settings")) 0 []
  obtain ⟨-, -, -, logs⟩ := trails (C := gates) (.initial .standard)
    ((⟨.empty, [], []⟩ : Surroundings), ()) gatedBefore gatedAfter (.log 0) 0 []
  refine ⟨alone, ?_, ?_⟩
  · exact (records "settings" rfl alone).trans (congrArg (List.filterMap Action.event?) reached)
  · obtain ⟨counted, -⟩ := logs rfl
    exact counted.trans (congrArg (fun reached => inTurn 1 (reached.filter (· ≠ .idle))) numbers)

end Session
end WalletLoop
