import WalletLoop.Proofs.Session.Passes
import WalletLoop.Proofs.Session.Quiescence
import WalletLoop.Proofs.Snapshot.Repeated

/-!
# An action that is dispatched twice

When nothing else is queued or sent, a dispatch takes its own action and no other work
(`dispatch_alone`), and observers are called in its pass and at no other time (`telling_moves`). The
second of two dispatches of one action changes nothing, and who wants to see changes of some aspect
is called for it exactly if this aspect holds a NaN (`redelivery`).
-/

namespace WalletLoop

variable {C : Clients}

def Work.action? : Work → Option Action
  | .action a => some a
  | .trigger _ => none

def Event.submits? : Event C → Option Work
  | .issued _ c => c.work?
  | _ => none

namespace Session

def happened (s s' : Session C) : List (Event C) := s'.journal.drop s.journal.length

theorem happened_eq {s s' : Session C} {events : List (Event C)}
    (grown : s'.journal = s.journal ++ events) : happened s s' = events := by
  rw [happened, grown, List.drop_left]

/-! ## All work is accounted for -/

theorem submitted_works (journal : List (Event C)) :
    (submitted journal).map (·.work) = journal.filterMap Event.submits? := by
  induction journal using List.reverseRecOn with
  | nil => rfl
  | append_singleton journal e ih =>
      rw [submitted_concat, List.map_append, ih, List.filterMap_append]
      cases e with
      | issued route c => cases asks : c.work? <;> simp [Event.ticket?, Event.submits?, asks]
      | _ => simp [Event.ticket?, Event.submits?]

theorem Accounted.perm {s : Session C} (accounted : Accounted s) :
    (taken s.journal ++ s.pending ++ s.channel.filterMap Command.work?).Perm
      (s.journal.filterMap Event.submits?) := by
  rw [← accounted.queue, ← accounted.waiting, ← List.map_append, ← submitted_works]
  exact (intake_perm s.journal).map _

theorem taken_course (journal : List (Event C)) : taken (course journal) = taken journal := by
  rw [taken, course, List.filterMap_filter]
  refine List.filterMap_congr fun e _ => ?_
  cases e <;> rfl

theorem applied_course (journal : List (Event C)) : applied (course journal) = applied journal := by
  rw [applied, course, List.filterMap_filter]
  refine List.filterMap_congr fun e _ => ?_
  cases e <;> rfl

theorem calls_nothing {events : List (Event C)}
    (calls : ∀ e ∈ events, e.called?.isSome = true) : applied events = [] ∧ taken events = [] := by
  constructor <;> refine List.filterMap_eq_nil_iff.2 fun e member => ?_ <;>
    have call := calls e member <;> cases e <;> first | rfl | cases call

theorem course_applied {start s : Snapshot} {events : List (Event C)} {chain : List C.Middleware}
    (course : Course start events chain s)
    (passed : ∀ m a shown, .consulted m a shown false ∉ events) :
    applied events = (taken events).filterMap Work.action? := by
  induction course with
  | new => rfl
  | @next events more chain chain' s s' before episode ih =>
      rw [applied_append, taken_append, List.filterMap_append,
        ih fun m a shown member => passed m a shown (List.mem_append_left _ member)]
      congr 1
      cases episode with
      | added | greeted => rfl
      | applied _ _ _ a told answers calls =>
          obtain ⟨none, nothing⟩ := calls_nothing fun e member => by
            obtain ⟨number, o, rfl⟩ := calls e member
            rfl
          have asked : applied (questions a s chain) = [] := by simp [questions, applied]
          have begun : taken (questions a s chain) = [.action a] := by simp [questions, taken]
          rw [applied_append, applied_append, asked, taken_append, taken_append, begun]
          change (a :: applied told) ++ [] =
            ([Work.action a] ++ taken told ++ []).filterMap Work.action?
          rw [none, nothing]
          rfl
      | consumed front front' rest m m' _ a answers holds =>
          exact absurd (by simp) (passed m a s)
      | fired _ _ t told calls =>
          obtain ⟨none, nothing⟩ := calls_nothing fun e member => by
            obtain ⟨number, l, rfl⟩ := calls e member
            rfl
          rw [applied_append, taken_append]
          change applied told ++ [] = (Work.trigger t :: taken told ++ []).filterMap Work.action?
          rw [none, nothing]
          rfl

theorem ofCalls_applied (snapshot : Snapshot) (world : C.World) (calls : List (Call C))
    (passed : ∀ m a shown, .consulted m a shown false ∉ (ofCalls snapshot world calls).journal) :
    applied (ofCalls snapshot world calls).journal =
      (taken (ofCalls snapshot world calls).journal).filterMap Work.action? := by
  have applied := course_applied (onCourse_ofCalls snapshot world calls) fun m a shown member =>
    passed m a shown (List.mem_of_mem_filter member)
  rwa [applied_course, taken_course] at applied

/-! ## Observers are called in passes -/

def telling (events : List (Event C)) : Bool :=
  events.foldl (fun t e =>
    match e with
    | .applied _ => true
    | .finished _ => false
    | _ => t) false

theorem telling_concat (events : List (Event C)) (e : Event C) :
    telling (events ++ [e]) = match e with
      | .applied _ => true
      | .finished _ => false
      | _ => telling events := by
  cases e <;> simp [telling]

structure Tells (events : List (Event C)) : Prop where
  indirect : ∀ c, .issued .direct c ∉ events
  calls : Each (fun before e => ∀ number, e.called? = some (.observer, number) →
    telling before = true) events

theorem Tells.concat {events : List (Event C)} {e : Event C} (tells : Tells events)
    (indirect : ∀ c, e ≠ .issued .direct c)
    (calls : ∀ number, e.called? = some (.observer, number) → telling events = true) :
    Tells (events ++ [e]) := by
  refine ⟨fun c member => ?_, each_concat.2 ⟨tells.calls, calls⟩⟩
  rcases List.mem_append.1 member with earlier | last
  · exact tells.indirect c earlier
  · exact indirect c (List.mem_singleton.1 last).symm

theorem telling_moves {m m' : Moment C} (path : Moves m m') (begins : m.1.isTelling = false) :
    ∃ events, m'.2.journal = m.2.journal ++ events ∧ telling events = m'.1.isTelling ∧
      Tells events := by
  refine path.keep (fun m' => ∃ events, m'.2.journal = m.2.journal ++ events ∧
    telling events = m'.1.isTelling ∧ Tells events) ?_
    ⟨[], by simp, begins.symm, by simp, each_nil _⟩
  rintro m' m'' move ⟨events, journal, now, tells⟩
  -- at most one event is written down
  have more {s' : Session C} {phase : Phase C} (e : Event C)
      (grown : s'.journal = m'.2.journal ++ [e])
      (then_now : telling (events ++ [e]) = phase.isTelling) (indirect : ∀ c, e ≠ .issued .direct c)
      (calls : ∀ number, e.called? = some (.observer, number) → telling events = true) :
      ∃ events, s'.journal = m.2.journal ++ events ∧ telling events = phase.isTelling ∧
        Tells events :=
    ⟨events ++ [e], by rw [grown, journal, List.append_assoc], then_now,
      tells.concat indirect calls⟩
  cases move with
  | world | arrivals | observer | listener | compact | spare | ignore =>
      exact ⟨events, journal, now, tells⟩
  | observe s a previous i o collected at_i active interested =>
      exact more (.observed o.number o.client s.snapshot) rfl
        (by simp [telling_concat, now, Phase.isTelling])
        (by simp) fun _ _ => now
  | take s w later next =>
      refine more (.took w) rfl ?_ (by simp) (by simp [Event.called?])
      rw [telling_concat, now]
      cases w <;> rfl
  | _ =>
      exact more _ rfl (by simp [telling_concat, now, Phase.isTelling]) (by simp)
        (by simp [Event.called?])

/-! ## One dispatch -/

section Dispatch
variable {snapshot : Snapshot} {world : C.World} {calls : List (Call C)} {a : Action} {bound : Nat}
  {arrivals : List (List Command)}

theorem dispatch_journal (s : Session C) (a : Action) (bound : Nat)
    (arrivals : List (List Command)) :
    ∃ events, (s.serve ⟨.dispatch a, bound, arrivals⟩).journal =
        s.journal ++ .issued .direct (.dispatch a) :: events ∧ Tells events := by
  let ready : Session C :=
    { { s with arrivals := arrivals }.note (.issued .direct (.dispatch a)) with
      pending := s.pending ++ [Work.action a] }
  obtain ⟨events, journal, -, tells⟩ := telling_moves (run_moves bound ready) rfl
  refine ⟨events, journal.trans ?_, tells⟩
  simp [ready, note]

theorem dispatch_alone {s d : Session C} (before : Accounted s) (after : Accounted d)
    (ends : d = s.serve ⟨.dispatch a, bound + 1, arrivals⟩) (pending : s.pending = [])
    (channel : s.channel = []) (unsent : ∀ c ∈ issued .channel (happened s d), c.work? = none) :
    taken d.journal = taken s.journal ++ [.action a] ∧ d.pending = [] ∧ d.channel = [] := by
  obtain ⟨events, journal, tells⟩ := dispatch_journal s a (bound + 1) arrivals
  rw [← ends] at journal
  -- all that is submitted is the action
  have others : events.filterMap Event.submits? = [] := by
    refine List.filterMap_eq_nil_iff.2 fun e member => ?_
    cases e with
    | issued route c =>
        cases route with
        | direct => exact absurd member (tells.indirect c)
        | channel =>
            refine unsent c (mem_issued.2 ?_)
            rw [happened_eq journal]
            exact List.mem_cons_of_mem _ member
    | _ => rfl
  have submits : d.journal.filterMap Event.submits? =
      s.journal.filterMap Event.submits? ++ [.action a] := by
    have first : Event.submits? (.issued .direct (.dispatch a) : Event C) = some (.action a) := rfl
    rw [journal, List.filterMap_append, List.filterMap_cons_some first, others]
  have empty : d.channel = [] := by
    rw [ends]
    exact run_channel (bound + 1) _
  have grown : s.journal <+: d.journal := ⟨_, journal.symm⟩
  obtain ⟨more, takes⟩ := taken_grows grown
  have all := after.perm
  have sofar := before.perm
  rw [pending, channel, List.filterMap_nil, List.append_nil, List.append_nil] at sofar
  rw [empty, List.filterMap_nil, List.append_nil, submits, ← takes, List.append_assoc] at all
  have rest : more ++ d.pending = [.action a] := by
    refine List.perm_singleton.1 ((List.perm_append_left_iff (taken s.journal)).1 ?_)
    exact all.trans (sofar.symm.append_right _)
  have progress : d.pending = [] ∨ (taken s.journal).length + (bound + 1) ≤
      (taken d.journal).length := by
    let ready : Session C :=
      { { s with arrivals := arrivals }.note (.issued .direct (.dispatch a)) with
        pending := s.pending ++ [Work.action a] }
    have same : taken ready.journal = taken s.journal := by simp [ready, note, taken_concat]
    rw [ends, ← same]
    exact run_progress (bound + 1) ready
  have done : d.pending = [] := by
    rcases progress with done | busy
    · exact done
    · have size := congrArg List.length rest
      rw [← takes, List.length_append] at busy
      rw [List.length_append, List.length_singleton] at size
      exact List.length_eq_zero_iff.1 (by omega)
  refine ⟨?_, done, empty⟩
  rw [done, List.append_nil] at rest
  rw [← takes, rest]

theorem dispatch_alone_applies {s d : Session C} (was : s = ofCalls snapshot world calls)
    (ends : d = s.serve ⟨.dispatch a, bound + 1, arrivals⟩) (pending : s.pending = [])
    (channel : s.channel = []) (unsent : ∀ c ∈ issued .channel (happened s d), c.work? = none)
    (passed : ∀ m b shown, .consulted m b shown false ∉ d.journal) :
    applied d.journal = applied s.journal ++ [a] ∧ d.snapshot = s.snapshot.reduce a ∧
      Resting d := by
  have whole : d = ofCalls snapshot world (calls ++ [⟨.dispatch a, bound + 1, arrivals⟩]) := by
    rw [ends, was, ofCalls_concat]
  obtain ⟨takes, done, -⟩ := dispatch_alone (was ▸ accounted_ofCalls snapshot world calls)
    (whole ▸ accounted_ofCalls snapshot world _) ends pending channel unsent
  have grown : s.journal <+: d.journal := by
    obtain ⟨events, journal, -⟩ := dispatch_journal s a (bound + 1) arrivals
    exact ⟨_, (ends ▸ journal).symm⟩
  have followed : applied s.journal = (taken s.journal).filterMap Work.action? := by
    rw [was] at grown ⊢
    exact ofCalls_applied _ _ _ fun m b shown member => passed m b shown (grown.subset member)
  have following : applied d.journal = (taken d.journal).filterMap Work.action? := by
    rw [whole] at passed ⊢
    exact ofCalls_applied _ _ _ passed
  have applies : applied d.journal = applied s.journal ++ [a] := by
    rw [following, followed, takes, List.filterMap_append]
    rfl
  have before : Folded snapshot s := was ▸ folded_ofCalls snapshot world calls
  have after : Folded snapshot d := whole ▸ folded_ofCalls snapshot world _
  refine ⟨applies, ?_, ?_⟩
  · rw [after.snapshot, applies, List.foldl_append, ← before.snapshot]
    rfl
  · rw [ends] at done ⊢
    exact resting_run done

end Dispatch

/-! ## Who is called, and how often -/

theorem held_kept {role : Role} {tag : Tag} {before events : List (Event C)}
    (listed : tag ∈ held role before) (kept : Kept tag.2 events) :
    tag ∈ held role (before ++ events) := by
  obtain ⟨first, later, rfl, still⟩ := mem_held.1 listed
  refine mem_held.2 ⟨first, later ++ events, by simp, fun route member => ?_⟩
  rcases List.mem_append.1 member with earlier | late
  · exact still route earlier
  · exact kept route late

section Turns
variable {role : Role} {wants : Nat → Prop} {call : Nat → Event C → Prop}
  {before pass : List (Event C)} {due : List Tag} {tag : Tag}

theorem Turns.called_iff {later : List Tag} (turns : Turns role wants call before due pass later)
    (calls : ∀ number e, call number e → e.called? = some (role, number))
    (nodup : (due.map (·.1)).Nodup) (listed : tag ∈ held role before) (among : tag ∈ due)
    (kept : Kept tag.2 pass) :
    (role, tag.1) ∈ pass.filterMap Event.called? ↔ tag ∉ later ∧ wants tag.1 := by
  induction turns with
  | start => simp [among]
  | aside e sofar outside known ih =>
      have nobody : e.called? = none := by
        cases e with
        | observed | heard => cases outside
        | _ => rfl
      simpa [nobody] using ih (kept_concat.1 kept).1
  | @called pass next later e sofar still wanted here ih =>
      obtain ⟨front, rfl, -⟩ := sofar.order calls
      have sooner := ih (kept_concat.1 kept).1
      have alone : next ∉ later := by
        have parts := (List.Nodup.of_map Prod.fst nodup).of_append_right
        exact (List.nodup_cons.1 parts).1
      have mine : tag.1 = next.1 ↔ tag = next := by
        refine ⟨fun same => ?_, congrArg Prod.fst⟩
        exact List.inj_on_of_nodup_map nodup among (by simp) same
      rw [List.filterMap_append, List.mem_append, sooner]
      simp only [List.filterMap_cons, calls _ _ here, List.filterMap_nil, Prod.mk.injEq,
        true_and, mine, List.mem_cons, not_or]
      by_cases first : tag = next
      · subst first
        simp [alone, wanted]
      · simp [first]
  | @spared pass next later sofar unwanted ih =>
      obtain ⟨front, rfl, -⟩ := sofar.order calls
      rw [ih kept, List.mem_cons, not_or]
      by_cases first : tag = next
      · subst first
        simp [unwanted (held_kept listed kept)]
      · simp [first]

theorem Turns.count [Decidable (wants tag.1)] (turns : Turns role wants call before due pass [])
    (calls : ∀ number e, call number e → e.called? = some (role, number))
    (nodup : (due.map (·.1)).Nodup) (listed : tag ∈ held role before) (among : tag ∈ due)
    (kept : Kept tag.2 pass) :
    (pass.filterMap Event.called?).count (role, tag.1) = if wants tag.1 then 1 else 0 := by
  obtain ⟨front, rfl, order⟩ := turns.order calls
  rw [List.append_nil] at nodup
  have once : (pass.filterMap Event.called?).Nodup := by
    have pairs := nodup.map (f := Prod.mk role) fun _ _ same => (Prod.mk.inj same).2
    rw [List.map_map] at pairs
    exact order.nodup pairs
  rw [once.count]
  simp [turns.called_iff calls (by simpa using nodup) listed among kept]

end Turns

theorem telling_quiet {front rest : List (Event C)} (before : telling front = false)
    (quiet : applied rest = []) : telling (front ++ rest) = false := by
  induction rest using List.reverseRecOn with
  | nil => rwa [List.append_nil]
  | append_singleton rest e ih =>
      rw [applied_concat] at quiet
      obtain ⟨none, last⟩ := List.append_eq_nil_iff.1 quiet
      rw [← List.append_assoc, telling_concat]
      cases e with
      | applied => cases last
      | finished => rfl
      | _ => exact ih none

theorem Tells.uncalled (before after : List (Event C)) {events : List (Event C)} {number : Nat}
    (tells : Tells (before ++ events ++ after)) (untold : telling before = false)
    (quiet : applied events = []) : (.observer, number) ∉ events.filterMap Event.called? := by
  intro member
  obtain ⟨e, there, call⟩ := List.mem_filterMap.1 member
  obtain ⟨front, rest, rfl⟩ := List.append_of_mem there
  have told := tells.calls (before ++ front) e (rest ++ after) (by simp) number call
  rw [applied_append] at quiet
  rw [telling_quiet untold (List.append_eq_nil_iff.1 quiet).1] at told
  cases told

theorem Tells.count {before pass after : List (Event C)} {a : Action} {w : Work}
    (tells : Tells (before ++ .applied a :: pass ++ .finished w :: after))
    (silent : applied before = []) (still : applied after = []) (number : Nat) :
    ((before ++ .applied a :: pass ++ .finished w :: after).filterMap Event.called?).count
        (.observer, number) =
      (pass.filterMap Event.called?).count (.observer, number) := by
  have sooner : (before.filterMap Event.called?).count (.observer, number) = 0 :=
    List.count_eq_zero.2 (Tells.uncalled [] _ (by simpa using tells) rfl silent)
  have later : (after.filterMap Event.called?).count (.observer, number) = 0 := by
    let front := before ++ .applied a :: pass ++ [.finished w]
    have ended : telling front = false := telling_concat _ _
    exact List.count_eq_zero.2
      (Tells.uncalled front [] (by simpa [front] using tells) ended still)
  have split : (before ++ .applied a :: pass ++ .finished w :: after).filterMap Event.called? =
      before.filterMap Event.called? ++ pass.filterMap Event.called? ++
        after.filterMap Event.called? := by
    rw [List.filterMap_append, List.filterMap_append]
    rfl
  rw [split, List.count_append, List.count_append, sooner, later, Nat.zero_add, Nat.add_zero]

/-! ## Two dispatches -/

section Twice
variable {snapshot : Snapshot} {world : C.World} {calls : List (Call C)} {a : Action}

theorem dispatch_pass {s d : Session C} {bound : Nat} {arrivals : List (List Command)}
    (was : s = ofCalls snapshot world calls) (ends : d = s.serve ⟨.dispatch a, bound, arrivals⟩)
    (applies : applied d.journal = applied s.journal ++ [a]) :
    ∃ before pass after, let opened := .issued .direct (.dispatch a) :: before
      happened s d = opened ++ .applied a :: pass ++ .finished (.action a) :: after ∧
        applied before = [] ∧ applied after = [] ∧
        Tells (before ++ .applied a :: pass ++ .finished (.action a) :: after) ∧
        Told (wishes calls) s.snapshot (s.snapshot.reduce a)
          (s.journal ++ opened ++ [.applied a]) pass [] := by
  obtain ⟨events, journal, tells⟩ := dispatch_journal s a bound arrivals
  rw [← ends] at journal
  -- one action is applied, somewhere among the events
  have one : applied events = [a] := by
    rw [journal, applied_append] at applies
    exact List.append_cancel_left applies
  obtain ⟨before, opening, after, rfl, untold, opens, rest⟩ := List.filterMap_eq_cons_iff.1 one
  obtain rfl : opening = .applied a := by cases opening <;> simp_all
  have silent : applied before = [] := List.filterMap_eq_nil_iff.2 untold
  have passing : Passing (wishes calls) snapshot (.idle, s) := by
    rw [was]
    exact passing_ofCalls snapshot world calls
  have passed : Passing (wishes calls) snapshot (.idle, d) := by
    have same : wishes (calls ++ [⟨.dispatch a, bound, arrivals⟩]) = wishes calls := by
      simp [wishes, Operation.wish?]
    rw [ends, was, ← ofCalls_concat, ← same]
    exact passing_ofCalls snapshot world _
  let opened : List (Event C) := .issued .direct (.dispatch a) :: before
  have parts : d.journal = (s.journal ++ opened) ++ .applied a :: after := by simp [journal, opened]
  obtain ⟨pass, tail, rfl, told⟩ := (passed.passed _ a after parts).ended rfl
  have previous : (applied (s.journal ++ opened)).foldl Snapshot.reduce snapshot = s.snapshot := by
    have unchanged : applied (s.journal ++ opened) = applied s.journal := by
      rw [applied_append, List.append_right_eq_self]
      exact silent
    rw [unchanged]
    exact passing.folded.snapshot.symm
  rw [previous] at told
  refine ⟨before, pass, tail, ?_, silent, ?_, by simpa using tells, told⟩
  · simp [happened_eq journal]
  · have last : applied pass ++ applied tail = [] := by
      rw [← rest, ← applied, applied_append]
      rfl
    exact (List.append_eq_nil_iff.1 last).2

theorem dispatch_calls {s d : Session C} {bound : Nat} {arrivals : List (List Command)}
    (was : s = ofCalls snapshot world calls) (ends : d = s.serve ⟨.dispatch a, bound, arrivals⟩)
    (applies : applied d.journal = applied s.journal ++ [a]) (rests : Resting s)
    {o : Subscription Selector C.Observer} (listed : o ∈ s.observers)
    (kept : Kept o.id (happened s d)) :
    ((happened s d).filterMap Event.called?).count (.observer, o.number) =
      if o.interest s.snapshot (s.snapshot.reduce a) then 1 else 0 := by
  classical
  obtain ⟨before, pass, after, events, silent, still, tells, told⟩ := dispatch_pass was ends applies
  have passing := passing_ofCalls snapshot world calls
  rw [← was] at passing
  let opened := s.journal ++ .issued .direct (.dispatch a) :: before ++ [.applied a]
  have parts : d.journal = opened ++ (pass ++ .finished (.action a) :: after) := by
    obtain ⟨_, journal, -⟩ := dispatch_journal s a bound arrivals
    rw [ends, journal, ← happened_eq journal, ← ends, events]
    simp [opened]
  have suits : Each Event.Suits opened := by
    have all := subscribed_ofCalls snapshot world (calls ++ [⟨.dispatch a, bound, arrivals⟩])
    rw [ofCalls_concat, ← was, ← ends] at all
    exact all.suits.front parts
  have nodup : ((held .observer opened).map (·.1)).Nodup :=
    (held_sorted suits .observer).1.imp Nat.ne_of_lt
  -- the subscription is held when the pass starts, and when its turn comes
  have here : (o.number, o.id) ∈ held .observer s.journal := by
    have all := passing.subscribed.mem rests.channel .observer
    simp only [present, Phase.newcomer?, Option.toList_none, List.append_nil] at all
    rw [← all]
    exact List.mem_map.2 ⟨o, List.mem_filter.2 ⟨listed, rests.observers o listed⟩, rfl⟩
  rw [events] at kept ⊢
  have due : (o.number, o.id) ∈ held .observer opened := by
    rw [show opened = s.journal ++ (.issued .direct (.dispatch a) :: before ++ [.applied a]) by
      simp [opened]]
    refine held_kept here fun route member => kept route ?_
    simp only [List.mem_append, List.mem_cons] at member ⊢
    tauto
  have calls_of : ∀ number e, Shows (C := C) (s.snapshot.reduce a) number e →
      e.called? = some (.observer, number) := by
    rintro number e ⟨client, rfl⟩
    rfl
  have wanted : Wants (wishes calls) s.snapshot (s.snapshot.reduce a) o.number ↔
      o.interest s.snapshot (s.snapshot.reduce a) = true := by
    have wish := passing.wishing.observers o listed
    simp [Wants, wish]
  have turn := told.count calls_of nodup due due fun route member => kept route (by simp [member])
  rw [← if_congr wanted rfl rfl, ← turn, ← tells.count silent still]
  rfl

theorem serve_wish (snapshot : Snapshot) (world : C.World) (calls : List (Call C)) (c : Call C)
    {o : Subscription Selector C.Observer}
    (listed : o ∈ ((ofCalls snapshot world calls).serve c).observers) :
    (wishes (calls ++ [c]))[o.number]? = some (o.id, .inl o.interest) := by
  rw [← ofCalls_concat] at listed
  exact (passing_ofCalls snapshot world (calls ++ [c])).wishing.observers o listed

end Twice

/-- An action that is dispatched again, with nothing else to do and no middleware that holds it
back, changes nothing. Who subscribed to changes of an aspect is called for it exactly if the aspect
holds a NaN. -/
theorem redelivery {a : Action} (other : a ≠ .currency .toggleDisplay) :
    (∀ s : Snapshot, (s.reduce a).reduce a = s.reduce a) ∧
      ∀ (snapshot : Snapshot) (world : C.World) (calls : List (Call C)) (bound again : Nat)
        (arrivals later : List (List Command)) (s first second : Session C),
        s = ofCalls snapshot world calls →
        first = s.serve ⟨.dispatch a, bound + 1, arrivals⟩ →
        second = first.serve ⟨.dispatch a, again + 1, later⟩ →
        s.pending = [] → s.channel = [] →
        (∀ c ∈ issued .channel (happened s second), c.work? = none) →
        (∀ m b shown, .consulted m b shown false ∉ second.journal) →
        Resting first ∧ Resting second ∧ second.snapshot = first.snapshot ∧
          ∀ o ∈ first.observers, ∀ aspect : Aspect, o.interest = aspect.differs →
            Kept o.id (happened first second) →
            ((happened first second).filterMap Event.called?).count (.observer, o.number) =
              if aspect.holdsNaN first.snapshot then 1 else 0 := by
  refine ⟨fun s => s.reduce_reduce other, ?_⟩
  intro snapshot world calls bound again arrivals later s first second was once twice pending
    channel unsent passed
  obtain ⟨events, sooner, -⟩ := dispatch_journal s a (bound + 1) arrivals
  obtain ⟨events', afterwards, -⟩ := dispatch_journal first a (again + 1) later
  rw [← once] at sooner
  rw [← twice] at afterwards
  have all : happened s second = happened s first ++ happened first second := by
    rw [happened_eq sooner, happened_eq afterwards]
    refine happened_eq ?_
    rw [afterwards, sooner, List.append_assoc]
  rw [all, issued_append] at unsent
  have since : first = ofCalls snapshot world (calls ++ [⟨.dispatch a, bound + 1, arrivals⟩]) := by
    rw [ofCalls_concat, ← was, once]
  obtain ⟨-, moved, rests⟩ := dispatch_alone_applies was once pending channel
    (fun c member => unsent c (List.mem_append_left _ member))
    (fun m b shown member => passed m b shown (afterwards ▸ List.mem_append_left _ member))
  obtain ⟨applies, next, ended⟩ := dispatch_alone_applies since twice rests.pending rests.channel
    (fun c member => unsent c (List.mem_append_right _ member)) passed
  have still : first.snapshot.reduce a = first.snapshot := by
    rw [moved]
    exact s.snapshot.reduce_reduce other
  refine ⟨rests, ended, next.trans still, fun o listed aspect wish kept => ?_⟩
  rw [dispatch_calls since twice applies rests listed kept, still, wish, aspect.differs_self]

def onlookers : Clients where
  World := Unit
  Middleware := Empty
  Observer := Unit
  Listener := Empty
  consult m := m.elim
  observe o _ w := ⟨o, w, [], []⟩
  hear l := l.elim

def attending (aspect : Aspect) : Call onlookers :=
  ⟨.subscribe ⟨aspect.name⟩ aspect.differs (), 1, []⟩

def attended : List (Call onlookers) :=
  [attending (.field .syncProgress), attending .snapshot, attending (.field .balance)]

def lost : Action := .wallet (.setSyncProgress .notANumber 1)

def onlooked : Session onlookers := ofCalls (.initial .standard) () attended

def lostOnce : Session onlookers := onlooked.serve ⟨.dispatch lost, 1, []⟩

def lostTwice : Session onlookers := lostOnce.serve ⟨.dispatch lost, 1, []⟩

theorem lost_progress_redelivered :
    lost ≠ .currency .toggleDisplay ∧ onlooked.pending = [] ∧ onlooked.channel = [] ∧
      (∀ c ∈ issued .channel (happened onlooked lostTwice), c.work? = none) ∧
      (∀ m b shown, .consulted m b shown false ∉ lostTwice.journal) ∧
      lostOnce.observers.map (·.number) = [0, 1, 2] ∧ lostTwice.snapshot = lostOnce.snapshot ∧
      ∀ o ∈ lostOnce.observers, Kept o.id (happened lostOnce lostTwice) ∧
        ((happened lostOnce lostTwice).filterMap Event.called?).count (.observer, o.number) =
          if o.number = 2 then 0 else 1 := by
  have other : lost ≠ .currency .toggleDisplay := by decide
  have pending : onlooked.pending = [] := by decide +kernel
  have channel : onlooked.channel = [] := by decide +kernel
  have unsent : ∀ c ∈ issued .channel (happened onlooked lostTwice), c.work? = none := by
    decide +kernel
  have passed : ∀ m b shown, .consulted m b shown false ∉ lostTwice.journal := fun m => m.elim
  have numbered : lostOnce.observers.map (·.number) = [0, 1, 2] := by decide +kernel
  have kept (id : SubscriberId) : Kept id (happened lostOnce lostTwice) := by
    have direct : issued .direct (happened lostOnce lostTwice) = [.dispatch lost] := by
      decide +kernel
    have channel : issued .channel (happened lostOnce lostTwice) = [] := by decide +kernel
    intro route member
    have there := mem_issued.2 member
    cases route with
    | direct => simp [direct] at there
    | channel => simp [channel] at there
  obtain ⟨-, -, still, called⟩ := (redelivery (C := onlookers) other).2 (.initial .standard) ()
    attended 0 0 [] [] onlooked lostOnce lostTwice rfl rfl rfl pending channel unsent passed
  refine ⟨other, pending, channel, unsent, passed, numbered, still, fun o listed => ⟨kept o.id, ?_⟩⟩
  have among : o.number ∈ lostOnce.observers.map (·.number) := List.mem_map_of_mem listed
  rw [numbered] at among
  have wish := serve_wish (C := onlookers) (.initial .standard) () attended ⟨.dispatch lost, 1, []⟩
    listed
  have gated {number : Nat} {aspect : Aspect} (here : o.number = number)
      (wished : (wishes (attended ++ [⟨.dispatch lost, 1, []⟩]))[number]? =
        some (⟨aspect.name⟩, .inl aspect.differs)) : o.interest = aspect.differs := by
    rw [here, wished, Option.some.injEq, Prod.mk.injEq, Sum.inl.injEq] at wish
    exact wish.2.symm
  simp only [List.mem_cons, List.not_mem_nil, or_false] at among
  rcases among with first | second | third
  · have lone := called o listed (.field .syncProgress) (gated first rfl) (kept o.id)
    have nan : (Aspect.field .syncProgress).holdsNaN lostOnce.snapshot = true := by decide +kernel
    rw [lone, nan, first]
    rfl
  · have whole := called o listed .snapshot (gated second rfl) (kept o.id)
    have nan : Aspect.snapshot.holdsNaN lostOnce.snapshot = true := by decide +kernel
    rw [whole, nan, second]
    rfl
  · have other := called o listed (.field .balance) (gated third rfl) (kept o.id)
    have none : (Aspect.field .balance).holdsNaN lostOnce.snapshot = false := by decide +kernel
    rw [other, none, third]
    rfl

end Session
end WalletLoop
