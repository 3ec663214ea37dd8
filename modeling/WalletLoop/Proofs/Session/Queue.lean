import WalletLoop.Proofs.Session.History

/-!
# The order in which work is done

Work is submitted directly or through the channel. A `Ticket` stands for one submission, at its
place in the journal. Direct submissions enter the queue at once, those through the channel when it
is emptied; `intake` follows them. The queue is worked off in the order of the tickets in it
(`Accounted`), which need not be the order of their times.
-/

namespace WalletLoop

/-- A submission of work. Its time is the number of events before it. -/
structure Ticket where
  time : Nat
  route : Route
  work : Work
deriving DecidableEq

/-- The tickets in the channel, and all that ever entered the queue. -/
structure Intake where
  waiting : List Ticket
  queue : List Ticket

variable {C : Clients}

def Event.ticket? (time : Nat) : Event C → Option Ticket
  | .issued route c => c.work?.map fun w => ⟨time, route, w⟩
  | _ => none

def Intake.next (i : Intake) (time : Nat) (e : Event C) : Intake :=
  match e with
  | .issued .channel _ => { i with waiting := i.waiting ++ (e.ticket? time).toList }
  | .issued .direct _ => { i with queue := i.queue ++ (e.ticket? time).toList }
  | .collected .. => ⟨[], i.queue ++ i.waiting⟩
  | _ => i

def Event.isCollected : Event C → Bool
  | .collected .. => true
  | _ => false

namespace Session

def submitted (journal : List (Event C)) : List Ticket :=
  journal.zipIdx.filterMap fun e => e.1.ticket? e.2

def intake (journal : List (Event C)) : Intake :=
  journal.zipIdx.foldl (fun i e => i.next e.2 e.1) ⟨[], []⟩

@[simp]
theorem submitted_concat (journal : List (Event C)) (e : Event C) :
    submitted (journal ++ [e]) = submitted journal ++ (e.ticket? journal.length).toList := by
  cases same : e.ticket? journal.length <;> simp [submitted, List.zipIdx_append, same]

@[simp]
theorem intake_concat (journal : List (Event C)) (e : Event C) :
    intake (journal ++ [e]) = (intake journal).next journal.length e := by
  simp [intake, List.zipIdx_append]

theorem intake_complete (journal : List (Event C)) :
    (intake journal).queue.filter (·.route = .direct) =
        (submitted journal).filter (·.route = .direct) ∧
      (intake journal).queue.filter (·.route = .channel) ++ (intake journal).waiting =
        (submitted journal).filter (·.route = .channel) ∧
      ∀ t ∈ (intake journal).waiting, t.route = .channel := by
  induction journal using List.reverseRecOn with
  | nil => simp [intake, submitted]
  | append_singleton journal e ih =>
      obtain ⟨direct, channel, routes⟩ := ih
      simp only [intake_concat, submitted_concat, List.filter_append, ← direct, ← channel]
      cases e with
      | issued route c =>
          cases route <;> cases asks : c.work? <;>
            simp [Intake.next, Event.ticket?, asks] <;> grind
      | collected => simp [Intake.next, Event.ticket?]; grind
      | _ => simpa [Intake.next, Event.ticket?] using routes

theorem ticket?_eq_some {e : Event C} {time : Nat} {t : Ticket} (h : e.ticket? time = some t) :
    t.time = time ∧ ∃ c, e = .issued t.route c ∧ c.work? = some t.work := by
  cases e with
  | issued route c =>
      obtain ⟨w, asks, rfl⟩ := Option.map_eq_some_iff.1 h
      exact ⟨rfl, c, rfl, asks⟩
  | _ => cases h

theorem mem_submitted {journal : List (Event C)} {t : Ticket} :
    t ∈ submitted journal ↔ ∃ e, journal[t.time]? = some e ∧ e.ticket? t.time = some t := by
  simp only [submitted, List.mem_filterMap, Prod.exists, List.mem_zipIdx_iff_getElem?]
  constructor
  · rintro ⟨e, time, found, same⟩
    obtain ⟨rfl, -⟩ := ticket?_eq_some same
    exact ⟨e, found, same⟩
  · rintro ⟨e, found, same⟩
    exact ⟨e, t.time, found, same⟩

theorem submitted_times (journal : List (Event C)) :
    (submitted journal).Pairwise (·.time < ·.time) ∧
      ∀ t ∈ submitted journal, t.time < journal.length := by
  induction journal using List.reverseRecOn with
  | nil => simp [submitted]
  | append_singleton journal e ih =>
      obtain ⟨sorted, earlier⟩ := ih
      have last : ∀ t ∈ (e.ticket? journal.length).toList, t.time = journal.length := by
        intro t member
        exact (ticket?_eq_some (Option.mem_toList.1 member)).1
      rw [submitted_concat]
      constructor
      · rw [List.pairwise_append]
        refine ⟨sorted, ?_, fun t early u late => (last u late).symm ▸ earlier t early⟩
        cases e.ticket? journal.length <;> simp
      · intro t member
        rw [List.length_append, List.length_singleton]
        rcases List.mem_append.1 member with early | late
        · exact Nat.lt_succ_of_lt (earlier t early)
        · exact (last t late) ▸ Nat.lt_succ_self _

theorem submitted_nodup (journal : List (Event C)) : (submitted journal).Nodup :=
  (submitted_times journal).1.imp fun early same => by simp [same] at early

theorem intake_perm (journal : List (Event C)) :
    ((intake journal).queue ++ (intake journal).waiting).Perm (submitted journal) := by
  induction journal using List.reverseRecOn with
  | nil => exact .refl _
  | append_singleton journal e ih =>
      rw [intake_concat, submitted_concat]
      cases e with
      | issued route c =>
          cases route with
          | direct =>
              refine .trans ?_ (ih.append_right _)
              simp only [Intake.next, List.append_assoc]
              exact List.perm_append_comm.append_left _
          | channel =>
              simpa only [Intake.next, List.append_assoc] using ih.append_right _
      | _ => simpa [Intake.next, Event.ticket?] using ih

theorem intake_nodup (journal : List (Event C)) :
    ((intake journal).queue ++ (intake journal).waiting).Nodup :=
  (intake_perm journal).nodup_iff.2 (submitted_nodup journal)

theorem queue_grows (journal later : List (Event C)) :
    (intake journal).queue <+: (intake (journal ++ later)).queue := by
  induction later using List.reverseRecOn with
  | nil => simp
  | append_singleton later e ih =>
      rw [← List.append_assoc, intake_concat]
      refine ih.trans ?_
      cases e with
      | issued route c => cases route <;> simp [Intake.next]
      | _ => simp [Intake.next]

theorem intake_disjoint {journal : List (Event C)} {t : Ticket}
    (waits : t ∈ (intake journal).waiting) : t ∉ (intake journal).queue :=
  fun queued => (List.nodup_append.1 (intake_nodup journal)).2.2 t queued t waits rfl

theorem queued_iff {journal : List (Event C)} {t : Ticket} (waits : t ∈ (intake journal).waiting)
    (later : List (Event C)) :
    (t ∈ (intake (journal ++ later)).queue ∨ t ∈ (intake (journal ++ later)).waiting) ∧
      (t ∈ (intake (journal ++ later)).queue ↔ ∃ e ∈ later, e.isCollected = true) := by
  induction later using List.reverseRecOn with
  | nil => simp [waits, intake_disjoint waits]
  | append_singleton later e ih =>
      obtain ⟨kept, queued⟩ := ih
      rw [← List.append_assoc, intake_concat]
      cases e with
      | issued route c =>
          have other : ∀ time, (Event.issued (C := C) .direct c).ticket? time ≠ some t := by
            intro time same
            have channel := (intake_complete journal).2.2 t waits
            obtain ⟨-, _, issued, -⟩ := ticket?_eq_some same
            simp [channel] at issued
          cases route with
          | direct => simpa [Intake.next, Event.isCollected, other] using ⟨kept, queued⟩
          | channel =>
              simpa [Intake.next, Event.isCollected] using ⟨kept.imp_right .inl, queued⟩
      | collected => simpa [Intake.next, Event.isCollected] using kept
      | _ => simpa [Intake.next, Event.isCollected] using ⟨kept, queued⟩

theorem pair_sublist_iff {α : Type*} {front rest : List α} {t u : α}
    (nodup : (front ++ u :: rest).Nodup) : [t, u].Sublist (front ++ u :: rest) ↔ t ∈ front := by
  constructor
  · intro pair
    have parts := List.nodup_append.1 nodup
    have fresh : u ∉ rest := (List.nodup_cons.1 parts.2.1).1
    by_contra absent
    have tail : [t, u].Sublist (u :: rest) := by
      obtain ⟨first, second, same, early, late⟩ := List.sublist_append_iff.1 pair
      cases first with
      | nil => rwa [same]
      | cons x first =>
          obtain ⟨rfl, -⟩ : t = x ∧ [u] = first ++ second := by simpa using same
          exact absurd (early.subset List.mem_cons_self) absent
    cases tail with
    | cons _ later => exact fresh (later.subset (by simp))
    | cons_cons _ later => exact fresh (later.subset (by simp))
  · intro member
    have first : [t].Sublist front := List.singleton_sublist.2 member
    have second : [u].Sublist (u :: rest) := List.singleton_sublist.2 List.mem_cons_self
    exact first.append second

def between (journal : List (Event C)) (earlier later : Nat) : List (Event C) :=
  (journal.take later).drop (earlier + 1)

theorem submission_at {journal : List (Event C)} {t : Ticket} (ht : t ∈ submitted journal) :
    ∃ c : Command, journal.take (t.time + 1) = journal.take t.time ++ [.issued t.route c] ∧
      (journal.take t.time).length = t.time ∧
      (Event.issued (C := C) t.route c).ticket? t.time = some t := by
  obtain ⟨e, at_t, issued⟩ := mem_submitted.1 ht
  obtain ⟨-, c, rfl, -⟩ := ticket?_eq_some issued
  have inside := (List.getElem?_eq_some_iff.1 at_t).1
  refine ⟨c, ?_, ?_, issued⟩
  · rw [List.take_add_one, at_t, Option.toList_some]
  · rw [List.length_take, Nat.min_eq_left (Nat.le_of_lt inside)]

theorem channel_waits {journal : List (Event C)} {t : Ticket} (ht : t ∈ submitted journal)
    (channel : t.route = .channel) : t ∈ (intake (journal.take (t.time + 1))).waiting := by
  obtain ⟨c, upTo, size, issued⟩ := submission_at ht
  rw [channel] at upTo issued
  rw [upTo, intake_concat, size]
  simp [Intake.next, issued]

theorem direct_queued {journal : List (Event C)} {u : Ticket} (hu : u ∈ submitted journal)
    (direct : u.route = .direct) :
    ∃ rest, (intake journal).queue = (intake (journal.take u.time)).queue ++ u :: rest := by
  obtain ⟨c, upTo, size, issued⟩ := submission_at hu
  rw [direct] at upTo issued
  obtain ⟨rest, parts⟩ := queue_grows (journal.take (u.time + 1)) (journal.drop (u.time + 1))
  rw [List.take_append_drop, upTo, intake_concat, size] at parts
  exact ⟨rest, by simpa [Intake.next, issued] using parts.symm⟩

theorem queued_before_iff {journal : List (Event C)} {t u : Ticket}
    (ht : t ∈ submitted journal) (hu : u ∈ submitted journal) (channel : t.route = .channel)
    (direct : u.route = .direct) (earlier : t.time < u.time) :
    [t, u].Sublist (intake journal).queue ↔
      ∃ e ∈ between journal t.time u.time, e.isCollected = true := by
  obtain ⟨rest, queue⟩ := direct_queued hu direct
  have nodup := (List.nodup_append.1 (intake_nodup journal)).1
  have before : journal.take u.time =
      journal.take (t.time + 1) ++ between journal t.time u.time := by
    have parts := List.take_append_drop (t.time + 1) (journal.take u.time)
    rw [List.take_take, Nat.min_eq_left earlier] at parts
    exact parts.symm
  rw [queue] at nodup ⊢
  rw [pair_sublist_iff nodup, before]
  exact (queued_iff (channel_waits ht channel) _).2

theorem pair_of_times {tickets : List Ticket} {t u : Ticket}
    (sorted : tickets.Pairwise (·.time < ·.time)) (ht : t ∈ tickets) (hu : u ∈ tickets)
    (earlier : t.time < u.time) : [t, u].Sublist tickets := by
  obtain ⟨front, rest, rfl⟩ := List.append_of_mem hu
  have behind := (List.pairwise_cons.1 (List.pairwise_append.1 sorted).2.1).1
  have inFront : t ∈ front := by
    rcases List.mem_append.1 ht with member | member
    · exact member
    · rcases List.mem_cons.1 member with rfl | member
      · exact absurd earlier (Nat.lt_irrefl _)
      · exact absurd earlier (Nat.lt_asymm (behind t member))
  have first : [t].Sublist front := List.singleton_sublist.2 inFront
  exact first.append (List.singleton_sublist.2 List.mem_cons_self)

theorem channel_order {journal : List (Event C)} {t u : Ticket}
    (ht : t ∈ submitted journal) (queued : u ∈ (intake journal).queue) (tc : t.route = .channel)
    (uc : u.route = .channel) (earlier : t.time < u.time) :
    [t, u].Sublist (intake journal).queue := by
  have hu : u ∈ submitted journal :=
    (intake_perm journal).subset (List.mem_append_left _ queued)
  have inOrder : [t, u].Sublist ((submitted journal).filter (·.route = .channel)) :=
    pair_of_times ((submitted_times journal).1.filter _) (by simp [ht, tc]) (by simp [hu, uc])
      earlier
  rw [← (intake_complete journal).2.1] at inOrder
  obtain ⟨first, second, same, front, rest⟩ := List.sublist_append_iff.1 inOrder
  cases second.eq_nil_or_concat' with
  | inl none =>
      rw [none, List.append_nil] at same
      exact same ▸ front.trans List.filter_sublist
  | inr some =>
      obtain ⟨second, last, rfl⟩ := some
      have ends : last = u := by
        have := congrArg List.getLast? same
        simpa using this.symm
      exact absurd queued (intake_disjoint (rest.subset (by simp [ends])))

theorem direct_order {journal : List (Event C)} {t u : Ticket} (ht : t ∈ submitted journal)
    (queued : u ∈ (intake journal).queue) (td : t.route = .direct) (earlier : t.time < u.time) :
    [t, u].Sublist (intake journal).queue := by
  obtain ⟨rest, queue⟩ := direct_queued ht td
  have absent : u ∉ (intake (journal.take t.time)).queue := by
    intro member
    have := (submitted_times _).2 u ((intake_perm _).subset (List.mem_append_left _ member))
    rw [List.length_take] at this
    omega
  rw [queue] at queued ⊢
  have later : u ∈ rest := by
    rcases List.mem_append.1 queued with member | member
    · exact absurd member absent
    · rcases List.mem_cons.1 member with rfl | member
      · exact absurd earlier (Nat.lt_irrefl _)
      · exact member
  exact ((List.singleton_sublist.2 later).cons_cons t).trans (List.sublist_append_right _ _)

structure Accounted (s : Session C) : Prop where
  waiting : (intake s.journal).waiting.map (·.work) = s.channel.filterMap Command.work?
  queue : (intake s.journal).queue.map (·.work) = taken s.journal ++ s.pending

theorem accounted_move {m m' : Moment C} (move : Move m m') (before : Accounted m.2) :
    Accounted m'.2 := by
  obtain ⟨waiting, queue⟩ := before
  cases move with
  | put p s c =>
      cases asks : c.work? <;>
        exact ⟨by simp [put, note, Intake.next, Event.ticket?, asks, waiting],
          by simp [put, note, Intake.next, taken, queue]⟩
  | empty p s =>
      exact ⟨by simp [emptied, Intake.next],
        by simp [emptied, Intake.next, taken, waiting, queue]⟩
  | take s w later next =>
      exact ⟨by simpa [note, Intake.next] using waiting,
        by simpa [note, Intake.next, taken, next] using queue⟩
  | _ =>
      exact ⟨by simpa [note, notice, compact, Intake.next] using waiting,
        by simpa [note, notice, compact, Intake.next, taken] using queue⟩

theorem accounted_request {m m' : Moment C} (request : Request m m') (before : Accounted m.2) :
    Accounted m'.2 := by
  obtain ⟨waiting, queue⟩ := before
  cases request with
  | submit s c w asks =>
      exact ⟨by simpa [note, Intake.next] using waiting,
        by simp [note, Intake.next, Event.ticket?, asks, taken, queue]⟩
  | _ =>
      exact ⟨by simpa [note, addMiddleware, released, Intake.next] using waiting,
        by simpa [note, addMiddleware, released, Intake.next, Event.ticket?, Command.work?,
          taken] using queue⟩

theorem accounted_ofCalls (snapshot : Snapshot) (world : C.World) (calls : List (Call C)) :
    Accounted (ofCalls snapshot world calls) :=
  ofCalls_induction (fun m => Accounted m.2)
    ⟨rfl, rfl⟩ (fun _ _ => accounted_move) (fun _ _ => accounted_request) calls

theorem accounted_serve (snapshot : Snapshot) (world : C.World) (calls : List (Call C))
    (c : Call C) : Accounted ((ofCalls snapshot world calls).serve c) := by
  rw [← ofCalls_concat]
  exact accounted_ofCalls snapshot world (calls ++ [c])

/-- Work is done in the order of the queue. Of two submissions the earlier one is queued first,
except that a direct one overtakes what was sent through the channel and is still there. -/
theorem work_order (snapshot : Snapshot) (world : C.World) (calls : List (Call C)) :
    let s := ofCalls snapshot world calls
    (intake s.journal).queue.map (·.work) = taken s.journal ++ s.pending ∧
      (∀ u ∈ submitted s.journal, u.route = .direct → u ∈ (intake s.journal).queue) ∧
      ∀ t ∈ submitted s.journal, ∀ u ∈ (intake s.journal).queue, t.time < u.time →
        ([t, u].Sublist (intake s.journal).queue ↔
          (t.route = .channel → u.route = .direct →
            ∃ e ∈ between s.journal t.time u.time, e.isCollected = true)) := by
  intro s
  refine ⟨(accounted_ofCalls snapshot world calls).queue, ?_, ?_⟩
  · intro u hu direct
    obtain ⟨rest, queue⟩ := direct_queued hu direct
    simp [queue]
  intro t ht u queued earlier
  have hu : u ∈ submitted s.journal := (intake_perm _).subset (List.mem_append_left _ queued)
  cases tr : t.route with
  | direct => simpa using direct_order ht queued tr earlier
  | channel =>
      cases ur : u.route with
      | channel => simpa using channel_order ht queued tr ur earlier
      | direct => simpa using queued_before_iff ht hu tr ur earlier

def unattended : Clients where
  World := Unit
  Middleware := Empty
  Observer := Empty
  Listener := Empty
  consult m := m.elim
  observe o := o.elim
  hear l := l.elim

theorem older_length_wins :
    let s := ofCalls (C := unattended) (.initial .standard) ()
      [⟨.send [.dispatch (.settings (.setPinLength 4))], 0, []⟩,
        ⟨.dispatch (.settings (.setPinLength 5)), 2, []⟩]
    submitted s.journal =
        [⟨0, .channel, .action (.settings (.setPinLength 4))⟩,
          ⟨1, .direct, .action (.settings (.setPinLength 5))⟩] ∧
      taken s.journal =
        [.action (.settings (.setPinLength 5)), .action (.settings (.setPinLength 4))] ∧
      s.pending = [] ∧ s.channel = [] ∧ s.snapshot.pinLength = 4 := by
  decide

end Session
end WalletLoop
