import WalletLoop.Proofs.Session.Turns

namespace WalletLoop

variable {C : Clients}

def Operation.runs : Operation C → Bool
  | .subscribe .. | .dispatch _ | .trigger _ | .processPending => true
  | _ => false

namespace Session

structure Resting (s : Session C) : Prop where
  channel : s.channel = []
  pending : s.pending = []
  observers : ∀ o ∈ s.observers, o.active = true
  listeners : ∀ l ∈ s.listeners, l.active = true

def looked (s : Session C) : Session C :=
  { s with arrivals := [] }.note
    (.collected [] (activeNumbers s.observers) (activeNumbers s.listeners))

theorem drain_done (bound : Nat) {s : Session C} (done : s.pending = []) : drain bound s = s := by
  cases bound <;> simp [drain, done]

theorem drain_add (n m : Nat) (s : Session C) : drain (n + m) s = drain m (drain n s) := by
  induction n generalizing s with
  | zero => rw [Nat.zero_add, drain]
  | succ n ih =>
      rw [Nat.add_right_comm]
      cases next : s.pending with
      | nil => rw [drain_done _ next, drain_done _ next, drain_done _ next]
      | cons w later => simp only [drain, next, ih]

theorem run_stable {n m : Nat} {s : Session C} (more : n ≤ m) (done : (s.run n).pending = []) :
    s.run m = s.run n := by
  obtain ⟨k, rfl⟩ := Nat.exists_eq_add_of_le more
  have stopped : (drain n s.collect).pending = [] := done
  rw [run, drain_add, drain_done k stopped, run]

theorem resting_run {bound : Nat} {s : Session C} (done : (s.run bound).pending = []) :
    Resting (s.run bound) where
  channel := run_channel bound s
  pending := done
  observers := fun _ member => by simpa using (List.mem_filter.1 member).2
  listeners := fun _ member => by simpa using (List.mem_filter.1 member).2

theorem Resting.compact {s : Session C} (rests : Resting s) : s.compact = s := by
  have observers := List.filter_eq_self.2 rests.observers
  have listeners := List.filter_eq_self.2 rests.listeners
  rw [Session.compact, observers, listeners]

theorem Resting.processPending {s : Session C} (rests : Resting s) (bound : Nat) :
    s.serve ⟨.processPending, bound, []⟩ = s.looked := by
  have empty : { s with channel := [], arrivals := [] } = { s with arrivals := [] } := by
    rw [← rests.channel]
  have collected : { s with arrivals := [] }.collect = s.looked := by
    simp only [collect, arrive, List.headD_nil, List.foldl_nil, List.tail_nil, emptyChannel,
      rests.channel, looked, empty]
  have still : Resting s.looked := ⟨rests.1, rests.2, rests.3, rests.4⟩
  calc s.serve ⟨.processPending, bound, []⟩
    _ = (drain bound { s with arrivals := [] }.collect).compact := rfl
    _ = s.looked := by rw [collected, drain_done bound still.pending, still.compact]

theorem journal_move {m m' : Moment C} (move : Move m m') : m.2.journal <+: m'.2.journal := by
  cases move <;> simp [Session.put, Session.notice, note, emptied, Session.compact]

theorem journal_moves {m m' : Moment C} (path : Moves m m') : m.2.journal <+: m'.2.journal :=
  path.keep (fun m' => m.2.journal <+: m'.2.journal)
    (fun _ _ move before => before.trans (journal_move move)) (List.prefix_refl _)

theorem issued_moves {m m' : Moment C} (path : Moves m m') :
    issued .direct m'.2.journal = issued .direct m.2.journal := by
  refine path.keep (fun m' => issued .direct m'.2.journal = issued .direct m.2.journal)
    ?_ rfl
  intro m m' move before
  rw [← before]
  cases move <;> simp [Session.put, Session.notice, note, emptied, Session.compact, issued]

theorem drain_progress (bound : Nat) (s : Session C) :
    (drain bound s).pending = [] ∨
      (taken s.journal).length + bound ≤ (taken (drain bound s).journal).length := by
  induction bound generalizing s with
  | zero => exact .inr (Nat.le_refl _)
  | succ bound ih =>
      unfold drain
      split
      · rename_i done
        exact .inl done
      · rename_i w later next
        let s' := ({ s with pending := later }.perform w).collect.compact
        have path : Moves
            (.opening s.middleware w, { s with pending := later }.note (.took w)) (.idle, s') :=
          ((perform_moves { s with pending := later } w).trans
            (collect_moves (p := .idle) trivial _)).tail (.compact _)
        have grown : (taken s.journal).length + 1 ≤ (taken s'.journal).length := by
          have := (taken_grows (journal_moves path)).length_le
          simpa [note, taken_concat] using this
        refine (ih s').imp_right (Nat.le_trans ?_)
        omega

theorem run_progress (bound : Nat) (s : Session C) :
    (s.run bound).pending = [] ∨
      (taken s.journal).length + bound ≤ (taken (s.run bound).journal).length := by
  have looked : (taken s.journal).length ≤ (taken s.collect.journal).length :=
    (taken_grows (journal_moves (collect_moves (p := .idle) trivial s))).length_le
  exact (drain_progress bound s.collect).imp_right (Nat.le_trans (Nat.add_le_add_right looked _))

theorem submitted_length (journal : List (Event C)) :
    (submitted journal).length ≤
      (issued .direct journal).length + (issued .channel journal).length := by
  induction journal using List.reverseRecOn with
  | nil => simp [submitted]
  | append_singleton journal e ih =>
      rw [submitted_concat, List.length_append]
      cases e with
      | issued route c =>
          cases route <;> cases c <;> simp [Event.ticket?, Command.work?, issued] at ih ⊢ <;> omega
      | _ => simpa [Event.ticket?, issued] using ih

theorem Accounted.taken_length {s : Session C} (accounted : Accounted s) :
    (taken s.journal).length ≤
      (issued .direct s.journal).length + (issued .channel s.journal).length := by
  have queue := congrArg List.length accounted.queue
  have all := (intake_perm s.journal).length_eq
  have bounded := submitted_length s.journal
  simp only [List.length_map, List.length_append] at queue all
  omega

theorem operate_run {o : Operation C} (runs : o.runs = true) (s : Session C) :
    ∃ ready : Session C, ∀ bound, s.operate bound o = ready.run bound := by
  cases o with
  | subscribe | dispatch | trigger | processPending => exact ⟨_, fun _ => rfl⟩
  | _ => cases runs

theorem serve_stable {s : Session C} {o : Operation C} {arrivals : List (List Command)} {n m : Nat}
    (runs : o.runs = true) (more : n ≤ m) (done : (s.serve ⟨o, n, arrivals⟩).pending = []) :
    s.serve ⟨o, m, arrivals⟩ = s.serve ⟨o, n, arrivals⟩ := by
  obtain ⟨ready, ran⟩ := operate_run runs { s with arrivals := arrivals }
  simp only [serve, ran] at done ⊢
  exact run_stable more done

theorem returns {snapshot : Snapshot} {world : C.World} {calls : List (Call C)} {o : Operation C}
    {arrivals : List (List Command)} {n : Nat} (runs : o.runs = true)
    (finite : ∀ bound, (issued .channel
      ((ofCalls snapshot world calls).serve ⟨o, bound, arrivals⟩).journal).length ≤ n) :
    ∃ enough, ∀ bound ≥ enough,
      ((ofCalls snapshot world calls).serve ⟨o, bound, arrivals⟩).pending = [] ∧
        (ofCalls snapshot world calls).serve ⟨o, bound, arrivals⟩ =
          (ofCalls snapshot world calls).serve ⟨o, enough, arrivals⟩ := by
  obtain ⟨ready, ran⟩ := operate_run runs { ofCalls snapshot world calls with arrivals := arrivals }
  let ended (bound : Nat) := (ofCalls snapshot world calls).serve ⟨o, bound, arrivals⟩
  have ended_eq (bound : Nat) : ended bound = ready.run bound := ran bound
  let enough := (issued .direct ready.journal).length + n + 1
  have done : ∀ bound ≥ enough, (ended bound).pending = [] := by
    intro bound large
    have limit := (accounted_serve snapshot world calls ⟨o, bound, arrivals⟩).taken_length
    have few := finite bound
    have direct : issued .direct (ended bound).journal = issued .direct ready.journal := by
      rw [ended_eq]
      exact issued_moves (run_moves bound ready)
    have progress := run_progress bound ready
    rw [← ended_eq] at progress
    rcases progress with done | busy
    · exact done
    · change (taken (ended bound).journal).length ≤ _ at limit
      change _ ≤ n at few
      rw [direct] at limit
      omega
  exact ⟨enough, fun bound large =>
    ⟨done bound large, serve_stable runs large (done enough (Nat.le_refl _))⟩⟩

/-- Work that is sent through the channel is done once, in the order in which it was sent, and not
before the work is finished during which it was sent. If only so much is sent, an operation that
works until nothing is left returns; when it does, all work ever submitted was done, the store is at
rest, and looking for more finds nothing and calls nobody. -/
theorem channel_served (snapshot : Snapshot) (world : C.World) (calls : List (Call C)) :
    let s := ofCalls snapshot world calls
    (intake s.journal).queue.map (·.work) = taken s.journal ++ s.pending ∧
      (intake s.journal).waiting.map (·.work) = s.channel.filterMap Command.work? ∧
      (intake s.journal).queue.filter (·.route = .channel) ++ (intake s.journal).waiting =
        (submitted s.journal).filter (·.route = .channel) ∧
      (∀ before w after, s.journal = before ++ .took w :: after →
        ∃ t, (intake s.journal).queue[(taken before).length]? = some t ∧ t.work = w ∧
          t.time < before.length ∧
          ∀ v, running (before.take t.time) = some v →
            .finished v ∈ before.drop (t.time + 1)) ∧
      ∀ (o : Operation C) (arrivals : List (List Command)), o.runs = true →
        let ended bound := s.serve ⟨o, bound, arrivals⟩
        (∀ n, (∀ bound, (issued .channel (ended bound).journal).length ≤ n) →
          ∃ enough, ∀ bound ≥ enough,
            (ended bound).pending = [] ∧ ended bound = ended enough) ∧
          ∀ bound, (ended bound).pending = [] →
            Resting (ended bound) ∧
              taken (ended bound).journal = (intake (ended bound).journal).queue.map (·.work) ∧
              (intake (ended bound).journal).queue.Perm (submitted (ended bound).journal) ∧
              ∀ again, (ended bound).serve ⟨.processPending, again, []⟩ = (ended bound).looked := by
  intro s
  have accounted : Accounted s := accounted_ofCalls snapshot world calls
  refine ⟨accounted.queue, accounted.waiting, (intake_complete _).2.1, ?_, ?_⟩
  · intro before w after takes
    rw [takes]
    exact deferred_ofCalls snapshot world calls takes
  intro o arrivals runs ended
  refine ⟨fun n finite => returns runs finite, ?_⟩
  intro bound done
  have rests : Resting (ended bound) := by
    obtain ⟨ready, same⟩ := operate_run runs { s with arrivals := arrivals }
    have ran : ended bound = ready.run bound := same bound
    rw [ran] at done ⊢
    exact resting_run done
  have all : Accounted (ended bound) := accounted_serve snapshot world calls ⟨o, bound, arrivals⟩
  have none : (intake (ended bound).journal).waiting = [] := by
    simpa [rests.channel] using all.waiting
  refine ⟨rests, ?_, ?_, rests.processPending⟩
  · rw [all.queue, done, List.append_nil]
  · simpa [none] using intake_perm (ended bound).journal

def lengths (bound : Nat) : Session unattended :=
  (ofCalls (.initial .standard) () [⟨.send [.dispatch (.settings (.setPinLength 4))], 0, []⟩]).serve
    ⟨.dispatch (.settings (.setPinLength 5)), bound, []⟩

theorem lengths_served :
    (∀ bound, (issued .channel (lengths bound).journal).length ≤ 1) ∧
      (∃ enough, ∀ bound ≥ enough, (lengths bound).pending = [] ∧ lengths bound = lengths enough) ∧
      (lengths 2).pending = [] ∧ Resting (lengths 2) := by
  have done : (lengths 2).pending = [] := by decide
  have one : ∀ bound, (issued .channel (lengths bound).journal).length ≤ 1 := by
    intro bound
    rcases bound with _ | _ | bound
    · decide
    · decide
    · have same : lengths (bound + 2) = lengths 2 := serve_stable rfl (Nat.le_add_left 2 bound) done
      rw [same]
      decide
  obtain ⟨-, -, -, -, operations⟩ := channel_served (C := unattended) (.initial .standard) ()
    [⟨.send [.dispatch (.settings (.setPinLength 4))], 0, []⟩]
  obtain ⟨returned, rest⟩ := operations (.dispatch (.settings (.setPinLength 5))) [] rfl
  exact ⟨one, returned 1 one, done, (rest 2 done).1⟩

end Session
end WalletLoop
