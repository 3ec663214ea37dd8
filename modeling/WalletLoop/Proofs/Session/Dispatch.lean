import WalletLoop.Proofs.Session.Quiescence
import WalletLoop.Proofs.Session.World

namespace WalletLoop.Session

variable {C : Clients}

theorem applied_called {Client : Type} (s : Session C) {e : Event C} (r : Reply Client C.World)
    (calls : applied [e] = []) : applied ((s.note e).absorb r).journal = applied s.journal := by
  obtain ⟨events, journal, aside⟩ := (absorb_aside (s.note e) r).journal
  rw [journal, applied_append, applied_aside aside, List.append_nil]
  change applied (s.journal ++ [e]) = _
  rw [applied_append, calls, List.append_nil]

theorem consult_journal (a : Action) (s : Session C) (ms : List C.Middleware) :
    applied (consult a ms s).2.1.journal = applied s.journal ∧
      ((consult a ms s).2.2 = false →
        ∃ m, .consulted m a s.snapshot false ∈ (consult a ms s).2.1.journal) := by
  induction ms generalizing s with
  | nil => exact ⟨rfl, fun held => by cases held⟩
  | cons m ms ih =>
      let v := C.consult m a s.snapshot s.world
      let asked := (s.note (.consulted m a s.snapshot v.passes)).absorb v.toReply
      have here : applied asked.journal = applied s.journal := applied_called s v.toReply rfl
      have shown : asked.snapshot = s.snapshot := absorb_snapshot _ _
      obtain ⟨later, held⟩ := ih asked
      rw [shown] at held
      unfold consult
      dsimp only
      split
      · exact ⟨later.trans here, held⟩
      · rename_i stops
        refine ⟨here, fun _ => ⟨m, ?_⟩⟩
        obtain ⟨events, journal, -⟩ :=
          (absorb_aside (s.note (.consulted m a s.snapshot v.passes)) v.toReply).journal
        have passes : v.passes = false := by simpa using stops
        rw [journal]
        simp [note, passes]

theorem collect_pending (s : Session C) : ∃ more, s.collect.pending = s.pending ++ more := by
  obtain ⟨ns, same⟩ := emptyChannel_eq s.arrive
  rw [collect, same]
  simp [emptied, arrive_toStore]

theorem applied_collect (s : Session C) : applied s.collect.journal = applied s.journal := by
  obtain ⟨events, journal, aside⟩ := (collect_aside s).journal
  rw [journal, applied_append, applied_aside aside, List.append_nil]

theorem apply_journal (s : Session C) (a : Action) :
    (∃ asked later, (s.apply a).journal = asked ++ .applied a :: later ∧
        applied asked = applied s.journal) ∨
      ∃ m, .consulted m a s.snapshot false ∈ (s.apply a).journal := by
  obtain ⟨still, held⟩ := consult_journal a s s.middleware
  unfold apply
  dsimp only
  split
  · let asked : Session C :=
      { (consult a s.middleware s).2.1 with middleware := (consult a s.middleware s).1 }
    obtain ⟨events, journal, -⟩ := turns_follow (notifyAt_follows s.snapshot) (asked.advance a)
      (List.range (asked.advance a).observers.length)
    refine .inl ⟨asked.journal, a.notices.map .noticed ++ events, ?_, still⟩
    refine Eq.trans journal ?_
    simp [advance, note]
  · rename_i stops
    obtain ⟨m, member⟩ := held (by simpa using stops)
    exact .inr ⟨m, List.mem_append_left _ member⟩

theorem drain_applies {s : Session C} {a : Action} {later : List Work}
    (next : s.pending = .action a :: later) (bound : Nat)
    (passes : ∀ m shown, .consulted m a shown false ∉ (drain (bound + 1) s).journal) :
    ∃ more, applied (drain (bound + 1) s).journal = applied s.journal ++ a :: more := by
  let taken : Session C := { s with pending := later }.note (.took (.action a))
  have grown : (taken.apply a).journal <+: (drain (bound + 1) s).journal := by
    have path : Moves (.idle, (taken.apply a).note (.finished (.action a)))
        (.idle, drain (bound + 1) s) := by
      rw [drain, next]
      exact ((collect_moves (p := .idle) trivial _).tail (.compact _)).trans (drain_moves bound _)
    have ended : (taken.apply a).journal <+:
        ((taken.apply a).note (.finished (.action a))).journal := List.prefix_append _ _
    exact ended.trans (journal_moves path)
  have before : applied taken.journal = applied s.journal := by
    change applied (s.journal ++ [.took (.action a)]) = _
    rw [applied_concat, List.append_nil]
  rcases apply_journal taken a with ⟨asked, events, journal, still⟩ | ⟨m, held⟩
  · obtain ⟨rest, parts⟩ := grown
    refine ⟨applied (events ++ rest), ?_⟩
    rw [← parts, journal, List.append_assoc, applied_append, still, before]
    rfl
  · exact absurd (grown.subset held) (passes m _)

theorem dispatch_applies {s : Session C} (idle : s.pending = []) (a : Action) (bound : Nat)
    (arrivals : List (List Command)) :
    let next := s.serve ⟨.dispatch a, bound + 1, arrivals⟩
    (∀ m shown, .consulted m a shown false ∉ next.journal) →
      ∃ later, applied next.journal = applied s.journal ++ a :: later := by
  intro next passes
  let issued : Session C :=
    { { s with arrivals := arrivals }.note (.issued .direct (.dispatch a)) with
      pending := s.pending ++ [Work.action a] }
  have before : applied issued.collect.journal = applied s.journal := by
    rw [applied_collect]
    change applied (s.journal ++ [.issued .direct (.dispatch a)]) = _
    rw [applied_concat, List.append_nil]
  obtain ⟨more, waiting⟩ := collect_pending issued
  have queue : issued.collect.pending = .action a :: more := by
    rw [waiting]
    simp [issued, idle]
  have drained := drain_applies queue bound passes
  rwa [before] at drained

end WalletLoop.Session
