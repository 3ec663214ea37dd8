import WalletLoop.Proofs.Session.Queue

namespace WalletLoop

variable {C : Clients}

def Event.Fits (running : Option Work) : Event C → Prop
  | .took _ | .added _ | .registered .. | .issued .direct _ => running = none
  | .consulted _ a _ _ | .applied a => running = some (.action a)
  | .observed .. => ∀ t, running ≠ some (.trigger t)
  | .heard _ _ t => running = some (.trigger t)
  | .finished w => running = some w
  | .issued .channel _ | .collected .. | .noticed _ => True

namespace Session

structure Working (m : Moment C) : Prop where
  now : running m.2.journal = m.1.work?
  fits : Each (fun before e => e.Fits (running before)) m.2.journal

theorem working_move {m m' : Moment C} (move : Move m m') (before : Working m) : Working m' := by
  obtain ⟨now, fits⟩ := before
  cases move with
  | take s w later next =>
      dsimp only at now fits
      refine ⟨?_, each_concat.2 ⟨fits, now⟩⟩
      cases w <;> simp [note, running_concat, Phase.opening, Phase.work?]
  | _ =>
      dsimp only at now fits
      constructor
      · simp [Session.put, Session.notice, note, emptied, Session.compact, running_concat, now,
          Phase.work?]
      · first
          | exact fits
          | exact each_concat.2 ⟨fits, by simp [Event.Fits, now, Phase.work?]⟩

theorem working_request {m m' : Moment C} (request : Request m m') (before : Working m) :
    Working m' := by
  obtain ⟨now, fits⟩ := before
  cases request with
  | join s number id interest client => exact ⟨now, fits⟩
  | _ =>
      dsimp only at now fits
      constructor
      · simp [addMiddleware, released, note, running_concat, now, Phase.work?]
      · exact each_concat.2 ⟨fits, by simp [Event.Fits, now, Phase.work?]⟩

theorem working_ofCalls (snapshot : Snapshot) (world : C.World) (calls : List (Call C)) :
    Working (.idle, ofCalls snapshot world calls) :=
  ofCalls_induction Working ⟨rfl, each_nil _⟩ (fun _ _ => working_move)
    (fun _ _ => working_request) calls

theorem finished_between {first rest : List (Event C)} {v : Work}
    (fits : Each (fun before e => e.Fits (running before)) (first ++ rest))
    (doing : running first = some v) (ended : running (first ++ rest) = none) :
    .finished v ∈ rest := by
  induction rest generalizing first with
  | nil => simp [doing] at ended
  | cons e rest ih =>
      have fit : e.Fits (some v) := doing ▸ fits first e rest rfl
      rw [List.append_cons] at fits ended
      have later := ih fits
      rw [running_concat] at later
      cases e with
      | took w => cases fit
      | finished w =>
          cases fit
          exact List.mem_cons_self
      | _ => exact List.mem_cons_of_mem _ (later doing ended)

def FromFront (before : List (Event C)) (e : Event C) : Prop :=
  ∀ w, e = .took w → ∃ later, (intake before).queue.map (·.work) = taken before ++ w :: later

theorem fromFront_ofCalls (snapshot : Snapshot) (world : C.World) (calls : List (Call C)) :
    Each FromFront (ofCalls snapshot world calls).journal := by
  have both : Accounted (ofCalls snapshot world calls) ∧
      Each FromFront (ofCalls snapshot world calls).journal := by
    refine ofCalls_induction (fun m => Accounted m.2 ∧ Each FromFront m.2.journal)
      ⟨⟨rfl, rfl⟩, each_nil _⟩ ?_ ?_ calls
    · rintro m m' move ⟨accounted, front⟩
      refine ⟨accounted_move move accounted, ?_⟩
      cases move with
      | take s w later next =>
          refine each_concat.2 ⟨front, ?_⟩
          intro w' same
          cases same
          exact ⟨later, next ▸ accounted.queue⟩
      | _ =>
          first
            | exact front
            | exact each_concat.2 ⟨front, fun _ same => by cases same⟩
    · rintro m m' request ⟨accounted, front⟩
      refine ⟨accounted_request request accounted, ?_⟩
      cases request with
      | join s number id interest client => exact front
      | _ => exact each_concat.2 ⟨front, fun _ same => by cases same⟩
  exact both.2

theorem deferred_ofCalls (snapshot : Snapshot) (world : C.World) (calls : List (Call C))
    {before after : List (Event C)} {w : Work}
    (takes : (ofCalls snapshot world calls).journal = before ++ .took w :: after) :
    ∃ t, (intake (before ++ .took w :: after)).queue[(taken before).length]? = some t ∧ t.work = w ∧
      t.time < before.length ∧
      ∀ v, running (before.take t.time) = some v → .finished v ∈ before.drop (t.time + 1) := by
  have working := working_ofCalls snapshot world calls
  have front := fromFront_ofCalls snapshot world calls
  obtain ⟨later, queue⟩ := front before (.took w) after takes w rfl
  have at_n : ((intake before).queue.map (·.work))[(taken before).length]? = some w := by
    simp [queue]
  rw [List.getElem?_map, Option.map_eq_some_iff] at at_n
  obtain ⟨t, found, work⟩ := at_n
  have member : t ∈ submitted before :=
    (intake_perm before).subset (List.mem_append_left _ (List.mem_of_getElem? found))
  have earlier := (submitted_times before).2 t member
  obtain ⟨rest, parts⟩ := queue_grows before (.took w :: after)
  refine ⟨t, ?_, work, earlier, ?_⟩
  · rw [← parts, List.getElem?_append_left (List.getElem?_eq_some_iff.1 found).1, found]
  · intro v doing
    obtain ⟨c, upTo, -⟩ := submission_at member
    have doing : running (before.take (t.time + 1)) = some v := by rw [upTo, running_concat, doing]
    have idle : running before = none := working.fits before _ after takes
    have fits := working.fits.front takes
    rw [← List.take_append_drop (t.time + 1) before] at idle fits
    exact finished_between fits doing idle

end Session
end WalletLoop
