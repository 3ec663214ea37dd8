import WalletLoop.Proofs.Session.Passes

namespace WalletLoop

variable {C : Clients}

theorem Trigger.isSameKind_iff (t t' : Trigger) : t.isSameKind t' = true ↔ t.name = t'.name := by
  cases t <;> cases t' <;> simp [isSameKind, name]

def Phase.isFiring : Phase C → Bool
  | .firing .. => true
  | _ => false

namespace Session

structure Listed (s : Session C) : Prop where
  ascending : (numbers s.listeners).Pairwise (· < ·)
  below : ∀ n ∈ numbers s.listeners, n < s.registered

theorem Listed.nodup {s : Session C} (listed : Listed s) : (numbers s.listeners).Nodup :=
  listed.ascending.imp Nat.ne_of_lt

theorem listed_move {m m' : Moment C} (move : Move m m') (before : Listed m.2) : Listed m'.2 := by
  obtain ⟨ascending, below⟩ := before
  cases move with
  | empty p s collects =>
      exact ⟨by simpa [emptied, numbers_afterwards] using ascending,
        by simpa [emptied, numbers_afterwards] using below⟩
  | listener p s i l client at_i =>
      exact ⟨by simpa [numbers_set at_i] using ascending, by simpa [numbers_set at_i] using below⟩
  | compact s =>
      have fewer : (numbers s.compact.listeners).Sublist (numbers s.listeners) :=
        List.filter_sublist.map _
      exact ⟨ascending.sublist fewer, fun n member => below n (fewer.subset member)⟩
  | _ => exact ⟨ascending, below⟩

theorem listed_request {m m' : Moment C} (request : Request m m') (before : Listed m.2) :
    Listed m'.2 := by
  obtain ⟨ascending, below⟩ := before
  cases request with
  | release s id =>
      exact ⟨by simpa [released, numbers_afterwards] using ascending,
        by simpa [released, numbers_afterwards] using below⟩
  | listen s id t client collected =>
      have joined : numbers (s.listeners ++ [⟨s.registered, id, t, client, true⟩]) =
          numbers s.listeners ++ [s.registered] := by simp [numbers]
      constructor
      · simp only [joined, List.pairwise_append, List.pairwise_singleton, List.mem_singleton]
        exact ⟨ascending, trivial, fun n member last same => same ▸ below n member⟩
      · intro n member
        rcases List.mem_append.1 (joined ▸ member) with earlier | new
        · exact Nat.lt_succ_of_lt (below n earlier)
        · rw [List.mem_singleton.1 new]
          exact Nat.lt_succ_self _
  | register s id collected =>
      exact ⟨ascending, fun n member => Nat.lt_succ_of_lt (below n member)⟩
  | _ => exact ⟨ascending, below⟩

def Matches (W : List Wish) (t : Trigger) (number : Nat) : Prop :=
  ∃ id t', W[number]? = some (id, .inr t') ∧ t'.name = t.name

def Hears (t : Trigger) (number : Nat) (e : Event C) : Prop :=
  ∃ l, e = .heard number l t

section Trigger
variable {W : List Wish} {m m' : Moment C}

/-- The pass of a trigger is over. -/
def Heard (W : List Wish) (before : List (Event C)) (t : Trigger) (after : List (Event C)) : Prop :=
  let started := before ++ [.took (.trigger t)]
  ∃ pass rest, after = pass ++ .finished (.trigger t) :: rest ∧
    Turns .listener (Matches W t) (Hears t) started (held .listener started) pass []

structure Firing (W : List Wish) (m : Moment C) (before : List (Event C)) (t : Trigger)
    (after : List (Event C)) (i : Nat) : Prop where
  phase : m.1 = .firing t i
  underway : Underway .listener (Matches W t) (Hears t) (before ++ [.took (.trigger t)]) after
    ((line m.2.listeners).drop i)

def Fired (W : List Wish) (m : Moment C) (before : List (Event C)) (t : Trigger)
    (after : List (Event C)) : Prop :=
  Heard W before t after ∨ ∃ i, Firing W m before t after i

structure Sounding (W : List Wish) (m : Moment C) : Prop where
  listed : Listed m.2
  subscribed : Subscribed m
  wishing : Wishing W m.2
  fired : ∀ before t after, m.2.journal = before ++ .took (.trigger t) :: after →
    Fired W m before t after

section Fired
variable {before after : List (Event C)} {t : Trigger} {e : Event C} {p : Phase C} {s s' : Session C}

theorem Heard.more (heard : Heard W before t after) (events : List (Event C)) :
    Heard W before t (after ++ events) := by
  obtain ⟨pass, rest, rfl, turns⟩ := heard
  exact ⟨pass, rest ++ events, by simp, turns⟩

theorem Fired.heard (fired : Fired W m before t after) (elsewhere : m.1.isFiring = false) :
    Heard W before t after := by
  rcases fired with heard | ⟨i, firing⟩
  · exact heard
  · rw [firing.phase] at elsewhere
    cases elsewhere

theorem Fired.still (fired : Fired W (p, s) before t after)
    (same : line s'.listeners = line s.listeners) : Fired W (p, s') before t after := by
  refine fired.imp_right ?_
  rintro ⟨i, phase, underway⟩
  exact ⟨i, phase, by rwa [same]⟩

theorem Fired.aside (fired : Fired W (p, s) before t after) (outside : e.inCourse = false)
    (later : e.isRegistered = false) (same : line s'.listeners = line s.listeners) :
    Fired W (p, s') before t (after ++ [e]) := by
  rcases fired.still same with heard | ⟨i, phase, underway⟩
  · exact .inl (heard.more [e])
  · exact .inr ⟨i, phase, underway.aside outside later⟩

end Fired

theorem fired_move (move : Move m m') (sounding : Sounding W m) :
    ∀ before t after, m'.2.journal = before ++ .took (.trigger t) :: after →
      Fired W m' before t after := by
  obtain ⟨listed, subscribed, wishing, fired⟩ := sounding
  cases move with
  | world p s w => exact fun before t after parts => (fired before t after parts).still rfl
  | arrivals p s later => exact fun before t after parts => (fired before t after parts).still rfl
  | observer p s i o client at_i =>
      exact fun before t after parts => (fired before t after parts).still rfl
  | listener p s i l client at_i =>
      exact fun before t after parts => (fired before t after parts).still (line_set at_i client)
  | compact s => exact fun before t after parts => .inl ((fired before t after parts).heard rfl)
  | spare s => exact fun before t after parts => .inl ((fired before t after parts).heard rfl)
  | put p s c =>
      exact opened_concat fired rfl (fun _ _ _ _ fired => fired.aside rfl rfl rfl)
        fun _ same => by cases same
  | notice p s n =>
      exact opened_concat fired rfl (fun _ _ _ _ fired => fired.aside rfl rfl rfl)
        fun _ same => by cases same
  | empty p s collects =>
      exact opened_concat fired rfl
        (fun _ _ _ _ fired => fired.aside rfl rfl (line_afterwards _ _))
        fun _ same => by cases same
  | take s w later next =>
      -- a pass that begins is the only one going on
      refine opened_concat fired rfl
        (fun before t after _ fired => .inl ((fired.heard rfl).more _)) ?_
      rintro t ⟨⟩
      refine .inr ⟨0, rfl, .start (.trans ?_ (tags_line s.listeners)) (.of_map (·.1) ?_)⟩
      · have kept := subscribed.kept .listener
        rw [held_concat]
        exact kept ▸ List.filter_sublist
      · simpa [line, numbers, note, Function.comp_def] using listed.nodup
  | hear s t i l collected at_i active matching =>
      refine opened_concat fired rfl (fun before t after parts fired => ?_)
        fun _ same => by cases same
      rcases fired with heard | ⟨i, phase, underway⟩
      · exact .inl (heard.more _)
      · cases phase
        rw [drop_line at_i] at underway
        have wish := wishing.listeners l (List.mem_of_getElem? at_i)
        have kind := (Trigger.isSameKind_iff l.interest t).1 matching
        -- the channel is empty here, so an active entry of the list is one that is held
        have still : (l.number, l.id) ∈ held .listener s.journal := by
          rw [← subscribed.mem collected .listener]
          exact (mem_tags_iff listed.nodup at_i).2 active
        refine .inr ⟨_, rfl, underway.called ?_ ⟨l.id, l.interest, wish, kind⟩ ⟨l.client, rfl⟩ rfl⟩
        rwa [List.append_assoc, List.singleton_append, ← parts]
  | ignore s t i l collected at_i not_wanted =>
      intro before t after parts
      rcases fired before t after parts with heard | ⟨i, phase, underway⟩
      · exact .inl heard
      · cases phase
        rw [drop_line at_i] at underway
        refine .inr ⟨_, rfl, underway.spared ?_⟩
        rw [List.append_assoc, List.singleton_append, ← parts,
          ← subscribed.mem collected .listener]
        rintro mine ⟨id, t', wish, kind⟩
        have active := (mem_tags_iff listed.nodup at_i).1 mine
        rw [wishing.listeners l (List.mem_of_getElem? at_i)] at wish
        cases wish
        rw [active, (Trigger.isSameKind_iff _ _).2 kind] at not_wanted
        cases not_wanted
  | fired s t =>
      refine opened_concat fired rfl (fun before t' after parts fired => .inl ?_)
        fun _ same => by cases same
      rcases fired with heard | ⟨i, phase, underway⟩
      · exact heard.more _
      · cases phase
        have turns := underway.turns
        rw [List.drop_of_length_le (by simp [line]), List.filter_nil] at turns
        exact ⟨after, [], rfl, turns⟩
  | pass | hold | consumed | advance | observe | told =>
      exact opened_concat fired rfl
        (fun _ _ _ _ fired => .inl ((fired.heard rfl).more _))
        fun _ same => by cases same

theorem fired_request (request : Request m m')
    (fired : ∀ before t after, m.2.journal = before ++ .took (.trigger t) :: after →
      Fired W m before t after) :
    ∀ before t after, m'.2.journal = before ++ .took (.trigger t) :: after →
      Fired W m' before t after := by
  cases request with
  | join s number id interest client =>
      exact fun before t after parts => .inl ((fired before t after parts).heard rfl)
  | _ =>
      exact opened_concat fired rfl
        (fun _ _ _ _ fired => .inl ((fired.heard rfl).more _))
        fun _ same => by cases same

theorem sounding_stride (stride : Stride W m m') (sounding : Sounding W m) : Sounding W m' := by
  rcases stride with move | ⟨request, wishing⟩
  · exact ⟨listed_move move sounding.listed, subscribed_move move sounding.subscribed,
      wishing_move move sounding.wishing, fired_move move sounding⟩
  · exact ⟨listed_request request sounding.listed, subscribed_request request sounding.subscribed,
      wishing, fired_request request sounding.fired⟩

theorem sounding_new (snapshot : Snapshot) (world : C.World) :
    Sounding W (.idle, start (.new C snapshot) world) := by
  refine ⟨⟨.nil, by simp [start, Store.new, numbers]⟩,
    ⟨fun role => by cases role <;> rfl, rfl, each_nil _⟩, wishing_new snapshot world, ?_⟩
  intro before t after parts
  simp [start] at parts

end Trigger

structure Cast (C : Clients) where
  snapshot : Snapshot
  middleware : List C.Middleware
  interest : Nat → Selector
  observer : Nat → C.Observer

def recast (k : Cast C) (s : Session C) : Session C :=
  { s with
    snapshot := k.snapshot
    middleware := k.middleware
    observers := s.observers.map fun o =>
      { o with interest := k.interest o.number, client := k.observer o.number } }

section Recast
variable (k : Cast C)

theorem foldl_recast {α : Type} {f : Session C → α → Session C}
    (each : ∀ s a, f (s.recast k) a = (f s a).recast k) (s : Session C) (l : List α) :
    l.foldl f (s.recast k) = (l.foldl f s).recast k := by
  induction l generalizing s with
  | nil => rfl
  | cons a l ih => rw [List.foldl_cons, each, ih, List.foldl_cons]

theorem deactivate_recast (s : Session C) (id : SubscriberId) :
    (s.recast k).deactivate id = (s.deactivate id).recast k := by
  have found : (s.recast k).observers.any (fun o => o.id == id) =
      s.observers.any fun o => o.id == id := by
    simp [recast, List.any_map, Function.comp_def]
  have marked : (s.recast k).observers.map
        (fun o => if o.id = id then { o with active := false } else o) =
      (s.observers.map fun o => if o.id = id then { o with active := false } else o).map
        fun o => { o with interest := k.interest o.number, client := k.observer o.number } := by
    simp only [recast, List.map_map]
    apply List.map_congr_left
    intro o _
    by_cases mine : o.id = id <;> simp [mine]
  have same : (s.recast k).listeners = s.listeners := rfl
  cases here : s.observers.any (fun o => o.id == id) || s.listeners.any (fun l => l.id == id) with
  | true =>
      simp only [deactivate, found, marked, same, here, if_true]
      rfl
  | false =>
      simp only [deactivate, found, marked, same, here, Bool.false_eq_true, if_false]
      rfl

theorem receive_recast (s : Session C) (c : Command) :
    (s.recast k).receive c = (s.receive c).recast k := by
  cases c with
  | unsubscribe id => exact deactivate_recast k s id
  | dispatch | trigger => rfl

theorem arrive_recast (s : Session C) : (s.recast k).arrive = s.arrive.recast k :=
  foldl_recast k (fun _ _ => rfl) { s with arrivals := s.arrivals.tail } _

theorem emptyChannel_recast (s : Session C) :
    (s.recast k).emptyChannel = s.emptyChannel.recast k := by
  have received : (s.recast k).channel.foldl receive { s.recast k with channel := [] } =
      (s.channel.foldl receive { s with channel := [] }).recast k :=
    foldl_recast k (receive_recast k) { s with channel := [] } s.channel
  have numbers (s : Session C) :
      activeNumbers (s.recast k).observers = activeNumbers s.observers := by
    simp [activeNumbers, recast, List.filter_map, Function.comp_def]
  simp only [emptyChannel, received, numbers]
  rfl

theorem collect_recast (s : Session C) : (s.recast k).collect = s.collect.recast k := by
  rw [collect, arrive_recast, emptyChannel_recast, collect]

theorem absorb_recast {Client : Type} (s : Session C) (r : Reply Client C.World) :
    (s.recast k).absorb r = (s.absorb r).recast k := by
  have sent : { s.recast k with world := r.world }.send r.sent =
      ({ s with world := r.world }.send r.sent).recast k := by
    refine foldl_recast k (fun s c => ?_) { s with world := r.world } r.sent
    rw [arrive_recast]
    rfl
  simp only [absorb, sent]
  rfl

theorem fireAt_recast (t : Trigger) (s : Session C) (i : Nat) :
    fireAt t (s.recast k) i = (fireAt t s i).recast k := by
  cases at_i : s.collect.listeners[i]? with
  | none =>
      rw [fireAt_none at_i, fireAt_none (by rw [collect_recast]; exact at_i), collect_recast]
  | some l =>
      have at_i' : (s.recast k).collect.listeners[i]? = some l := by
        rw [collect_recast]
        exact at_i
      cases wanted : l.active && l.interest.isSameKind t with
      | false => rw [fireAt_spared at_i wanted, fireAt_spared at_i' wanted, collect_recast]
      | true =>
          have heard : (s.collect.recast k).hear l t =
              ((s.collect.hear l t).1, (s.collect.hear l t).2.recast k) :=
            congrArg (_, ·) (absorb_recast k (s.collect.note (.heard l.number l.client t)) _)
          rw [fireAt_called at_i wanted, fireAt_called at_i' wanted, collect_recast, heard]
          rfl

theorem perform_recast (s : Session C) (t : Trigger) :
    (s.recast k).perform (.trigger t) = (s.perform (.trigger t)).recast k := by
  have fired (s : Session C) : (s.recast k).fire t = (s.fire t).recast k :=
    foldl_recast k (fireAt_recast k t) (s.notice (.fired t)) _
  have took : (s.note (.took (.trigger t))).recast k = (s.recast k).note (.took (.trigger t)) := rfl
  simp only [perform, ← took, fired]
  rfl

end Recast

theorem fireAt_snapshot (t : Trigger) (s : Session C) (i : Nat) :
    (fireAt t s i).snapshot = s.snapshot := by
  unfold fireAt
  dsimp only
  split
  · split
    · simp [hear, note, collect_snapshot]
    · exact collect_snapshot s
  · exact collect_snapshot s

theorem perform_snapshot (s : Session C) (t : Trigger) :
    (s.perform (.trigger t)).snapshot = s.snapshot := by
  have turns (positions : List Nat) (s : Session C) :
      (positions.foldl (fireAt t) s).snapshot = s.snapshot := by
    induction positions generalizing s with
    | nil => rfl
    | cons i positions ih => exact (ih _).trans (fireAt_snapshot t s i)
  exact turns _ _

/-- The pass of a trigger gives those listeners a turn, in the order of registration, that are held
when it starts. At its turn a listener hears the trigger itself, if it is still held then and
subscribed to one of that kind, and is not called otherwise, whatever is sent in the meantime. Nobody
else is called, no work is taken and no action is applied until the pass is over, and the rest of the
store has no part in it. -/
theorem firings_ofCalls (snapshot : Snapshot) (world : C.World) (calls : List (Call C))
    {before after : List (Event C)} {t : Trigger}
    (takes : (ofCalls snapshot world calls).journal = before ++ .took (.trigger t) :: after) :
    let started := before ++ [.took (.trigger t)]
    let due := held .listener started
    (∃ pass rest, after = pass ++ .finished (.trigger t) :: rest ∧
      Turns .listener (Matches (wishes calls) t) (Hears t) started due pass [] ∧
      (pass.filterMap Event.called?).Sublist (due.map fun tag => (.listener, tag.1)) ∧
      (due.map (·.1)).Pairwise (· < ·) ∧
      ∀ e ∈ pass, e.inCourse = true → ∃ number, Hears t number e) ∧
    ∀ s : Session C, (s.perform (.trigger t)).snapshot = s.snapshot ∧
      ∀ k, (s.recast k).perform (.trigger t) = (s.perform (.trigger t)).recast k := by
  intro started due
  have path : Strides (wishes calls) (.idle, start (.new C snapshot) world)
      (.idle, ofCalls snapshot world calls) :=
    serves_strides (wishing_new snapshot world) (List.prefix_refl ([] ++ wishes calls)) rfl
  have sounding : Sounding (wishes calls) (.idle, ofCalls snapshot world calls) :=
    path.keep _ (fun _ _ => sounding_stride) (sounding_new snapshot world)
  refine ⟨?_, fun s => ⟨perform_snapshot s t, fun k => perform_recast k s t⟩⟩
  obtain ⟨pass, rest, rfl, turns⟩ := (sounding.fired before t after takes).heard rfl
  have parts : (ofCalls snapshot world calls).journal =
      started ++ (pass ++ .finished (.trigger t) :: rest) := by
    simp [takes, started]
  have suits : Each Event.Suits started := sounding.subscribed.suits.front parts
  obtain ⟨front, all, order⟩ := turns.order fun number e ⟨l, same⟩ => by rw [same]; rfl
  have whole : due = front := all.trans (List.append_nil _)
  refine ⟨pass, rest, rfl, turns, ?_, (held_sorted suits .listener).1, turns.calls⟩
  rwa [whole]

def chatting : Clients where
  World := Unit
  Middleware := Empty
  Observer := Empty
  Listener := List Command
  consult m := m.elim
  observe o := o.elim
  hear l t w := ⟨l, w, if t = .presentFaq "fees" then l else [], []⟩

def chatters : List (Call chatting) :=
  [⟨.subscribeTrigger ⟨"first"⟩ (.presentFaq "keys")
      ([.unsubscribe ⟨"third"⟩, .trigger .lock] : List Command), 0, []⟩,
    ⟨.subscribeTrigger ⟨"second"⟩ .lock ([] : List Command), 0, []⟩,
    ⟨.subscribeTrigger ⟨"third"⟩ (.presentFaq "fees") ([] : List Command), 0, []⟩,
    ⟨.subscribeTrigger ⟨"fourth"⟩ (.presentFaq "pins") ([] : List Command), 0, []⟩,
    ⟨.trigger (.presentFaq "fees"), 2, []⟩]

theorem chatter_fired :
    let t : Trigger := .presentFaq "fees"
    let s := ofCalls (.initial .standard) () chatters
    let before := s.journal.take 10
    let after := s.journal.drop 11
    s.journal = before ++ .took (.trigger t) :: after ∧
      held .listener (before ++ [.took (.trigger t)]) =
        [(0, ⟨"first"⟩), (1, ⟨"second"⟩), (2, ⟨"third"⟩), (3, ⟨"fourth"⟩)] ∧
      (after.take 10).filterMap Event.called? = [(.listener, 0), (.listener, 3)] ∧
      ∃ pass rest, after = pass ++ .finished (.trigger t) :: rest ∧
        ∀ e ∈ pass, e.inCourse = true → ∃ number, Hears t number e := by
  intro t s before after
  have parts : s.journal = before ++ .took (.trigger t) :: after := split_at rfl
  obtain ⟨⟨pass, rest, split, -, -, -, quiet⟩, -⟩ :=
    @firings_ofCalls chatting (.initial .standard) () chatters before after t parts
  exact ⟨parts, by decide, by decide, pass, rest, split, quiet⟩

end Session
end WalletLoop
