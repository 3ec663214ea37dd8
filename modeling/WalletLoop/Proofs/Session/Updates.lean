import WalletLoop.Proofs.Session.Subscriptions
import WalletLoop.Proofs.Session.Turns
import WalletLoop.Proofs.Session.World
import WalletLoop.Proofs.Snapshot.Values

namespace WalletLoop

variable {α : Type} [DecidableEq α] {C : Clients}

@[simp]
theorem afterwards_number {Interest Client : Type} (cs : List Command)
    (o : Subscription Interest Client) : (o.afterwards cs).number = o.number := by
  unfold Subscription.afterwards
  split <;> rfl

@[simp]
theorem afterwards_interest {Interest Client : Type} (cs : List Command)
    (o : Subscription Interest Client) : (o.afterwards cs).interest = o.interest := by
  unfold Subscription.afterwards
  split <;> rfl

def numbers {Interest Client : Type} (entries : List (Subscription Interest Client)) : List Nat :=
  entries.map (·.number)

theorem numbers_afterwards {Interest Client : Type} (cs : List Command)
    (entries : List (Subscription Interest Client)) :
    numbers (entries.map (·.afterwards cs)) = numbers entries := by
  simp [numbers, Function.comp_def]

theorem numbers_set {Interest Client : Type} {entries : List (Subscription Interest Client)}
    {i : Nat} {o : Subscription Interest Client} (at_i : entries[i]? = some o) (client : Client) :
    numbers (entries.set i { o with client := client }) = numbers entries := by
  have whole : numbers entries = numbers (entries.take i ++ o :: entries.drop (i + 1)) :=
    congrArg numbers (Session.split_at at_i)
  rw [List.set_eq_take_append_cons_drop, if_pos (List.getElem?_eq_some_iff.1 at_i).1, whole]
  simp [numbers]

theorem drop_numbers {Interest Client : Type} {entries : List (Subscription Interest Client)}
    {i : Nat} {o : Subscription Interest Client} (at_i : entries[i]? = some o) :
    (numbers entries).drop i = o.number :: (numbers entries).drop (i + 1) := by
  obtain ⟨inside, rfl⟩ := List.getElem?_eq_some_iff.1 at_i
  rw [numbers, List.drop_eq_getElem_cons (by simpa using inside), List.getElem_map]

namespace Session

structure Numbered (m : Moment C) : Prop where
  ascending : (numbers m.2.observers ++ (m.1.newcomer?.map (·.1)).toList).Pairwise (· < ·)
  below : ∀ n ∈ numbers m.2.observers ++ (m.1.newcomer?.map (·.1)).toList, n < m.2.registered

theorem numbered_move {m m' : Moment C} (move : Move m m') (before : Numbered m) :
    Numbered m' := by
  obtain ⟨ascending, below⟩ := before
  cases move with
  | empty p s collects =>
      exact ⟨by simpa [emptied, numbers_afterwards] using ascending,
        by simpa [emptied, numbers_afterwards] using below⟩
  | observer p s i o client at_i =>
      exact ⟨by simpa [numbers_set at_i] using ascending, by simpa [numbers_set at_i] using below⟩
  | compact s =>
      have fewer : (numbers s.compact.observers).Sublist (numbers s.observers) :=
        List.filter_sublist.map _
      exact ⟨ascending.sublist (fewer.append_right _),
        fun n member => below n ((fewer.append_right _).subset member)⟩
  | take s w later next =>
      cases w <;>
        exact ⟨by simpa [note, Phase.opening, Phase.newcomer?] using ascending,
          by simpa [note, Phase.opening, Phase.newcomer?] using below⟩
  | _ => exact ⟨ascending, below⟩

theorem numbered_request {m m' : Moment C} (request : Request m m') (before : Numbered m) :
    Numbered m' := by
  obtain ⟨ascending, below⟩ := before
  cases request with
  | release s id =>
      exact ⟨by simpa [released, numbers_afterwards] using ascending,
        by simpa [released, numbers_afterwards] using below⟩
  | listen s id t client collected =>
      exact ⟨ascending, fun n member => Nat.lt_succ_of_lt (below n member)⟩
  | register s id collected =>
      simp only [Phase.newcomer?, Option.map_none, Option.toList_none, List.append_nil] at *
      refine ⟨?_, ?_⟩
      · simpa [note, Phase.newcomer?, List.pairwise_append] using ⟨ascending, below⟩
      · intro n member
        rcases List.mem_append.1 member with there | last
        · exact Nat.lt_succ_of_lt (below n there)
        · obtain rfl : n = s.registered := by simpa [Phase.newcomer?] using last
          exact Nat.lt_succ_self _
  | join s number id interest client =>
      exact ⟨by simpa [numbers, Phase.newcomer?] using ascending,
        by simpa [numbers, Phase.newcomer?] using below⟩
  | _ => exact ⟨ascending, below⟩

theorem Numbered.nodup {m : Moment C} (numbered : Numbered m) : (numbers m.2.observers).Nodup :=
  (List.pairwise_append.1 numbered.ascending).1.imp Nat.ne_of_lt

theorem Numbered.unique {m : Moment C} (numbered : Numbered m)
    {o o' : Subscription Selector C.Observer} (member : o ∈ m.2.observers)
    (member' : o' ∈ m.2.observers) (same : o.number = o'.number) : o = o' :=
  List.inj_on_of_nodup_map numbered.nodup member member' same

def seen (number : Nat) (events : List (Event C)) : List Snapshot :=
  events.filterMap fun
    | .observed n _ s => if n = number then some s else none
    | _ => none

theorem seen_append (number : Nat) (events more : List (Event C)) :
    seen number (events ++ more) = seen number events ++ seen number more :=
  List.filterMap_append

theorem seen_concat (number : Nat) (events : List (Event C)) (e : Event C) :
    seen number (events ++ [e]) = seen number events ++
      match e with
      | .observed n _ s => if n = number then [s] else []
      | _ => [] := by
  cases e with
  | observed n o s => by_cases same : n = number <;> simp [seen, same]
  | _ => simp [seen]

theorem seen_aside (number : Nat) {events : List (Event C)}
    (aside : ∀ e ∈ events, e.inCourse = false) : seen number events = [] := by
  refine List.filterMap_eq_nil_iff.2 fun e member => ?_
  have outside := aside e member
  cases e with
  | observed => cases outside
  | _ => rfl

def Informed (f : Snapshot → α) (number : Nat) (start : Snapshot) (events : List (Event C)) :
    Prop :=
  ∃ as, (start :: seen number events).map f = values f start as ∧
    (applied events = as ∨
      ∃ a, applied events = as ++ [a] ∧ running events = some (.action a))

def Stands (f : Snapshot → α) (number : Nat) (start : Snapshot) (events : List (Event C))
    (m : Moment C) : Prop :=
  ∃ as, (start :: seen number events).map f = values f start as ∧
    match m.1 with
    -- before its turn in the pass, the observer is one action late
    | .telling a previous i =>
        number ∈ (numbers m.2.observers).drop i ∧
            applied events = as ++ [a] ∧ previous = as.foldl Snapshot.reduce start ∨
          number ∉ (numbers m.2.observers).drop i ∧ applied events = as
    | _ => applied events = as

section OneObserver

variable {f : Snapshot → α} {number : Nat} {id : SubscriberId} {start : Snapshot}
  {events : List (Event C)} {m m' : Moment C} {p : Phase C} {s s' : Session C}

theorem Stands.informed (stands : Stands f number start events m)
    (now : running events = m.1.work?) : Informed f number start events := by
  obtain ⟨as, told, place⟩ := stands
  obtain ⟨p, s⟩ := m
  refine ⟨as, told, ?_⟩
  cases p with
  | telling a previous i =>
      rcases place with ⟨-, waiting, -⟩ | ⟨-, same⟩
      · exact .inr ⟨a, waiting, now⟩
      · exact .inl same
  | _ => exact .inl place

theorem Stands.unmoved {e : Event C} (stands : Stands f number start events (p, s))
    (unseen : seen number [e] = []) (unapplied : applied [e] = [])
    (same : numbers s'.observers = numbers s.observers) :
    Stands f number start (events ++ [e]) (p, s') := by
  obtain ⟨as, told, place⟩ := stands
  have sees : seen number (events ++ [e]) = seen number events := by
    rw [seen_append, unseen, List.append_nil]
  have applies : applied (events ++ [e]) = applied events := by
    rw [applied_append, unapplied, List.append_nil]
  refine ⟨as, by rwa [sees], ?_⟩
  dsimp only at place ⊢
  rwa [applies, same]

theorem Stands.other {a : Action} {previous : Snapshot} {i : Nat}
    {o : Subscription Selector C.Observer}
    (stands : Stands f number start events (.telling a previous i, s))
    (at_i : s.observers[i]? = some o) (other : o.number ≠ number) :
    Stands f number start events (.telling a previous (i + 1), s) := by
  obtain ⟨as, told, place⟩ := stands
  refine ⟨as, told, ?_⟩
  dsimp only at place ⊢
  rwa [drop_numbers at_i, List.mem_cons, or_iff_right other.symm] at place

theorem Stands.turn {events' : List (Event C)} {a : Action} {previous : Snapshot} {i : Nat}
    {o : Subscription Selector C.Observer}
    (stands : Stands f number start events (.telling a previous i, s))
    (at_i : s.observers[i]? = some o) (mine : o.number = number)
    (nodup : (numbers s.observers).Nodup)
    (snapshot : s.snapshot = (applied events).foldl Snapshot.reduce start)
    (sees : seen number events' =
      seen number events ++ if changed f previous s.snapshot then [s.snapshot] else [])
    (applies : applied events' = applied events) (same : s'.observers = s.observers) :
    Stands f number start events' (.telling a previous (i + 1), s') := by
  have ends := drop_numbers at_i
  -- it has one place in the list, so that its turn does not come again
  have apart : number ∉ (numbers s.observers).drop (i + 1) := by
    have both := nodup.sublist (List.drop_sublist i _)
    rw [ends, mine] at both
    exact (List.nodup_cons.1 both).1
  obtain ⟨as, told, ⟨-, waiting, rfl⟩ | ⟨absent, -⟩⟩ := stands
  · rw [waiting] at snapshot
    refine ⟨as ++ [a], ?_, .inr ⟨same ▸ apart, applies.trans waiting⟩⟩
    rw [values_concat, ← snapshot, sees, ← List.cons_append, List.map_append, told]
    split <;> simp
  · exact absurd (by simp [ends, mine]) absent

structure Owned (f : Snapshot → α) (number : Nat) (m : Moment C) : Prop where
  interest : ∀ o ∈ m.2.observers, o.number = number → o.interest = changed f
  older : number < m.2.registered
  newer : ∀ tag, m.1.newcomer? = some tag → number < tag.1

theorem interest_afterwards {entries : List (Subscription Selector C.Observer)}
    (interest : ∀ o ∈ entries, o.number = number → o.interest = changed f) (cs : List Command) :
    ∀ o ∈ entries.map (·.afterwards cs), o.number = number → o.interest = changed f := by
  intro o member same
  obtain ⟨o, there, rfl⟩ := List.mem_map.1 member
  rw [afterwards_number] at same
  rw [afterwards_interest]
  exact interest o there same

theorem owned_move (move : Move m m') (before : Owned f number m) : Owned f number m' := by
  obtain ⟨interest, older, newer⟩ := before
  cases move with
  | empty p s collects => exact ⟨interest_afterwards interest s.channel, older, newer⟩
  | observer p s i o client at_i =>
      refine ⟨?_, older, newer⟩
      intro o' member same
      rcases List.mem_or_eq_of_mem_set member with there | rfl
      · exact interest o' there same
      · exact interest o (List.mem_of_getElem? at_i) same
  | compact s =>
      exact ⟨fun o member => interest o (List.mem_of_mem_filter member), older, newer⟩
  | take s w later next =>
      refine ⟨interest, older, ?_⟩
      cases w <;> exact newer
  | _ => exact ⟨interest, older, newer⟩

theorem owned_request (request : Request m m') (before : Owned f number m) :
    Owned f number m' := by
  obtain ⟨interest, older, newer⟩ := before
  cases request with
  | release s id => exact ⟨interest_afterwards interest [.unsubscribe id], older, newer⟩
  | listen s id t client collected => exact ⟨interest, Nat.lt_succ_of_lt older, newer⟩
  | register s id collected =>
      refine ⟨interest, Nat.lt_succ_of_lt older, ?_⟩
      intro tag same
      cases same
      exact older
  | join s other id wish client =>
      refine ⟨?_, older, fun tag same => by cases same⟩
      intro o member same
      rcases List.mem_append.1 member with there | last
      · exact interest o there same
      · obtain rfl := List.mem_singleton.1 last
        exact absurd same (Nat.ne_of_gt (newer (other, id) rfl))
  | _ => exact ⟨interest, older, newer⟩

structure Since (f : Snapshot → α) (number : Nat) (id : SubscriberId) (start : Snapshot)
    (events : List (Event C)) (m : Moment C) : Prop where
  snapshot : m.2.snapshot = (applied events).foldl Snapshot.reduce start
  stands : Kept id events → Stands f number start events m
  informed : Each (fun sofar _ => Kept id sofar → Informed f number start sofar) events

theorem Since.more {e : Event C} (since : Since f number id start events m)
    (now : running events = m.1.work?)
    (snapshot : m'.2.snapshot = (applied (events ++ [e])).foldl Snapshot.reduce start)
    (stands : Kept id events → Stands f number start events m →
      Stands f number start (events ++ [e]) m') :
    Since f number id start (events ++ [e]) m' := by
  refine ⟨snapshot, ?_, each_concat.2 ⟨since.informed, ?_⟩⟩
  · intro kept
    have earlier := (kept_concat.1 kept).1
    exact stands earlier (since.stands earlier)
  · intro kept
    exact (since.stands kept).informed now

theorem Since.more_aside {e : Event C} (since : Since f number id start events (p, s))
    (now : running events = p.work?) (aside : e.inCourse = false)
    (snapshot : s'.snapshot = s.snapshot)
    (same : numbers s'.observers = numbers s.observers) :
    Since f number id start (events ++ [e]) (p, s') := by
  have all : ∀ e' ∈ [e], e'.inCourse = false := by simpa using aside
  refine since.more now ?_ ?_
  · rw [applied_append, applied_aside all, List.append_nil]
    exact snapshot.trans since.snapshot
  · intro kept stands
    exact stands.unmoved (seen_aside number all) (applied_aside all) same

theorem Since.still (since : Since f number id start events (p, s))
    (snapshot : s'.snapshot = s.snapshot) (same : numbers s'.observers = numbers s.observers) :
    Since f number id start events (p, s') := by
  refine ⟨snapshot.trans since.snapshot, ?_, since.informed⟩
  intro kept
  obtain ⟨as, told, place⟩ := since.stands kept
  refine ⟨as, told, ?_⟩
  dsimp only at place ⊢
  rwa [same]

structure Among (f : Snapshot → α) (number : Nat) (id : SubscriberId) (events : List (Event C))
    (m : Moment C) : Prop where
  numbered : Numbered m
  owned : Owned f number m
  now : running events = m.1.work?
  present : Kept id events → number ∈ numbers m.2.observers
  active : Kept id events → ∀ o ∈ m.2.observers, o.number = number → o.active = true

def Goes (f : Snapshot → α) (number : Nat) (id : SubscriberId) (start : Snapshot)
    (events : List (Event C)) (m m' : Moment C) : Prop :=
  m'.2.journal = m.2.journal ∧ Since f number id start events m' ∨
    ∃ e, m'.2.journal = m.2.journal ++ [e] ∧ Since f number id start (events ++ [e]) m'

theorem since_move (move : Move m m') (among : Among f number id events m)
    (since : Since f number id start events m) : Goes f number id start events m m' := by
  have now := among.now
  cases move with
  | world p s w => exact .inl ⟨rfl, since.still rfl rfl⟩
  | arrivals p s later => exact .inl ⟨rfl, since.still rfl rfl⟩
  | listener p s i l client at_i => exact .inl ⟨rfl, since.still rfl rfl⟩
  | observer p s i o client at_i => exact .inl ⟨rfl, since.still rfl (numbers_set at_i client)⟩
  | compact s => exact .inl ⟨rfl, since.snapshot, since.stands, since.informed⟩
  | ignore s => exact .inl ⟨rfl, since.snapshot, since.stands, since.informed⟩
  | put p s c => exact .inr ⟨_, rfl, since.more_aside now rfl rfl rfl⟩
  | notice p s n => exact .inr ⟨_, rfl, since.more_aside now rfl rfl rfl⟩
  | empty p s collects =>
      have same : numbers s.emptied.observers = numbers s.observers := numbers_afterwards _ _
      exact .inr ⟨_, rfl, since.more_aside now rfl rfl same⟩
  | advance s a asked =>
      have here : s.snapshot = (applied events).foldl Snapshot.reduce start := since.snapshot
      refine .inr ⟨.applied a, rfl, since.more now ?_ ?_⟩
      · simp [note, applied_concat, here]
      · -- the pass has just begun, and nobody has been told
        rintro kept ⟨as, told, rfl⟩
        refine ⟨_, by simpa [seen_concat] using told, .inl ⟨among.present kept, ?_, here⟩⟩
        simp [applied_concat]
  | observe s a previous i o collected at_i active interested =>
      refine .inr ⟨.observed o.number o.client s.snapshot, rfl, since.more now ?_ ?_⟩
      · simpa [note, applied_concat] using since.snapshot
      · intro kept stands
        by_cases mine : o.number = number
        · rw [among.owned.interest o (List.mem_of_getElem? at_i) mine] at interested
          refine stands.turn at_i mine among.numbered.nodup since.snapshot ?_ ?_ rfl
          · simp [seen_concat, mine, interested]
          · simp [applied_concat]
        · exact (stands.other at_i mine).unmoved (by simp [seen, mine]) rfl rfl
  | spare s a previous i o collected at_i not_wanted =>
      have member : o ∈ s.observers := List.mem_of_getElem? at_i
      refine .inl ⟨rfl, since.snapshot, ?_, since.informed⟩
      intro kept
      have stands := since.stands kept
      by_cases mine : o.number = number
      · -- it is active, so if it is not called the value has not changed
        have unwanted : changed f previous s.snapshot = false := by
          rw [← among.owned.interest o member mine]
          simpa [among.active kept o member mine] using not_wanted
        refine stands.turn at_i mine among.numbered.nodup since.snapshot ?_ rfl rfl
        simp [unwanted]
      · exact stands.other at_i mine
  | told s a previous =>
      refine .inr ⟨.finished (.action a), rfl, since.more now ?_ ?_⟩
      · simpa [note, applied_concat] using since.snapshot
      · -- nobody is left to be told
        rintro kept ⟨as, told, place⟩
        have done : (numbers s.observers).drop s.observers.length = [] := by simp [numbers]
        refine ⟨as, by simpa [seen_concat] using told, ?_⟩
        simpa [done, note, applied_concat] using place
  | take s w later next =>
      refine .inr ⟨.took w, rfl, since.more now ?_ ?_⟩
      · simpa [note, applied_concat] using since.snapshot
      · rintro kept ⟨as, told, place⟩
        refine ⟨as, by simpa [seen_concat] using told, ?_⟩
        cases w <;> simpa [Phase.opening, applied_concat] using place
  | pass | hold | consumed | hear | fired =>
      refine .inr ⟨_, rfl, since.more now ?_ ?_⟩
      · simpa [note, applied_concat] using since.snapshot
      · rintro kept ⟨as, told, place⟩
        exact ⟨as, by simpa [seen_concat] using told, by simpa [applied_concat] using place⟩

theorem since_request (request : Request m m') (among : Among f number id events m)
    (since : Since f number id start events m) : Goes f number id start events m m' := by
  have now := among.now
  cases request with
  | join s other id interest client =>
      exact .inl ⟨rfl, since.snapshot, since.stands, since.informed⟩
  | greet s other id client collected =>
      -- whoever comes later has another number
      have apart : other ≠ number := Nat.ne_of_gt (among.owned.newer (other, id) rfl)
      refine .inr ⟨_, rfl, since.more now ?_ ?_⟩
      · simpa [note, applied_concat] using since.snapshot
      · intro kept stands
        exact stands.unmoved (by simp [seen, apart]) rfl rfl
  | _ =>
      refine .inr ⟨_, rfl, since.more now ?_ ?_⟩
      · simpa [addMiddleware, note, released, applied_concat] using since.snapshot
      · rintro kept ⟨as, told, place⟩
        exact ⟨as, by simpa [seen_concat] using told, by simpa [applied_concat] using place⟩

def greeted (number : Nat) (id : SubscriberId) (client : C.Observer) (start : Snapshot) :
    List (Event C) :=
  [.registered .observer number id, .observed number client start]

theorem running_greeted {before : List (Event C)} {client : C.Observer}
    (fits : Each (fun before e => e.Fits (running before))
      (before ++ greeted number id client start ++ events)) :
    running (before ++ greeted number id client start ++ events) = running events := by
  have idle : running before = none :=
    fits before (.registered .observer number id) (.observed number client start :: events)
      (by simp [greeted])
  rw [running] at idle ⊢
  rw [List.append_assoc, List.foldl_append, idle]
  rfl

theorem greeted_held {before : List (Event C)} {client : C.Observer} (kept : Kept id events) :
    (number, id) ∈ held .observer (before ++ greeted number id client start ++ events) := by
  refine mem_held.2 ⟨before, .observed number client start :: events, by simp [greeted], ?_⟩
  intro route member
  rcases List.mem_cons.1 member with same | later
  · cases same
  · exact kept route later

structure Followed (f : Snapshot → α) (number : Nat) (id : SubscriberId) (client : C.Observer)
    (start : Snapshot) (before : List (Event C)) (m : Moment C) : Prop where
  numbered : Numbered m
  subscribed : Subscribed m
  working : Working m
  owned : Owned f number m
  since : ∃ events, m.2.journal = before ++ greeted number id client start ++ events ∧
    Since f number id start events m

variable {client : C.Observer} {before : List (Event C)}

theorem Followed.among (followed : Followed f number id client start before m)
    (journal : m.2.journal = before ++ greeted number id client start ++ events) :
    Among f number id events m := by
  obtain ⟨numbered, subscribed, working, owned, -⟩ := followed
  have listed : Kept id events → ∃ o ∈ m.2.observers, o.number = number ∧ o.active = true := by
    intro kept
    have mine : (number, id) ∈ held .observer m.2.journal := journal ▸ greeted_held kept
    rw [← subscribed.kept] at mine
    rcases List.mem_append.1 (List.mem_of_mem_filter mine) with member | newcomer
    · obtain ⟨o, there, same⟩ := List.mem_map.1 member
      obtain ⟨there, active⟩ := List.mem_filter.1 there
      exact ⟨o, there, congrArg Prod.fst same, by simpa using active⟩
    · exact absurd (owned.newer _ (by simpa using newcomer)) (Nat.lt_irrefl _)
  refine ⟨numbered, owned, ?_, ?_, ?_⟩
  · rw [← working.now, journal, running_greeted (journal ▸ working.fits)]
  · intro kept
    obtain ⟨o, member, same, -⟩ := listed kept
    exact List.mem_map.2 ⟨o, member, same⟩
  · intro kept o member mine
    obtain ⟨o', member', same, active⟩ := listed kept
    rwa [numbered.unique member member' (mine.trans same.symm)]

theorem Goes.since (goes : Goes f number id start events m m')
    (journal : m.2.journal = before ++ greeted number id client start ++ events) :
    ∃ events, m'.2.journal = before ++ greeted number id client start ++ events ∧
      Since f number id start events m' := by
  rcases goes with ⟨same, since⟩ | ⟨e, grown, since⟩
  · exact ⟨events, same.trans journal, since⟩
  · exact ⟨events ++ [e], by rw [grown, journal, List.append_assoc], since⟩

theorem followed_move (move : Move m m') (followed : Followed f number id client start before m) :
    Followed f number id client start before m' := by
  obtain ⟨events, journal, since⟩ := followed.since
  have goes := since_move move (followed.among journal) since
  obtain ⟨numbered, subscribed, working, owned, -⟩ := followed
  exact ⟨numbered_move move numbered, subscribed_move move subscribed, working_move move working,
    owned_move move owned, goes.since journal⟩

theorem followed_request (request : Request m m')
    (followed : Followed f number id client start before m) :
    Followed f number id client start before m' := by
  obtain ⟨events, journal, since⟩ := followed.since
  have goes := since_request request (followed.among journal) since
  obtain ⟨numbered, subscribed, working, owned, -⟩ := followed
  exact ⟨numbered_request request numbered, subscribed_request request subscribed,
    working_request request working, owned_request request owned, goes.since journal⟩

end OneObserver

theorem welcome_journal (id : SubscriberId) (interest : Selector) (client : C.Observer)
    (s : Session C) :
    ∃ events, (s.welcome id interest client).journal =
        s.collect.journal ++ greeted s.registered id client s.snapshot ++ events ∧
      ∀ e ∈ events, e.inCourse = false := by
  let c := s.collect
  let called := ({ c with registered := c.registered + 1 }.note
    (.registered .observer c.registered id)).note (.observed c.registered client c.snapshot)
  obtain ⟨events, journal, aside⟩ :=
    (absorb_aside called (C.observe client c.snapshot c.world)).journal
  refine ⟨events, journal.trans ?_, aside⟩
  simp [called, c, note, greeted]

theorem welcome_observers (id : SubscriberId) (interest : Selector) (client : C.Observer)
    (s : Session C) :
    ∃ client', (s.welcome id interest client).observers =
      s.collect.observers ++ [⟨s.registered, id, interest, client', true⟩] := by
  refine ⟨(C.observe client s.collect.snapshot s.collect.world).client, ?_⟩
  simp [welcome, observe, note]

theorem welcome_registered (id : SubscriberId) (interest : Selector) (client : C.Observer)
    (s : Session C) : (s.welcome id interest client).registered = s.registered + 1 := by
  simp [welcome, observe, note]

theorem welcome_snapshot (id : SubscriberId) (interest : Selector) (client : C.Observer)
    (s : Session C) : (s.welcome id interest client).snapshot = s.snapshot := by
  simp [welcome, observe, note]

theorem followed_welcome (f : Snapshot → α) (id : SubscriberId) (client : C.Observer)
    {s : Session C} (numbered : Numbered (.idle, s)) (subscribed : Subscribed (.idle, s))
    (working : Working (.idle, s)) :
    Followed f s.registered id client s.snapshot s.collect.journal
      (.idle, s.welcome id (changed f) client) := by
  have path := welcome_steps id (changed f) client s
  have ready : Numbered (.idle, s.collect) :=
    (collect_moves (p := .idle) trivial s).keep _ (fun _ _ => numbered_move) numbered
  obtain ⟨events, journal, aside⟩ := welcome_journal id (changed f) client s
  refine ⟨path.keep _ (fun _ _ => numbered_move) (fun _ _ => numbered_request) numbered,
    path.keep _ (fun _ _ => subscribed_move) (fun _ _ => subscribed_request) subscribed,
    path.keep _ (fun _ _ => working_move) (fun _ _ => working_request) working, ?_,
    events, journal, ?_⟩
  · obtain ⟨client', observers⟩ := welcome_observers id (changed f) client s
    refine ⟨?_, ?_, fun tag same => by cases same⟩
    · intro o member mine
      rw [observers] at member
      rcases List.mem_append.1 member with earlier | last
      · have below := ready.below o.number (List.mem_append_left _ (List.mem_map_of_mem earlier))
        rw [mine] at below
        exact absurd below (by simp)
      · rw [List.mem_singleton.1 last]
    · rw [welcome_registered]
      exact Nat.lt_succ_self _
  · have nothing : applied events = [] := applied_aside aside
    refine ⟨by rw [welcome_snapshot, nothing, List.foldl_nil], ?_, ?_⟩
    · intro kept
      exact ⟨[], by simp [seen_aside _ aside, values_nil], nothing⟩
    · rintro sofar e later rfl kept
      have earlier : ∀ e ∈ sofar, e.inCourse = false :=
        fun e member => aside e (List.mem_append_left _ member)
      exact ⟨[], by simp [seen_aside _ earlier, values_nil], .inl (applied_aside earlier)⟩

/-- An observer of a value is given the snapshot there is when it subscribes. From then on, until
its subscriber unsubscribes, it is told of every value that an applied action leaves behind, in
order, unless the value is the one it was told before; the last value it knows is the present one.
While an action is being told to the observers, it may not know of this one yet. -/
theorem updates_ofCalls (f : Snapshot → α) (snapshot : Snapshot) (world : C.World)
    (before after : List (Call C)) (id : SubscriberId) (client : C.Observer) (bound : Nat)
    (arrivals : List (List Command)) :
    let was := ofCalls snapshot world before
    let s := ofCalls snapshot world
      (before ++ ⟨.subscribe id (changed f) client, bound, arrivals⟩ :: after)
    let known (events : List (Event C)) := (was.snapshot :: seen was.registered events).map f
    ∃ first rest, s.journal = first ++ greeted was.registered id client was.snapshot ++ rest ∧
      was.journal <+: first ∧ applied first = applied was.journal ∧
      s.snapshot = (applied rest).foldl Snapshot.reduce was.snapshot ∧
      (Kept id rest → known rest = values f was.snapshot (applied rest) ∧
        (known rest).getLast? = some (f s.snapshot)) ∧
      ∀ mid e later, rest = mid ++ e :: later → Kept id mid →
        known mid = values f was.snapshot (applied mid) ∨
          ∃ as a, applied mid = as ++ [a] ∧ running mid = some (.action a) ∧
            known mid = values f was.snapshot as := by
  intro was s known
  let ready := { was with arrivals := arrivals }
  have numbered : Numbered (.idle, was) :=
    ofCalls_induction Numbered ⟨.nil, by simp [start, Store.new, numbers, Phase.newcomer?]⟩
      (fun _ _ => numbered_move) (fun _ _ => numbered_request) before
  have subscribed : Subscribed (.idle, was) := subscribed_ofCalls snapshot world before
  have working : Working (.idle, was) := working_ofCalls snapshot world before
  have looks : Move (.idle, was) (.idle, ready) := .arrivals .idle was arrivals
  have welcomed : Followed f was.registered id client was.snapshot ready.collect.journal
      (.idle, ready.welcome id (changed f) client) :=
    followed_welcome f id client (numbered_move looks numbered) (subscribed_move looks subscribed)
      (working_move looks working)
  have path : Steps (.idle, ready.welcome id (changed f) client) (.idle, s) := by
    have serves : s = after.foldl serve (ready.subscribe bound id (changed f) client) := by
      simp only [s, ofCalls, List.foldl_append, List.foldl_cons]
      rfl
    rw [serves, subscribe_eq]
    refine .head (.inl (.notice _ _ (.subscribed id))) ?_
    exact (Moves.steps (run_moves bound _)).trans (serves_steps _ after)
  obtain ⟨rest, journal, since⟩ := (path.keep _ (fun _ _ => followed_move)
    (fun _ _ => followed_request) welcomed).since
  obtain ⟨-, events, collected, aside⟩ := collect_aside ready
  refine ⟨ready.collect.journal, rest, journal, ⟨events, collected.symm⟩, ?_, since.snapshot,
    ?_, ?_⟩
  · rw [collected, applied_append, applied_aside aside, List.append_nil]
  · intro kept
    obtain ⟨as, told, rfl⟩ := since.stands kept
    have all : known rest = values f was.snapshot (applied rest) := told
    refine ⟨all, ?_⟩
    rw [all, values_getLast?, since.snapshot]
  · intro mid e later parts kept
    obtain ⟨as, told, rfl | ⟨a, waiting, now⟩⟩ := since.informed mid e later parts kept
    · exact .inl told
    · exact .inr ⟨as, a, waiting, now, told⟩

end Session
end WalletLoop
