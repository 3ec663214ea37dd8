import WalletLoop.Proofs.Session.Passes

namespace WalletLoop

variable {C : Clients} {Interest Client : Type}

def Subscription.Fades (o later : Subscription Interest Client) : Prop :=
  later = o ∨ later = { o with active := false }

def Subscription.Lasts (o later : Subscription Interest Client) : Prop :=
  ∃ client, { o with client := client }.Fades later

namespace Subscription

theorem Fades.refl (o : Subscription Interest Client) : o.Fades o := .inl rfl

theorem Fades.trans (a b c : Subscription Interest Client) (first : a.Fades b)
    (second : b.Fades c) : a.Fades c := by
  rcases first with rfl | rfl <;> rcases second with rfl | rfl <;> simp [Fades]

theorem Fades.lasts {o later : Subscription Interest Client} (fades : o.Fades later) :
    o.Lasts later :=
  ⟨o.client, fades⟩

theorem Lasts.trans (a b c : Subscription Interest Client) (first : a.Lasts b)
    (second : b.Lasts c) : a.Lasts c := by
  obtain ⟨client, rfl | rfl⟩ := first <;> obtain ⟨client', rfl | rfl⟩ := second <;>
    exact ⟨client', by simp [Fades]⟩

theorem fades_afterwards (cs : List Command) (o : Subscription Interest Client) :
    o.Fades (o.afterwards cs) := by
  unfold Subscription.afterwards
  split
  · exact .inr rfl
  · exact .inl rfl

end Subscription

abbrev Faded (entries later : List (Subscription Interest Client)) : Prop :=
  List.Forall₂ Subscription.Fades entries later

abbrev Lasting (entries later : List (Subscription Interest Client)) : Prop :=
  List.Forall₂ Subscription.Lasts entries later

theorem forall₂_trans {α : Type} {r : α → α → Prop} (trans : ∀ a b c, r a b → r b c → r a c)
    {first second third : List α} (before : List.Forall₂ r first second)
    (after : List.Forall₂ r second third) : List.Forall₂ r first third := by
  induction before generalizing third with
  | nil => exact after
  | cons here _ ih =>
      cases after with
      | cons here' rest => exact .cons (trans _ _ _ here here') (ih rest)

theorem faded_refl (entries : List (Subscription Interest Client)) : Faded entries entries :=
  List.forall₂_same.2 fun o _ => .refl o

theorem lasting_of_faded {entries later : List (Subscription Interest Client)}
    (faded : Faded entries later) : Lasting entries later :=
  faded.imp fun _ _ fades => fades.lasts

theorem lasting_refl (entries : List (Subscription Interest Client)) : Lasting entries entries :=
  lasting_of_faded (faded_refl entries)

theorem faded_afterwards (cs : List Command) (entries : List (Subscription Interest Client)) :
    Faded entries (entries.map (·.afterwards cs)) :=
  List.forall₂_map_right_iff.2 <| List.forall₂_same.2 fun o _ => o.fades_afterwards cs

theorem lasting_set {entries : List (Subscription Interest Client)} {i : Nat}
    {o : Subscription Interest Client} (at_i : entries[i]? = some o) (client : Client) :
    Lasting entries (entries.set i { o with client := client }) := by
  induction entries generalizing i with
  | nil => cases at_i
  | cons first rest ih =>
      cases i with
      | zero =>
          obtain rfl : first = o := by simpa using at_i
          exact .cons ⟨client, .inl rfl⟩ (lasting_refl rest)
      | succ i => exact .cons (Subscription.Fades.refl first).lasts (ih (by simpa using at_i))

theorem lasting_called {entries now : List (Subscription Interest Client)} (faded : Faded entries now)
    {i : Nat} {o : Subscription Interest Client} (at_i : now[i]? = some o) (client : Client) :
    Lasting entries (now.set i { o with client := client }) ∧
      Faded (entries.drop (i + 1)) ((now.set i { o with client := client }).drop (i + 1)) := by
  constructor
  · exact forall₂_trans Subscription.Lasts.trans (lasting_of_faded faded) (lasting_set at_i client)
  · rw [List.drop_set_of_lt (Nat.lt_succ_self i)]
    exact List.forall₂_drop _ faded

theorem faded_at {entries later : List (Subscription Interest Client)} {i : Nat}
    (faded : Faded (entries.drop i) (later.drop i)) {o : Subscription Interest Client}
    (at_i : entries[i]? = some o) : ∃ o', later[i]? = some o' ∧ o.Fades o' := by
  obtain ⟨inside, rfl⟩ := List.getElem?_eq_some_iff.1 at_i
  rw [List.drop_eq_getElem_cons inside] at faded
  obtain ⟨o', rest, fades, -, found⟩ := List.forall₂_cons_left_iff.1 faded
  have first : (later.drop i)[0]? = some o' := by rw [found]; rfl
  exact ⟨o', by simpa using first, fades⟩

namespace Session

structure Settled (s s' : Session C) : Prop where
  observers : Lasting s.observers s'.observers
  listeners : Lasting s.listeners s'.listeners

theorem Settled.refl (s : Session C) : Settled s s := ⟨lasting_refl _, lasting_refl _⟩

theorem Settled.trans {s s' s'' : Session C} (first : Settled s s') (second : Settled s' s'') :
    Settled s s'' :=
  ⟨forall₂_trans Subscription.Lasts.trans first.observers second.observers,
    forall₂_trans Subscription.Lasts.trans first.listeners second.listeners⟩

theorem collect_faded (s : Session C) :
    Faded s.observers s.collect.observers ∧ Faded s.listeners s.collect.listeners := by
  obtain ⟨ns, same⟩ := emptyChannel_eq s.arrive
  rw [collect, same]
  simp only [emptied, arrive_toStore]
  exact ⟨faded_afterwards _ _, faded_afterwards _ _⟩

/-- A pass that started with one session has come to another one, and now it is the turn of a
position. Those whose turn is still to come are as they were, unless they have been given up, and so
are those that the pass is not about. The entry that is looked at next is the one that stood there
when the pass started. -/
structure InPlace {I J O L : Type} (walked : Session C → List (Subscription I O))
    (others : Session C → List (Subscription J L)) (s s' : Session C) (i : Nat) : Prop where
  all : Lasting (walked s) (walked s')
  ahead : Faded ((walked s).drop i) ((walked s').drop i)
  others : Faded (others s) (others s')
  next : ∀ o, (walked s)[i]? = some o → ∃ o', (walked s'.collect)[i]? = some o' ∧ o.Fades o'

section Pass
variable {I J O L : Type} {walked : Session C → List (Subscription I O)}
  {others : Session C → List (Subscription J L)} {turn : Session C → Nat → Session C}

theorem inPlace_turns (collects : ∀ s : Session C, Faded (walked s) (walked s.collect))
    (turns : ∀ s i, Lasting (walked s) (walked (turn s i)) ∧
      Faded ((walked s).drop (i + 1)) ((walked (turn s i)).drop (i + 1)) ∧
      Faded (others s) (others (turn s i))) (s : Session C) (i : Nat) :
    InPlace walked others s ((List.range i).foldl turn s) i := by
  have found {s' : Session C} {i : Nat} (ahead : Faded ((walked s).drop i) ((walked s').drop i))
      {o : Subscription I O} (at_i : (walked s)[i]? = some o) :
      ∃ o', (walked s'.collect)[i]? = some o' ∧ o.Fades o' := by
    have now := forall₂_trans Subscription.Fades.trans ahead (List.forall₂_drop i (collects s'))
    exact faded_at now at_i
  induction i with
  | zero =>
      exact ⟨lasting_refl _, faded_refl _, faded_refl _, fun o at_i => found (faded_refl _) at_i⟩
  | succ i ih =>
      rw [List.range_succ, List.foldl_append]
      obtain ⟨all, behind, others⟩ := turns ((List.range i).foldl turn s) i
      have ahead := ih.ahead
      have later := List.forall₂_drop 1 ahead
      rw [List.drop_drop, List.drop_drop] at later
      have still := forall₂_trans Subscription.Fades.trans later behind
      exact ⟨forall₂_trans Subscription.Lasts.trans ih.all all, still,
        forall₂_trans Subscription.Fades.trans ih.others others, fun o at_i => found still at_i⟩

end Pass

theorem notifyAt_faded (previous : Snapshot) (s : Session C) (i : Nat) :
    Lasting s.observers (notifyAt previous s i).observers ∧
      Faded (s.observers.drop (i + 1)) ((notifyAt previous s i).observers.drop (i + 1)) ∧
      Faded s.listeners (notifyAt previous s i).listeners := by
  obtain ⟨observers, listeners⟩ := collect_faded s
  have uncalled := List.forall₂_drop (i + 1) observers
  unfold notifyAt
  dsimp only
  split
  · rename_i o at_i
    split
    · have called := lasting_called observers at_i (s.collect.observe o).1.client
      simp only [observe, absorb_observers, absorb_listeners, note] at called ⊢
      exact ⟨called.1, called.2, listeners⟩
    · exact ⟨lasting_of_faded observers, uncalled, listeners⟩
  · exact ⟨lasting_of_faded observers, uncalled, listeners⟩

theorem fireAt_faded (t : Trigger) (s : Session C) (i : Nat) :
    Lasting s.listeners (fireAt t s i).listeners ∧
      Faded (s.listeners.drop (i + 1)) ((fireAt t s i).listeners.drop (i + 1)) ∧
      Faded s.observers (fireAt t s i).observers := by
  obtain ⟨observers, listeners⟩ := collect_faded s
  have uncalled := List.forall₂_drop (i + 1) listeners
  unfold fireAt
  dsimp only
  split
  · rename_i l at_i
    split
    · have called := lasting_called listeners at_i (s.collect.hear l t).1.client
      simp only [hear, absorb_observers, absorb_listeners, note] at called ⊢
      exact ⟨called.1, called.2, observers⟩
    · exact ⟨lasting_of_faded listeners, uncalled, observers⟩
  · exact ⟨lasting_of_faded listeners, uncalled, observers⟩

theorem notify_inPlace (previous : Snapshot) (s : Session C) (i : Nat) :
    InPlace (·.observers) (·.listeners) s ((List.range i).foldl (notifyAt previous) s) i :=
  inPlace_turns (fun s => (collect_faded s).1) (notifyAt_faded previous) s i

theorem fire_inPlace (t : Trigger) (s : Session C) (i : Nat) :
    InPlace (·.listeners) (·.observers) s ((List.range i).foldl (fireAt t) s) i :=
  inPlace_turns (fun s => (collect_faded s).2) (fireAt_faded t) s i

theorem notify_settled (previous : Snapshot) (s : Session C) : Settled s (s.notify previous) :=
  have pass := notify_inPlace previous s s.observers.length
  ⟨pass.all, lasting_of_faded pass.others⟩

theorem fire_settled (t : Trigger) (s : Session C) : Settled s (s.fire t) :=
  have pass := fire_inPlace t (s.notice (.fired t)) s.listeners.length
  ⟨lasting_of_faded pass.others, pass.all⟩

theorem consult_settled (a : Action) (ms : List C.Middleware) (s : Session C) :
    Settled s (consult a ms s).2.1 := by
  induction ms generalizing s with
  | nil => exact .refl s
  | cons m ms ih =>
      let v := C.consult m a s.snapshot s.world
      have asked : Settled s ((s.note (.consulted m a s.snapshot v.passes)).absorb v.toReply) := by
        constructor
        · rw [absorb_observers]
          exact lasting_refl _
        · rw [absorb_listeners]
          exact lasting_refl _
      unfold consult
      dsimp only
      split
      · exact asked.trans (ih _)
      · exact asked

theorem apply_settled (s : Session C) (a : Action) : Settled s (s.apply a) := by
  obtain ⟨observers, listeners⟩ := consult_settled a s.middleware s
  unfold apply
  dsimp only
  split
  · refine .trans ?_ (notify_settled s.snapshot _)
    exact ⟨observers, listeners⟩
  · exact ⟨observers, listeners⟩

theorem perform_settled (s : Session C) (w : Work) : Settled s (s.perform w) := by
  cases w with
  | action a =>
      have applied := apply_settled (s.note (.took (.action a))) a
      exact ⟨applied.observers, applied.listeners⟩
  | trigger t =>
      have fired := fire_settled t (s.note (.took (.trigger t)))
      exact ⟨fired.observers, fired.listeners⟩

def Joined (s s' : Session C) : Prop :=
  (∃ o, s'.observers = s.observers ++ [o] ∧ s'.listeners = s.listeners) ∨
    ∃ l, s'.listeners = s.listeners ++ [l] ∧ s'.observers = s.observers

theorem settled_move {m m' : Moment C} (move : Move m m') :
    Settled m.2 m'.2 ∨ m.1.work? = none ∧ m'.2 = m.2.compact := by
  cases move with
  | compact s => exact .inr ⟨rfl, rfl⟩
  | empty p s collects =>
      exact .inl ⟨lasting_of_faded (faded_afterwards _ _), lasting_of_faded (faded_afterwards _ _)⟩
  | observer p s i o client at_i => exact .inl ⟨lasting_set at_i client, lasting_refl _⟩
  | listener p s i l client at_i => exact .inl ⟨lasting_refl _, lasting_set at_i client⟩
  | _ => exact .inl ⟨lasting_refl _, lasting_refl _⟩

theorem settled_request {m m' : Moment C} (request : Request m m') :
    Settled m.2 m'.2 ∨ m.1.work? = none ∧ Joined m.2 m'.2 := by
  cases request with
  | release s id =>
      exact .inl ⟨lasting_of_faded (faded_afterwards _ _), lasting_of_faded (faded_afterwards _ _)⟩
  | listen s id t client collected => exact .inr ⟨rfl, .inr ⟨_, rfl, rfl⟩⟩
  | join s number id interest client => exact .inr ⟨rfl, .inl ⟨_, rfl, rfl⟩⟩
  | _ => exact .inl ⟨lasting_refl _, lasting_refl _⟩

def Orderly (m m' : Moment C) : Prop :=
  (Move m m' ∨ Request m m') ∧
    (Settled m.2 m'.2 ∨
      running m.2.journal = none ∧ (Joined m.2 m'.2 ∨ m'.2 = m.2.compact))

theorem orderly_steps {m m' : Moment C} (path : Steps m m') (working : Working m) :
    Relation.ReflTransGen Orderly m m' ∧ Working m' := by
  induction path with
  | refl => exact ⟨.refl, working⟩
  | @tail m' m'' _ step ih =>
      obtain ⟨path, working⟩ := ih
      have next : Working m'' :=
        step.elim (working_move · working) (working_request · working)
      have resting (free : m'.1.work? = none) : running m'.2.journal = none := working.now.trans free
      refine ⟨path.tail ⟨step, ?_⟩, next⟩
      rcases step with move | request
      · exact (settled_move move).imp_right fun ⟨free, same⟩ => ⟨resting free, .inr same⟩
      · exact (settled_request request).imp_right fun ⟨free, joined⟩ => ⟨resting free, .inl joined⟩

/-- In any pass, whatever is sent while it is going on, both lists keep their entries and the order
of the entries, the flags are only cleared, and at its turn a position holds the subscription that it
held at the start. So it is through a whole piece of work. Dropping what was given up takes out just
that and leaves the rest in order, and in all runs it only happens while no piece of work is being
done. -/
theorem positions_ofCalls (snapshot : Snapshot) (world : C.World) (calls : List (Call C)) :
    (∀ (s : Session C) (previous : Snapshot) (i : Nat),
      InPlace (·.observers) (·.listeners) s ((List.range i).foldl (notifyAt previous) s) i) ∧
    (∀ (s : Session C) (t : Trigger) (i : Nat),
      InPlace (·.listeners) (·.observers) s ((List.range i).foldl (fireAt t) s) i) ∧
    (∀ (s : Session C) (w : Work), Settled s (s.perform w)) ∧
    (∀ s : Session C,
      (s.compact.observers.Sublist s.observers ∧
        ∀ o, o ∈ s.compact.observers ↔ o ∈ s.observers ∧ o.active = true) ∧
      s.compact.listeners.Sublist s.listeners ∧
        ∀ l, l ∈ s.compact.listeners ↔ l ∈ s.listeners ∧ l.active = true) ∧
    Relation.ReflTransGen Orderly (.idle, start (.new C snapshot) world)
      (.idle, ofCalls snapshot world calls) := by
  refine ⟨fun s previous => notify_inPlace previous s, fun s t => fire_inPlace t s,
    perform_settled, fun s => ?_, ?_⟩
  · exact ⟨⟨List.filter_sublist, fun o => List.mem_filter⟩, List.filter_sublist,
      fun l => List.mem_filter⟩
  · exact (orderly_steps (ofCalls_steps snapshot world calls) ⟨rfl, each_nil _⟩).1

theorem meddlers_in_place :
    let s : Session meddling := ofCalls (.initial .standard) () (meddlers.take 3)
    let told := s.advance (.settings (.setPinLength 4))
    let turned := (List.range 1).foldl (notifyAt s.snapshot) told
    numbers told.observers = [0, 1, 2] ∧
      turned.collect.observers.map (fun o => (o.number, o.active)) =
        [(0, true), (1, false), (2, true)] ∧
      numbers (told.notify s.snapshot).observers = [0, 1, 2] ∧
      numbers (told.notify s.snapshot).compact.observers = [0, 2] ∧
      InPlace (·.observers) (·.listeners) told turned 1 := by
  intro s told turned
  have places := positions_ofCalls (C := meddling) (.initial .standard) () (meddlers.take 3)
  exact ⟨by decide, by decide, by decide, by decide, places.1 told s.snapshot 1⟩

end Session
end WalletLoop
