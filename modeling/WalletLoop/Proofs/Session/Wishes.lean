import WalletLoop.Proofs.Session.Updates

namespace WalletLoop

variable {C : Clients}

abbrev Wish := SubscriberId × (Selector ⊕ Trigger)

def Operation.wish? : Operation C → Option Wish
  | .subscribe id interest _ => some (id, .inl interest)
  | .subscribeTrigger id t _ => some (id, .inr t)
  | _ => none

@[simp]
theorem afterwards_id {Interest Client : Type} (cs : List Command)
    (o : Subscription Interest Client) : (o.afterwards cs).id = o.id := by
  unfold Subscription.afterwards
  split <;> rfl

namespace Session

/-- Who subscribed to what, by the number of the subscription. -/
def wishes (calls : List (Call C)) : List Wish :=
  calls.filterMap (·.operation.wish?)

structure Wishing (W : List Wish) (s : Session C) : Prop where
  observers : ∀ o ∈ s.observers, W[o.number]? = some (o.id, .inl o.interest)
  listeners : ∀ l ∈ s.listeners, W[l.number]? = some (l.id, .inr l.interest)

variable {W : List Wish} {m m' : Moment C} {s : Session C}

section Entries
variable {Interest Client : Type} {entries : List (Subscription Interest Client)}
  {wish : Interest → Selector ⊕ Trigger}

theorem wishes_afterwards (all : ∀ o ∈ entries, W[o.number]? = some (o.id, wish o.interest))
    (cs : List Command) :
    ∀ o ∈ entries.map (·.afterwards cs), W[o.number]? = some (o.id, wish o.interest) := by
  intro o member
  obtain ⟨o, there, rfl⟩ := List.mem_map.1 member
  rw [afterwards_number, afterwards_id, afterwards_interest]
  exact all o there

theorem wishes_set (all : ∀ o ∈ entries, W[o.number]? = some (o.id, wish o.interest)) {i : Nat}
    {o : Subscription Interest Client} (at_i : entries[i]? = some o) (client : Client) :
    ∀ o' ∈ entries.set i { o with client := client },
      W[o'.number]? = some (o'.id, wish o'.interest) := by
  intro o' member
  rcases List.mem_or_eq_of_mem_set member with there | rfl
  · exact all o' there
  · exact all o (List.mem_of_getElem? at_i)

end Entries

theorem wishing_move (move : Move m m') (wishing : Wishing W m.2) : Wishing W m'.2 := by
  obtain ⟨observers, listeners⟩ := wishing
  cases move with
  | empty p s collects =>
      exact ⟨wishes_afterwards observers s.channel, wishes_afterwards listeners s.channel⟩
  | observer p s i o client at_i => exact ⟨wishes_set observers at_i client, listeners⟩
  | listener p s i l client at_i => exact ⟨observers, wishes_set listeners at_i client⟩
  | compact s =>
      exact ⟨fun o member => observers o (List.mem_of_mem_filter member),
        fun l member => listeners l (List.mem_of_mem_filter member)⟩
  | _ => exact ⟨observers, listeners⟩

theorem wishing_moves (path : Moves m m') (wishing : Wishing W m.2) : Wishing W m'.2 :=
  path.keep (fun m => Wishing W m.2) (fun _ _ => wishing_move) wishing

def Stride (W : List Wish) (m m' : Moment C) : Prop :=
  Move m m' ∨ Request m m' ∧ Wishing W m'.2

abbrev Strides (W : List Wish) : Moment C → Moment C → Prop := Relation.ReflTransGen (Stride W)

theorem Moves.strides (path : Moves m m') : Strides W m m' := by
  induction path with
  | refl => exact .refl
  | tail _ last ih => exact ih.tail (.inl last)

theorem Strides.keep (Holds : Moment C → Prop) (path : Strides W m m')
    (stride : ∀ m m', Stride W m m' → Holds m → Holds m') (before : Holds m) : Holds m' := by
  induction path with
  | refl => exact before
  | tail _ last ih => exact stride _ _ last ih

theorem welcome_strides {id : SubscriberId} {interest : Selector} (wishing : Wishing W s)
    (wish : W[s.registered]? = some (id, .inl interest)) (client : C.Observer) :
    Strides W (.idle, s) (.idle, s.welcome id interest client) := by
  have looked := collect_moves (p := .idle) trivial s
  obtain ⟨observers, listeners⟩ := wishing_moves looked wishing
  apply (Moves.strides looked).trans
  refine .head (.inr ⟨.register s.collect id (collect_channel s), observers, listeners⟩) ?_
  refine .head (.inr ⟨.greet _ s.collect.registered id client (collect_channel s), observers,
    listeners⟩) ?_
  let reply := C.observe client s.collect.snapshot s.collect.world
  refine (Moves.strides (absorb_moves _ _ reply)).trans ?_
  refine .single (.inr ⟨.join _ s.collect.registered id interest reply.client, ?_, ?_⟩)
  · intro o member
    rcases List.mem_append.1 member with earlier | new
    · exact observers o (by simpa [note] using earlier)
    · obtain rfl := List.mem_singleton.1 new
      exact (congrArg (W[·]?) (collect_registered s)).trans wish
  · have same : (s.welcome id interest client).listeners = s.collect.listeners := by
      simp [welcome, observe, note]
    exact fun l member => listeners l (same ▸ member)

theorem operate_strides {o : Operation C} (wishing : Wishing W s)
    (wish : ∀ w, o.wish? = some w → W[s.registered]? = some w) (bound : Nat) :
    Strides W (.idle, s) (.idle, s.operate bound o) := by
  obtain ⟨observers, listeners⟩ := wishing
  cases o with
  | addMiddleware m => exact .single (.inr ⟨.add s m, observers, listeners⟩)
  | subscribe id interest client =>
      refine (welcome_strides ⟨observers, listeners⟩ (wish _ rfl) client).trans ?_
      exact .head (.inl (.notice _ _ (.subscribed id))) (Moves.strides (run_moves bound _))
  | subscribeTrigger id t client =>
      have path := (collect_moves (p := .idle) trivial s).tail (.compact _)
      have gathered := wishing_moves path ⟨observers, listeners⟩
      refine (Moves.strides path).trans ?_
      refine .single (.inr ⟨.listen _ id t client (collect_channel s), gathered.observers, ?_⟩)
      intro l member
      rcases List.mem_append.1 member with earlier | new
      · exact gathered.listeners l earlier
      · obtain rfl := List.mem_singleton.1 new
        exact (congrArg (W[·]?) (collect_registered s)).trans (wish _ rfl)
  | unsubscribe id =>
      obtain ⟨ns, same⟩ := deactivate_eq (s.note (.issued .direct (.unsubscribe id))) id
      simp only [operate, unsubscribe, same]
      refine .head (.inr ⟨.release s id, wishes_afterwards observers _,
        wishes_afterwards listeners _⟩) ?_
      exact Moves.strides ((notices_moves .idle (s.released id) ns).tail (.compact _))
  | dispatch a =>
      exact .head (.inr ⟨.submit s (.dispatch a) _ rfl, observers, listeners⟩)
        (Moves.strides (run_moves bound _))
  | trigger t =>
      exact .head (.inr ⟨.submit s (.trigger t) _ rfl, observers, listeners⟩)
        (Moves.strides (run_moves bound _))
  | processPending => exact Moves.strides (run_moves bound s)
  | send cs => exact Moves.strides (send_moves .idle s cs)

theorem registered_moves (path : Moves m m') : m'.2.registered = m.2.registered := by
  refine path.keep (·.2.registered = m.2.registered) (fun m m' move same => ?_) rfl
  rw [← same]
  cases move <;> rfl

theorem operate_registered (bound : Nat) (s : Session C) (o : Operation C) :
    (s.operate bound o).registered = s.registered + o.wish?.toList.length := by
  cases o with
  | addMiddleware m => rfl
  | subscribe id interest client =>
      have ran := registered_moves
        (run_moves bound ((s.welcome id interest client).notice (.subscribed id)))
      exact ran.trans (welcome_registered id interest client s)
  | subscribeTrigger id t client =>
      exact congrArg (· + 1) (collect_registered s)
  | unsubscribe id =>
      obtain ⟨ns, same⟩ := deactivate_eq (s.note (.issued .direct (.unsubscribe id))) id
      simp only [operate, unsubscribe, same]
      rfl
  | dispatch a => exact registered_moves (run_moves bound _)
  | trigger t => exact registered_moves (run_moves bound _)
  | processPending => exact registered_moves (run_moves bound s)
  | send cs => exact registered_moves (send_moves .idle s cs)

theorem serve_strides {front : List Wish} {c : Call C} (wishing : Wishing W s)
    (wish : front ++ c.operation.wish?.toList <+: W) (count : s.registered = front.length) :
    Strides W (.idle, s) (.idle, s.serve c) := by
  refine .head (.inl (.arrivals .idle s c.arrivals)) ?_
  have prepared : Wishing W { s with arrivals := c.arrivals } :=
    ⟨wishing.observers, wishing.listeners⟩
  refine operate_strides prepared (fun w asks => ?_) c.bound
  obtain ⟨later, rfl⟩ := wish
  have here : ({ s with arrivals := c.arrivals } : Session C).registered = front.length := count
  rw [here, asks]
  simp

theorem Strides.wishing (path : Strides W m m') (wishing : Wishing W m.2) : Wishing W m'.2 :=
  path.keep (fun m => Wishing W m.2)
    (fun _ _ stride before => stride.elim (wishing_move · before) (·.2)) wishing

theorem serves_strides {front : List Wish} {calls : List (Call C)} (wishing : Wishing W s)
    (all : front ++ wishes calls <+: W) (count : s.registered = front.length) :
    Strides W (.idle, s) (.idle, calls.foldl serve s) := by
  induction calls generalizing front s with
  | nil => exact .refl
  | cons c calls ih =>
      have split : wishes (c :: calls) = c.operation.wish?.toList ++ wishes calls := by
        cases asks : c.operation.wish? <;> simp [wishes, asks]
      rw [split, ← List.append_assoc] at all
      have first := serve_strides wishing ((List.prefix_append _ _).trans all) count
      refine first.trans (ih (first.wishing wishing) all ?_)
      rw [List.length_append, ← count]
      exact operate_registered c.bound { s with arrivals := c.arrivals } c.operation

theorem wishing_new (snapshot : Snapshot) (world : C.World) :
    Wishing W (start (.new C snapshot) world) :=
  ⟨by simp [start, Store.new], by simp [start, Store.new]⟩

end Session
end WalletLoop
