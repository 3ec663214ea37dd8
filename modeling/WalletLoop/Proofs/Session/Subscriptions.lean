import WalletLoop.Proofs.Session.History

/-!
# Who is subscribed

An unsubscription may reach the store at any time and by any route, and is carried out when the
channel is emptied. The journal alone says which subscriptions are `held`: those that were
registered after the last unsubscription of their subscriber. `subscriptions_ofCalls` says that they
are the ones the store keeps whenever it has emptied its channel, and that nobody else is called.
-/

namespace WalletLoop

variable {C : Clients}

def Event.called? : Event C → Option (Role × Nat)
  | .observed number _ _ => some (.observer, number)
  | .heard number _ _ => some (.listener, number)
  | _ => none

def Event.isRegistered : Event C → Bool
  | .registered .. => true
  | _ => false

def Role.among {α : Type} (observers listeners : α) : Role → α
  | .observer => observers
  | .listener => listeners

abbrev Tag := Nat × SubscriberId

def tags {Interest Client : Type} (entries : List (Subscription Interest Client)) : List Tag :=
  (entries.filter (·.active)).map fun o => (o.number, o.id)

def Tag.spared (cs : List Command) (tag : Tag) : Bool := .unsubscribe tag.2 ∉ cs

theorem activeNumbers_eq {Interest Client : Type} (entries : List (Subscription Interest Client)) :
    activeNumbers entries = (tags entries).map (·.1) := by
  simp [activeNumbers, tags]

theorem tags_append {Interest Client : Type} (entries more : List (Subscription Interest Client)) :
    tags (entries ++ more) = tags entries ++ tags more := by
  simp [tags]

theorem tags_active {Interest Client : Type} (entries : List (Subscription Interest Client)) :
    tags (entries.filter (·.active)) = tags entries := by
  simp [tags]

theorem tags_afterwards {Interest Client : Type} (cs : List Command)
    (entries : List (Subscription Interest Client)) :
    tags (entries.map (·.afterwards cs)) = (tags entries).filter (·.spared cs) := by
  induction entries with
  | nil => rfl
  | cons o entries ih =>
      by_cases gone : Command.unsubscribe o.id ∈ cs <;> cases active : o.active <;>
        simp_all [tags, Subscription.afterwards, Tag.spared]

theorem tags_set {Interest Client : Type} {entries : List (Subscription Interest Client)} {i : Nat}
    {o : Subscription Interest Client} (at_i : entries[i]? = some o) (client : Client) :
    tags (entries.set i { o with client := client }) = tags entries := by
  have whole : tags entries = tags (entries.take i ++ o :: entries.drop (i + 1)) :=
    congrArg tags (Session.split_at at_i)
  rw [List.set_eq_take_append_cons_drop, if_pos (List.getElem?_eq_some_iff.1 at_i).1, whole]
  cases active : o.active <;> simp [tags, active]

def Phase.newcomer? : Phase C → Option Tag
  | .greeting number id | .joining number id => some (number, id)
  | _ => none

namespace Session

def registrations (journal : List (Event C)) : Nat := journal.countP (·.isRegistered)

@[simp]
theorem registrations_concat (journal : List (Event C)) (e : Event C) :
    registrations (journal ++ [e]) = registrations journal + if e.isRegistered then 1 else 0 := by
  simp [registrations, List.countP_append, List.countP_cons]

def heldAfter (role : Role) (entries : List Tag) : Event C → List Tag
  | .registered r number id => if r = role then entries ++ [(number, id)] else entries
  | .issued _ c => entries.filter (·.spared [c])
  | _ => entries

/-- The subscriptions that were made and not given up since. -/
def held (role : Role) (journal : List (Event C)) : List Tag := journal.foldl (heldAfter role) []

@[simp]
theorem held_concat (role : Role) (journal : List (Event C)) (e : Event C) :
    held role (journal ++ [e]) = heldAfter role (held role journal) e := by
  simp [held]

def Kept (id : SubscriberId) (events : List (Event C)) : Prop :=
  ∀ route, .issued route (.unsubscribe id) ∉ events

theorem kept_concat {id : SubscriberId} {events : List (Event C)} {e : Event C} :
    Kept id (events ++ [e]) ↔ Kept id events ∧ ∀ route, e ≠ .issued route (.unsubscribe id) := by
  simp only [Kept, List.mem_append, List.mem_singleton, not_or, ← forall_and, ne_comm (a := e)]

theorem mem_held {role : Role} {journal : List (Event C)} {number : Nat} {id : SubscriberId} :
    (number, id) ∈ held role journal ↔
      ∃ before after, journal = before ++ .registered role number id :: after ∧ Kept id after := by
  induction journal using List.reverseRecOn with
  | nil => simp [held]
  | append_singleton journal e ih =>
      have last : (∃ before after, journal ++ [e] = before ++ .registered role number id :: after ∧
          Kept id after) ↔ e = .registered role number id ∨
            (number, id) ∈ held role journal ∧ ∀ route, e ≠ .issued route (.unsubscribe id) := by
        rw [ih]
        constructor
        · rintro ⟨before, after, same, kept⟩
          rcases after.eq_nil_or_concat' with rfl | ⟨after, final, rfl⟩
          · obtain ⟨-, ends⟩ := List.append_inj' same rfl
            exact .inl (by simpa using ends)
          · rw [← List.cons_append, ← List.append_assoc] at same
            obtain ⟨rfl, ends⟩ := List.append_inj' same rfl
            obtain rfl : e = final := by simpa using ends
            obtain ⟨kept, other⟩ := kept_concat.1 kept
            exact .inr ⟨⟨before, after, rfl, kept⟩, other⟩
        · rintro (rfl | ⟨⟨before, after, rfl, kept⟩, other⟩)
          · exact ⟨journal, [], rfl, by simp [Kept]⟩
          · exact ⟨before, after ++ [e], by simp, kept_concat.2 ⟨kept, other⟩⟩
      rw [last, held_concat]
      cases e with
      | registered r other subscriber =>
          by_cases same : r = role
          · simp [heldAfter, same]
            grind
          · simp [heldAfter, same]
      | issued route c => simp [heldAfter, Tag.spared]; grind
      | _ => simp [heldAfter]

def present (role : Role) (m : Moment C) : List Tag :=
  match role with
  | .observer => tags m.2.observers ++ m.1.newcomer?.toList
  | .listener => tags m.2.listeners

def Event.Suits (before : List (Event C)) : Event C → Prop
  | .registered _ number _ => number = registrations before
  | .collected _ observers listeners =>
      observers = (held .observer before).map (·.1) ∧ listeners = (held .listener before).map (·.1)
  | .observed number _ _ => ∃ id, (number, id) ∈ held .observer before
  | .heard number _ _ => ∃ id, (number, id) ∈ held .listener before
  | _ => True

structure Subscribed (m : Moment C) : Prop where
  kept : ∀ role, (present role m).filter (·.spared m.2.channel) = held role m.2.journal
  registered : m.2.registered = registrations m.2.journal
  suits : Each Event.Suits m.2.journal

theorem spared_nil (entries : List Tag) : entries.filter (·.spared []) = entries := by
  simp [Tag.spared]

theorem spared_append (cs ds : List Command) (entries : List Tag) :
    (entries.filter (·.spared cs)).filter (·.spared ds) = entries.filter (·.spared (cs ++ ds)) := by
  rw [List.filter_filter]
  refine List.filter_congr fun tag _ => ?_
  simp [Tag.spared, Bool.and_comm]

theorem spared_work {c : Command} {w : Work} (asks : c.work? = some w) (entries : List Tag) :
    entries.filter (·.spared [c]) = entries := by
  cases c with
  | unsubscribe id => cases asks
  | _ => simp [Tag.spared]

theorem Subscribed.mem {m : Moment C} (before : Subscribed m) (collected : m.2.channel = [])
    (role : Role) : present role m = held role m.2.journal := by
  rw [← before.kept, collected, spared_nil]

theorem mem_tags {Interest Client : Type} {entries : List (Subscription Interest Client)} {i : Nat}
    {o : Subscription Interest Client} (at_i : entries[i]? = some o) (active : o.active = true) :
    (o.number, o.id) ∈ tags entries := by
  refine List.mem_map.2 ⟨o, List.mem_filter.2 ⟨List.mem_of_getElem? at_i, by simpa⟩, rfl⟩

theorem collects_newcomer {p : Phase C} (collects : p.Collects) : p.newcomer? = none := by
  cases p with
  | greeting | joining => cases collects
  | _ => rfl

theorem subscribed_move {m m' : Moment C} (move : Move m m') (before : Subscribed m) :
    Subscribed m' := by
  have held_here := before.mem
  obtain ⟨kept, registered, suits⟩ := before
  cases move with
  | put p s c =>
      refine ⟨fun role => ?_, ?_, each_concat.2 ⟨suits, trivial⟩⟩
      · change (present role (p, s)).filter (·.spared (s.channel ++ [c])) = _
        rw [← spared_append, kept role, Session.put, note, held_concat, heldAfter]
      · simpa [Session.put, note, Event.isRegistered] using registered
  | empty p s collects =>
      have remains (role : Role) : present role (p, s.emptied) = held role s.journal := by
        rw [← kept role]
        cases role <;>
          simp [present, emptied, tags_afterwards, collects_newcomer collects]
      refine ⟨fun role => ?_, ?_, each_concat.2 ⟨suits, ?_, ?_⟩⟩
      · rw [remains]
        simp [emptied, spared_nil, heldAfter]
      · simpa [emptied, Event.isRegistered] using registered
      · have same := remains .observer
        simp only [present, collects_newcomer collects, Option.toList_none, List.append_nil] at same
        rw [activeNumbers_eq, ← same]
        rfl
      · rw [activeNumbers_eq, ← remains .listener]
        rfl
  | observer p s i o client at_i =>
      refine ⟨fun role => ?_, registered, suits⟩
      have same := kept role
      cases role <;> simpa [present, tags_set at_i] using same
  | listener p s i l client at_i =>
      refine ⟨fun role => ?_, registered, suits⟩
      have same := kept role
      cases role <;> simpa [present, tags_set at_i] using same
  | compact s =>
      refine ⟨fun role => ?_, registered, suits⟩
      have same := kept role
      cases role <;> simpa [present, Session.compact, tags_active] using same
  | take s w later next =>
      refine ⟨fun role => ?_, ?_, each_concat.2 ⟨suits, trivial⟩⟩
      · have same := kept role
        cases role <;> cases w <;>
          simpa [present, note, heldAfter, Phase.opening, Phase.newcomer?] using same
      · simpa [note, Event.isRegistered] using registered
  | observe s a previous i o collected at_i active interested =>
      refine ⟨fun role => ?_, ?_, each_concat.2 ⟨suits, o.id, ?_⟩⟩
      · simpa [present, note, heldAfter, Phase.newcomer?] using kept role
      · simpa [note, Event.isRegistered] using registered
      · rw [← held_here collected]
        exact List.mem_append_left _ (mem_tags at_i active)
  | hear s t i l collected at_i active matching =>
      refine ⟨fun role => ?_, ?_, each_concat.2 ⟨suits, l.id, ?_⟩⟩
      · simpa [present, note, heldAfter, Phase.newcomer?] using kept role
      · simpa [note, Event.isRegistered] using registered
      · rw [← held_here collected]
        exact mem_tags at_i active
  | _ =>
      refine ⟨fun role => ?_, ?_, ?_⟩
      · simpa [present, Session.notice, note, heldAfter, Phase.newcomer?] using kept role
      · simpa [Session.notice, note, Event.isRegistered] using registered
      · first
          | exact suits
          | exact each_concat.2 ⟨suits, trivial⟩

theorem subscribed_request {m m' : Moment C} (request : Request m m') (before : Subscribed m) :
    Subscribed m' := by
  have held_here := before.mem
  obtain ⟨kept, registered, suits⟩ := before
  cases request with
  | add s m =>
      refine ⟨fun role => ?_, ?_, each_concat.2 ⟨suits, trivial⟩⟩
      · simpa [present, addMiddleware, note, heldAfter] using kept role
      · simpa [addMiddleware, note, Event.isRegistered] using registered
  | submit s c w asks =>
      refine ⟨fun role => ?_, ?_, each_concat.2 ⟨suits, trivial⟩⟩
      · rw [note, held_concat, heldAfter, spared_work asks]
        exact kept role
      · simpa [note, Event.isRegistered] using registered
  | release s id =>
      refine ⟨fun role => ?_, ?_, each_concat.2 ⟨suits, trivial⟩⟩
      · rw [released, held_concat, heldAfter, ← kept role]
        cases role <;>
          simp [present, tags_afterwards, Phase.newcomer?, List.filter_filter, Bool.and_comm]
      · simpa [released, Event.isRegistered] using registered
  | listen s id t client collected =>
      refine ⟨fun role => ?_, ?_, each_concat.2 ⟨suits, registered⟩⟩
      · have same := kept role
        cases role <;>
          simpa [present, note, heldAfter, tags_append, tags, collected, spared_nil] using same
      · simpa [note, Event.isRegistered] using registered
  | register s id collected =>
      refine ⟨fun role => ?_, ?_, each_concat.2 ⟨suits, registered⟩⟩
      · have same := kept role
        cases role <;>
          simpa [present, note, heldAfter, Phase.newcomer?, collected, spared_nil] using same
      · simpa [note, Event.isRegistered] using registered
  | greet s number id client collected =>
      refine ⟨fun role => ?_, ?_, each_concat.2 ⟨suits, id, ?_⟩⟩
      · simpa [present, note, heldAfter, Phase.newcomer?] using kept role
      · simpa [note, Event.isRegistered] using registered
      · rw [← held_here collected]
        exact List.mem_append_right _ (by simp [Phase.newcomer?])
  | join s number id interest client =>
      refine ⟨fun role => ?_, registered, suits⟩
      have same := kept role
      cases role <;> simpa [present, tags_append, tags, Phase.newcomer?] using same

theorem subscribed_ofCalls (snapshot : Snapshot) (world : C.World) (calls : List (Call C)) :
    Subscribed (.idle, ofCalls snapshot world calls) := by
  refine ofCalls_induction Subscribed ⟨fun role => ?_, rfl, each_nil _⟩ (fun _ _ => subscribed_move)
    (fun _ _ => subscribed_request) calls
  cases role <;> rfl

theorem held_sorted {journal : List (Event C)} (suits : Each Event.Suits journal) (role : Role) :
    ((held role journal).map (·.1)).Pairwise (· < ·) ∧
      ∀ tag ∈ held role journal, tag.1 < registrations journal := by
  induction journal using List.reverseRecOn with
  | nil => simp [held]
  | append_singleton journal e ih =>
      obtain ⟨earlier, last⟩ := each_concat.1 suits
      obtain ⟨sorted, below⟩ := ih earlier
      rw [held_concat, registrations_concat]
      cases e with
      | registered r number id =>
          have new : number = registrations journal := last
          by_cases same : r = role
          · rw [heldAfter, if_pos same, List.map_append, List.pairwise_append]
            refine ⟨⟨sorted, List.pairwise_singleton _ _, ?_⟩, ?_⟩
            · intro n member k final
              obtain ⟨tag, there, rfl⟩ := List.mem_map.1 member
              obtain rfl : k = number := by simpa using final
              exact new ▸ below tag there
            · intro tag member
              rcases List.mem_append.1 member with there | final
              · exact Nat.lt_succ_of_lt (below tag there)
              · obtain rfl : tag = (number, id) := by simpa using final
                exact Nat.lt_succ_of_le (Nat.le_of_eq new)
          · rw [heldAfter, if_neg same]
            exact ⟨sorted, fun tag there => Nat.lt_succ_of_lt (below tag there)⟩
      | issued route c =>
          have fewer : ((held role journal).filter (·.spared [c])).Sublist (held role journal) :=
            List.filter_sublist
          exact ⟨sorted.sublist (fewer.map _), fun tag there => below tag (fewer.subset there)⟩
      | _ => exact ⟨sorted, below⟩

end Session
end WalletLoop
