import WalletLoop.Proofs.Session.Undisturbed

namespace WalletLoop

variable {C : Clients}

def Operation.looksOn (B : Bystanders C) : Operation C → Bool
  | .subscribe _ _ client => B.quiet client
  | .subscribeTrigger _ _ client => B.hushed client
  | _ => false

def Call.planned (c : Call C) : Call C := { c with arrivals := [] }

theorem Call.planned_alone {c : Call C} (alone : c.arrivals = []) : c.planned = c := by
  rw [planned, ← alone]

theorem map_marked {α : Type*} (l : List α) (b : Bool) : (l.map (·, b)).map (·.1) = l :=
  List.map_map.trans (List.map_id l)

/-- Calls, each with whether it concerns others. What is left is done for bystanders alone. -/
abbrev Agenda (C : Clients) := List (Call C × Bool)

namespace Agenda

def calls (p : Agenda C) : List (Call C) := p.map (·.1)

def planned (p : Agenda C) : Agenda C := p.map fun x => (x.1.planned, x.2)

def roll (p : Agenda C) : List (Wish × Bool) :=
  p.filterMap fun x => x.1.operation.wish?.map (·, x.2)

theorem roll_append (p q : Agenda C) : roll (p ++ q) = roll p ++ roll q :=
  List.filterMap_append

theorem roll_cons (x : Call C × Bool) (p : Agenda C) : roll (x :: p) = roll [x] ++ roll p :=
  roll_append [x] p

theorem roll_single (c : Call C) (b : Bool) :
    roll [(c, b)] = c.operation.wish?.toList.map (·, b) := by
  cases asks : c.operation.wish? <;> simp [roll, asks]

theorem roll_marked (calls : List (Call C)) (b : Bool) :
    roll (calls.map (·, b)) = (Session.wishes calls).map (·, b) := by
  simp [roll, Session.wishes, List.filterMap_map, List.map_filterMap]

theorem calls_marked (calls : List (Call C)) (b : Bool) :
    Agenda.calls (calls.map (·, b)) = calls :=
  map_marked calls b

theorem planned_calls (p : Agenda C) : p.planned.calls = p.calls.map Call.planned := by
  simp [planned, calls]

end Agenda

def arriving (calls : List (Call C)) : List Command := calls.flatMap (·.arrivals.flatten)

theorem arriving_cons (c : Call C) (b : Bool) (p : Agenda C) :
    arriving (Agenda.calls ((c, b) :: p)) = c.arrivals.flatten ++ arriving p.calls :=
  rfl

namespace Session

section Names
variable {R front : List (Wish × Bool)} {w : Wish} {b : Bool} {n m k : Nat}

def naming (R : List (Wish × Bool)) : Naming := fun n =>
  if R[n]?.map (·.2) = some true then some ((R.take n).countP (·.2)) else none

theorem naming_eq_some :
    naming R n = some k ↔ (∃ w, R[n]? = some (w, true)) ∧ (R.take n).countP (·.2) = k := by
  simp [naming]

theorem naming_next (listed : front ++ [(w, b)] <+: R) :
    naming R front.length = if b then some (front.countP (·.2)) else none := by
  obtain ⟨rest, rfl⟩ := listed
  simp [naming]

theorem naming_front (listed : front <+: R) (inside : n < front.length) :
    naming R n = naming front n := by
  obtain ⟨rest, rfl⟩ := listed
  rw [naming, naming, List.getElem?_append_left inside,
    List.take_append_of_le_length (Nat.le_of_lt inside)]

theorem naming_lt (before : n < m) (first : naming R n = some k) : naming R m ≠ some k := by
  intro second
  obtain ⟨⟨w, at_n⟩, count⟩ := naming_eq_some.1 first
  obtain ⟨-, count'⟩ := naming_eq_some.1 second
  have one := countP_take at_n (·.2)
  have more : (R.take (n + 1)).countP (·.2) ≤ (R.take m).countP (·.2) :=
    (List.take_prefix_take_left before).sublist.countP_le
  simp only [if_true] at one
  omega

theorem naming_inj (first : naming R n = some k) (second : naming R m = some k) : n = m := by
  rcases Nat.lt_trichotomy n m with before | same | after
  · exact absurd second (naming_lt before first)
  · exact same
  · exact absurd first (naming_lt after second)

theorem naming_known {W : List Wish} (listed : W.map (·, true) <+: R) (inside : n < W.length) :
    naming R n = some n := by
  rw [naming_front listed (by simpa using inside), naming_eq_some]
  refine ⟨⟨W[n], by simp [inside]⟩, ?_⟩
  rw [← List.map_take, List.countP_map, List.countP_eq_length.2 (by simp), List.length_take]
  exact Nat.min_eq_left (Nat.le_of_lt inside)

theorem naming_block {W V : List Wish}
    (listed : W.map (·, true) ++ V.map (·, false) ++ [(w, true)] <+: R) :
    naming R m = some W.length ↔ m = W.length + V.length := by
  have here : naming R (W.length + V.length) = some W.length := by
    have next := naming_next listed
    rw [List.length_append, List.length_map, List.length_map] at next
    rw [next, if_pos rfl, List.countP_append, List.countP_map, List.countP_map,
      List.countP_eq_length.2 (by simp), List.countP_eq_zero.2 (by simp), Nat.add_zero]
  exact ⟨fun named => naming_inj named here, fun same => same ▸ here⟩

end Names

section SlipsIn
variable {B : Bystanders C} {free : SubscriberId → Prop} {name : Naming} {s : Session C} {c : Call C}

structure SlipsIn (B : Bystanders C) (free : SubscriberId → Prop) (s : Session C) (c : Call C) :
    Prop where
  channel : s.channel = []
  pending : s.pending = []
  alone : c.arrivals = []
  apart : c.operation.looksOn B = true ∨ ∃ id, free id ∧ c.operation = .unsubscribe id

theorem story_course (events : List (Event C)) :
    story B name (course events) = story B name events := by
  rw [story, course, List.filterMap_filter]
  refine List.filterMap_congr fun e _ => ?_
  cases e <;> rfl

theorem matched_spared {Interest Client : Type} {quiet : Client → Bool}
    {entries : List (Subscription Interest Client)} {id : SubscriberId}
    (seated : Seated name quiet entries) (active : ∀ o ∈ entries, o.active = true)
    (others : ∀ v ∈ parts name quiet entries, v.id ≠ id) :
    Matched name name quiet entries
      ((entries.map (·.afterwards [.unsubscribe id])).filter (·.active)) := by
  refine ⟨?_, seated, fun o member => ?_⟩
  · have spared : (parts name quiet entries).map (·.afterwards [.unsubscribe id]) =
        parts name quiet entries := by
      refine Eq.trans (List.map_congr_left fun v member => ?_) (List.map_id _)
      exact if_neg (by simpa using others v member)
    rw [parts_active, parts_afterwards, spared, List.filter_eq_self.2]
    intro v member
    obtain ⟨o, there, seen⟩ := List.mem_filterMap.1 member
    rw [part?_active seen]
    exact active o there
  · exact seated_afterwards.2 seated o (List.mem_of_mem_filter member)

theorem Resting.guest (rests : Resting s) (alone : s.arrivals = [])
    (seated : Seated name B.quiet s.observers) (seated' : Seated name B.hushed s.listeners)
    (bound : Nat) (id : SubscriberId) (interest : Selector) {client : C.Observer}
    (quiet : B.quiet client = true) (nameless : name s.registered = none) :
    Level B name name s (s.subscribe bound id interest client) := by
  obtain ⟨silent, still, world⟩ := B.looksOn quiet s.snapshot s.world
  obtain ⟨-, events, looks, same⟩ := rests.subscribe alone bound id interest silent
  have unseen : Session.story B name events = [] := by
    rw [← story_course, looks]
    simp [story, Event.glimpse?, nameless]
  have joined := (Level.refl seated seated').written events unseen
  rw [same]
  exact { joined with
    world := world.symm
    observers := .joined seated nameless still }

theorem Resting.guestTrigger (rests : Resting s) (alone : s.arrivals = [])
    (seated : Seated name B.quiet s.observers) (seated' : Seated name B.hushed s.listeners)
    (id : SubscriberId) (t : Trigger) {client : C.Listener} (hushed : B.hushed client = true)
    (nameless : name s.registered = none) :
    Level B name name s (s.subscribeTrigger id t client) := by
  obtain ⟨events, looks, same⟩ := rests.subscribeTrigger alone id t client
  have unseen : Session.story B name events = [] := by
    rw [← story_course, looks]
    rfl
  have joined := (Level.refl seated seated').written events unseen
  rw [same]
  exact { joined with listeners := .joined seated' nameless hushed }

theorem Active.leave (active : Active s) (seated : Seated name B.quiet s.observers)
    (seated' : Seated name B.hushed s.listeners) {id : SubscriberId}
    (observers : ∀ v ∈ parts name B.quiet s.observers, v.id ≠ id)
    (listeners : ∀ v ∈ parts name B.hushed s.listeners, v.id ≠ id) :
    Level B name name s (s.unsubscribe id) := by
  obtain ⟨ns, marked⟩ := deactivate_eq (s.note (.issued .direct (.unsubscribe id))) id
  have noted := (Level.refl seated seated').written [.issued .direct (.unsubscribe id)] rfl
  have said := noted.written (ns.map .noticed) (story_notices ns)
  rw [unsubscribe, marked]
  exact { said with
    observers := matched_spared seated active.1 observers
    listeners := matched_spared seated' active.2 listeners }

theorem SlipsIn.level (slips : SlipsIn B free s c) (active : Active s)
    (seated : Seated name B.quiet s.observers) (seated' : Seated name B.hushed s.listeners)
    (nameless : c.operation.wish?.isSome → name s.registered = none)
    (observers : ∀ v ∈ parts name B.quiet s.observers, ¬free v.id)
    (listeners : ∀ v ∈ parts name B.hushed s.listeners, ¬free v.id) :
    Level B name name s (s.serve c) := by
  obtain ⟨channel, pending, alone, apart⟩ := slips
  obtain ⟨o, bound, arrivals⟩ := c
  obtain rfl : arrivals = [] := alone
  let ready : Session C := { s with arrivals := [] }
  have rests : Resting ready := ⟨channel, pending, active.1, active.2⟩
  have level : Level B name name s ready := { Level.refl seated seated' with }
  refine level.trans ?_
  cases o with
  | subscribe id interest client =>
      have quiet : B.quiet client = true := by simpa [Operation.looksOn] using apart
      exact rests.guest rfl seated seated' bound id interest quiet (nameless rfl)
  | subscribeTrigger id t client =>
      have hushed : B.hushed client = true := by simpa [Operation.looksOn] using apart
      exact rests.guestTrigger rfl seated seated' id t hushed (nameless rfl)
  | unsubscribe id =>
      have unused : free id := by simpa [Operation.looksOn] using apart
      have still : Active ready := active
      exact still.leave seated seated' (fun v member same => observers v member (same ▸ unused))
        fun v member same => listeners v member (same ▸ unused)
  | _ => simp [Operation.looksOn] at apart

end SlipsIn

section Apace
variable {B : Bystanders C} {free : SubscriberId → Prop} {R R' front front' : List (Wish × Bool)}
  {start : Snapshot} {s r : Session C} {c : Call C} {p q : Agenda C}

structure Apace (B : Bystanders C) (R R' : List (Wish × Bool)) (start : Snapshot)
    (front front' : List (Wish × Bool)) (s r : Session C) : Prop where
  passing : Passing (R.map (·.1)) start (.idle, s)
  registered : s.registered = front.length
  registered' : r.registered = front'.length
  named : front.countP (·.2) = front'.countP (·.2)
  active : Active s
  active' : Active r
  level : Level B (naming R) (naming R') s r

theorem active_serve (active : Active s) (c : Call C) : Active (s.serve c) :=
  active_serves [c] active

theorem serve_registered (count : s.registered = front.length) (c : Call C) (b : Bool) :
    (s.serve c).registered = (front ++ Agenda.roll [(c, b)]).length := by
  have more := operate_registered c.bound { s with arrivals := c.arrivals } c.operation
  rw [List.length_append, ← count, Agenda.roll_single, List.length_map]
  exact more

theorem named_next {b : Bool} (listed : front ++ Agenda.roll [(c, b)] <+: R)
    (asks : c.operation.wish?.isSome) :
    naming R front.length = if b then some (front.countP (·.2)) else none := by
  obtain ⟨w, asks⟩ := Option.isSome_iff_exists.1 asks
  rw [Agenda.roll_single, asks] at listed
  exact naming_next listed

theorem Passing.next {b : Bool} (passing : Passing (R.map (·.1)) start (.idle, s))
    (count : s.registered = front.length) (listed : front ++ Agenda.roll [(c, b)] <+: R) :
    Passing (R.map (·.1)) start (.idle, s.serve c) := by
  have wish := listed.map (·.1)
  rw [List.map_append, Agenda.roll_single, map_marked] at wish
  exact passing_serve wish (by rw [count, List.length_map]) passing

theorem parts_others {Interest Client : Type} {quiet : Client → Bool}
    {entries : List (Subscription Interest Client)} {wish : Interest → Selector ⊕ Trigger}
    (others : ∀ x ∈ R, x.2 = true → ¬free x.1.1)
    (wishes : ∀ o ∈ entries, (R.map (·.1))[o.number]? = some (o.id, wish o.interest)) :
    ∀ v ∈ parts (naming R) quiet entries, ¬free v.id := by
  intro v member
  obtain ⟨o, there, seen⟩ := List.mem_filterMap.1 member
  obtain ⟨k, named, rfl⟩ := Option.map_eq_some_iff.1 seen
  obtain ⟨⟨w, listed⟩, -⟩ := naming_eq_some.1 named
  have same := wishes o there
  rw [List.getElem?_map, listed] at same
  obtain rfl : w = (o.id, wish o.interest) := by simpa using same
  exact others _ (List.mem_of_getElem? listed) rfl

theorem Apace.shared (apace : Apace B R R' start front front' s r)
    (left : front ++ Agenda.roll [(c, true)] <+: R)
    (right : front' ++ Agenda.roll [(c, true)] <+: R') :
    ∃ arrivals : List (List Command), arrivals.flatten <+: c.arrivals.flatten ∧
      (arrivals.flatten = [] → arrivals = []) ∧
      Apace B R R' start (front ++ Agenda.roll [(c, true)]) (front' ++ Agenda.roll [(c, true)])
        (s.serve c) (r.serve { c with arrivals := arrivals }) := by
  obtain ⟨passing, registered, registered', named, active, active', level⟩ := apace
  have new (asks : c.operation.wish?.isSome) : (naming R s.registered).isSome ∧
      naming R s.registered = naming R' r.registered := by
    rw [registered, registered', named_next left asks, named_next right asks, named]
    simp
  obtain ⟨arrivals, fewer, none, served⟩ := level.serve c new
  refine ⟨arrivals, fewer, none, passing.next registered left, serve_registered registered c true,
    serve_registered registered' { c with arrivals := arrivals } true, ?_, active_serve active c,
    active_serve active' _, served⟩
  rw [List.countP_append, List.countP_append, named]

theorem Apace.here (apace : Apace B R R' start front front' s r) (slips : SlipsIn B free s c)
    (others : ∀ x ∈ R, x.2 = true → ¬free x.1.1)
    (left : front ++ Agenda.roll [(c, false)] <+: R) :
    Apace B R R' start (front ++ Agenda.roll [(c, false)]) front' (s.serve c) r := by
  obtain ⟨passing, registered, registered', named, active, active', level⟩ := apace
  have slipped : Level B (naming R) (naming R) s (s.serve c) :=
    slips.level active level.observers.left level.listeners.left
      (fun asks => by simp [registered, named_next left asks])
      (parts_others others passing.wishing.observers)
      (parts_others others passing.wishing.listeners)
  refine ⟨passing.next registered left, serve_registered registered c false, registered', ?_,
    active_serve active c, active', slipped.symm.trans level⟩
  rw [List.countP_append, ← named, Agenda.roll_single, List.countP_map]
  simp

theorem Apace.there (apace : Apace B R R' start front front' s r) (slips : SlipsIn B free s c)
    (others : ∀ x ∈ R, x.2 = true → ¬free x.1.1)
    (right : front' ++ Agenda.roll [(c, false)] <+: R') :
    Apace B R R' start front (front' ++ Agenda.roll [(c, false)]) s (r.serve c) := by
  obtain ⟨passing, registered, registered', named, active, active', level⟩ := apace
  have slips' : SlipsIn B free r c := by
    obtain ⟨channel, pending, alone, apart⟩ := slips
    exact ⟨level.channel ▸ channel, level.pending ▸ pending, alone, apart⟩
  have slipped : Level B (naming R') (naming R') r (r.serve c) :=
    slips'.level active' level.observers.right level.listeners.right
      (fun asks => by simp [registered', named_next right asks])
      (level.observers.parts ▸ parts_others others passing.wishing.observers)
      (level.listeners.parts ▸ parts_others others passing.wishing.listeners)
  refine ⟨passing, registered, serve_registered registered' c false, ?_, active,
    active_serve active' c, level.trans slipped⟩
  rw [List.countP_append, named, Agenda.roll_single, List.countP_map]
  simp

/-- Two agendas for stores that are at the same point. They differ in what is done for bystanders
alone. The first one is carried out, and it is left open what is going to arrive at a store that
carries out the second one. -/
inductive Weave (B : Bystanders C) (free : SubscriberId → Prop) :
    Session C → Agenda C → Agenda C → Prop
  | ended (s : Session C) : Weave B free s [] []
  | shared {s : Session C} {c : Call C} {p q : Agenda C}
      (others : ∀ w, c.operation.wish? = some w → ¬free w.1)
      (later : Weave B free (s.serve c) p q) :
      Weave B free s ((c, true) :: p) ((c.planned, true) :: q)
  | here {s : Session C} {c : Call C} {p q : Agenda C} (slips : SlipsIn B free s c)
      (later : Weave B free (s.serve c) p q) : Weave B free s ((c, false) :: p) q
  | there {s : Session C} {c : Call C} {p q : Agenda C} (slips : SlipsIn B free s c)
      (later : Weave B free s p q) : Weave B free s p ((c, false) :: q)

theorem Weave.others (weave : Weave B free s p q) : ∀ x ∈ p.roll, x.2 = true → ¬free x.1.1 := by
  have new {c : Call C} {b : Bool} {p : Agenda C}
      (first : b = true → ∀ w, c.operation.wish? = some w → ¬free w.1)
      (later : ∀ x ∈ p.roll, x.2 = true → ¬free x.1.1) :
      ∀ x ∈ Agenda.roll ((c, b) :: p), x.2 = true → ¬free x.1.1 := by
    intro x member shared
    rw [Agenda.roll_cons, Agenda.roll_single] at member
    rcases List.mem_append.1 member with here | after
    · obtain ⟨w, asks, rfl⟩ := List.mem_map.1 here
      exact first shared w (Option.mem_toList.1 asks)
    · exact later x after shared
  induction weave with
  | ended s => simp [Agenda.roll]
  | shared others later ih => exact new (fun _ => others) ih
  | here slips later ih => exact new (fun shared => by cases shared) ih
  | there slips later ih => exact ih

theorem Weave.apace (weave : Weave B free s p q) (others : ∀ x ∈ R, x.2 = true → ¬free x.1.1)
    (apace : Apace B R R' start front front' s r) (left : front ++ p.roll <+: R)
    (right : front' ++ q.roll <+: R') :
    ∃ q' : Agenda C, q'.planned = q ∧ (arriving q'.calls).Sublist (arriving p.calls) ∧
      (arriving p.calls = [] → q' = q) ∧
      Apace B R R' start (front ++ p.roll) (front' ++ q.roll) (p.calls.foldl serve s)
        (q'.calls.foldl serve r) := by
  have first {front R : List (Wish × Bool)} {x : Call C × Bool} {p : Agenda C}
      (listed : front ++ Agenda.roll (x :: p) <+: R) :
      front ++ Agenda.roll [x] <+: R ∧ front ++ Agenda.roll [x] ++ p.roll <+: R := by
    rw [Agenda.roll_cons, ← List.append_assoc] at listed
    exact ⟨(List.prefix_append _ _).trans listed, listed⟩
  induction weave generalizing front front' r with
  | ended s => exact ⟨[], rfl, .slnil, fun _ => rfl, by simpa [Agenda.roll, Agenda.calls] using apace⟩
  | @shared s c p q others' later ih =>
      obtain ⟨arrivals, fewer, none, apace⟩ := apace.shared (first left).1 (first right).1
      obtain ⟨q', same, sublist, undelayed, apace⟩ := ih apace (first left).2 (first right).2
      refine ⟨({ c with arrivals := arrivals }, true) :: q', congrArg _ same,
        fewer.sublist.append sublist, fun alone => ?_, ?_⟩
      · rw [arriving_cons, List.append_eq_nil_iff] at alone
        rw [alone.1] at fewer
        rw [none (List.prefix_nil.1 fewer), undelayed alone.2, Call.planned]
      · rw [Agenda.roll_cons, Agenda.roll_cons (c.planned, true), ← List.append_assoc,
          ← List.append_assoc]
        exact apace
  | @here s c p q slips later ih =>
      obtain ⟨q', same, sublist, undelayed, apace⟩ :=
        ih (apace.here slips others (first left).1) (first left).2 right
      refine ⟨q', same, sublist.trans (List.sublist_append_right _ _), fun alone => ?_, ?_⟩
      · rw [arriving_cons, List.append_eq_nil_iff] at alone
        exact undelayed alone.2
      · rw [Agenda.roll_cons, ← List.append_assoc]
        exact apace
  | @there s c p q slips later ih =>
      obtain ⟨q', same, sublist, undelayed, apace⟩ :=
        ih (apace.there slips others (first right).1) left (first right).2
      have still : c.planned = c := Call.planned_alone slips.alone
      refine ⟨(c, false) :: q', ?_, ?_, fun alone => congrArg _ (undelayed alone), ?_⟩
      · rw [← same, Agenda.planned, List.map_cons, still]
        rfl
      · rwa [arriving_cons, slips.alone, List.flatten_nil, List.nil_append]
      · rw [Agenda.roll_cons, ← List.append_assoc]
        exact apace

end Apace

section Order
variable {B : Bystanders C} {free : SubscriberId → Prop} {name name' : Naming} {s : Session C}
  {c : Call C} {p q : Agenda C} {block : List (Call C)}

theorem matched_known {Interest Client : Type} {quiet : Client → Bool}
    {entries : List (Subscription Interest Client)}
    (known : ∀ o ∈ entries, (name o.number).isSome ∧ name o.number = name' o.number) :
    Matched name name' quiet entries entries := by
  refine ⟨List.filterMap_congr fun o member => ?_, fun o member nameless => ?_,
    fun o member nameless => ?_⟩
  · rw [Subscription.part?, (known o member).2, Subscription.part?]
  · simpa [nameless] using (known o member).1
  · simpa [(known o member).2, nameless] using (known o member).1

theorem story_known (subscribed : Subscribed (.idle, s))
    (known : ∀ n < s.registered, name n = name' n) :
    story B name s.journal = story B name' s.journal := by
  refine List.filterMap_congr fun e member => ?_
  obtain ⟨before, after, parts⟩ := List.append_of_mem member
  -- whoever is called subscribed before
  have same {role : Role} {number : Nat} {id : SubscriberId}
      (tag : (number, id) ∈ held role before) : name number = name' number := by
    have below := (held_sorted (subscribed.suits.front parts) role).2 _ tag
    have all : registrations s.journal = s.registered := subscribed.registered.symm
    rw [parts, registrations, List.countP_append] at all
    exact known number (Nat.lt_of_lt_of_le below (all ▸ Nat.le_add_right _ _))
  have suits := subscribed.suits before e after parts
  cases e with
  | observed number o x =>
      obtain ⟨id, tag⟩ := suits
      simp only [Event.glimpse?, same tag]
  | heard number l t =>
      obtain ⟨id, tag⟩ := suits
      simp only [Event.glimpse?, same tag]
  | _ => rfl

theorem Level.known {W : List Wish} (subscribed : Subscribed (.idle, s)) (wishing : Wishing W s)
    (count : W.length = s.registered)
    (known : ∀ n < s.registered, (name n).isSome ∧ name n = name' n) : Level B name name' s s := by
  have inside {n : Nat} {w : Wish} (wish : W[n]? = some w) : n < s.registered :=
    count ▸ (List.getElem?_eq_some_iff.1 wish).1
  exact ⟨rfl, rfl, rfl, rfl, rfl,
    matched_known fun o member => known o.number (inside (wishing.observers o member)),
    matched_known fun l member => known l.number (inside (wishing.listeners l member)),
    story_known subscribed fun n before => (known n before).2⟩

def LooksOn (B : Bystanders C) (c : Call C) : Prop :=
  c.operation.looksOn B = true ∧ c.arrivals = []

theorem Resting.looksOn (rests : Resting s) (looks : LooksOn B c) : Resting (s.serve c) := by
  obtain ⟨o, bound, arrivals⟩ := c
  obtain ⟨apart, rfl⟩ : o.looksOn B = true ∧ arrivals = [] := looks
  have ready : Resting { s with arrivals := [] } := ⟨rests.1, rests.2, rests.3, rests.4⟩
  cases o with
  | subscribe id interest client =>
      have silent := (B.looksOn apart s.snapshot s.world).1
      obtain ⟨joined, events, -, same⟩ := ready.subscribe rfl bound id interest silent
      change Resting (Session.subscribe bound id interest client _)
      rw [same]
      exact joined.written _
  | subscribeTrigger id t client =>
      obtain ⟨events, -, same⟩ := ready.subscribeTrigger rfl id t client
      change Resting (Session.subscribeTrigger id t client _)
      rw [same]
      refine ⟨rests.channel, rests.pending, rests.observers, fun l member => ?_⟩
      rcases List.mem_append.1 member with earlier | new
      · exact rests.listeners l earlier
      · rw [List.mem_singleton.1 new]
  | _ => simp [Operation.looksOn] at apart

theorem Resting.look (rests : Resting s) (looks : ∀ c ∈ block, LooksOn B c) :
    Resting (block.foldl serve s) := by
  induction block generalizing s with
  | nil => exact rests
  | cons c block ih =>
      exact ih (rests.looksOn (looks c (by simp))) fun c member => looks c (by simp [member])

theorem LooksOn.slipsIn (looks : LooksOn B c) (rests : Resting s) : SlipsIn B free s c :=
  ⟨rests.channel, rests.pending, looks.2, .inl looks.1⟩

theorem Weave.heres (rests : Resting s) (looks : ∀ c ∈ block, LooksOn B c)
    (later : Weave B free (block.foldl serve s) p q) :
    Weave B free s (block.map (·, false) ++ p) q := by
  induction block generalizing s with
  | nil => exact later
  | cons c block ih =>
      have first := looks c (by simp)
      exact .here (first.slipsIn rests)
        (ih (rests.looksOn first) (fun c member => looks c (by simp [member])) later)

theorem Weave.theres (rests : Resting s) (looks : ∀ c ∈ block, LooksOn B c)
    (later : Weave B free s p q) : Weave B free s p (block.map (·, false) ++ q) := by
  induction block with
  | nil => exact later
  | cons c block ih =>
      exact .there ((looks c (by simp)).slipsIn rests)
        (ih fun c member => looks c (by simp [member]))

theorem Weave.all (s : Session C) (calls : List (Call C)) :
    Weave B (fun _ => False) s (calls.map (·, true)) ((calls.map Call.planned).map (·, true)) := by
  induction calls generalizing s with
  | nil => exact .ended s
  | cons c calls ih => exact .shared (fun _ _ => id) (ih (s.serve c))

def signals (number : Nat) (events : List (Event C)) : List Trigger :=
  events.filterMap fun
    | .heard n _ t => if n = number then some t else none
    | _ => none

theorem told_name {α : Type} {k number : Nat} (only : ∀ m, name m = some k ↔ m = number) (n : Nat)
    {x : α} {glimpse : Nat → Glimpse C} {told : Glimpse C → Option α}
    (tells : ∀ j, told (glimpse j) = if j = k then some x else none) :
    (if n = number then some x else none) = ((name n).map glimpse).bind told := by
  have mine := only n
  cases named : name n with
  | none =>
      have other : n ≠ number := fun same => by simp [named] at mine; exact mine same
      simp [other]
  | some j =>
      rw [named, Option.some_inj] at mine
      simp [tells, mine]

theorem story_seen {k number : Nat} (only : ∀ m, name m = some k ↔ m = number)
    (journal : List (Event C)) :
    seen number journal = (story B name journal).filterMap fun
      | .observed j _ s => if j = k then some s else none
      | _ => none := by
  rw [story, List.filterMap_filterMap]
  refine List.filterMap_congr fun e _ => ?_
  cases e with
  | observed n o s => exact told_name only n fun j => rfl
  | heard n l t => cases named : name n <;> simp [Event.glimpse?, named]
  | _ => rfl

theorem story_signals {k number : Nat} (only : ∀ m, name m = some k ↔ m = number)
    (journal : List (Event C)) :
    signals number journal = (story B name journal).filterMap fun
      | .heard j _ t => if j = k then some t else none
      | _ => none := by
  rw [story, List.filterMap_filterMap]
  refine List.filterMap_congr fun e _ => ?_
  cases e with
  | observed n o s => cases named : name n <;> simp [Event.glimpse?, named]
  | heard n l t => exact told_name only n fun j => rfl
  | _ => rfl

theorem story_applied (journal : List (Event C)) :
    applied journal = (story B name journal).filterMap fun
      | .applied a => some a
      | _ => none := by
  rw [story, List.filterMap_filterMap]
  refine List.filterMap_congr fun e _ => ?_
  cases e with
  | observed n o s => cases named : name n <;> simp [Event.glimpse?, named]
  | heard n l t => cases named : name n <;> simp [Event.glimpse?, named]
  | _ => rfl

theorem Level.applied {s' : Session C} (level : Level B name name' s s') :
    applied s.journal = Session.applied s'.journal := by
  have same := level.story
  rw [story_applied, same, ← story_applied]

theorem registered_ofCalls (snapshot : Snapshot) (world : C.World) (calls : List (Call C)) :
    (ofCalls snapshot world calls).registered = (wishes calls).length := by
  induction calls using List.reverseRecOn with
  | nil => rfl
  | append_singleton calls c ih =>
      rw [ofCalls_concat]
      refine (operate_registered c.bound _ c.operation).trans ?_
      change (ofCalls snapshot world calls).registered + _ = _
      rw [ih]
      cases asks : c.operation.wish? <;> simp [wishes, asks]

theorem Apace.same {R R' : List (Wish × Bool)} (snapshot : Snapshot) (world : C.World)
    (calls : List (Call C)) (left : (wishes calls).map (·, true) <+: R)
    (right : (wishes calls).map (·, true) <+: R') :
    let known := (wishes calls).map (·, true)
    Apace B R R' snapshot known known (ofCalls snapshot world calls)
      (ofCalls snapshot world calls) := by
  intro known
  have passing {W : List Wish} (listed : [] ++ wishes calls <+: W) :
      Passing W snapshot (.idle, ofCalls snapshot world calls) :=
    passing_serves listed rfl (passing_new snapshot world)
  have count := registered_ofCalls snapshot world calls
  have count' : (ofCalls snapshot world calls).registered = known.length := by
    rw [count, List.length_map]
  have level : Level B (naming R) (naming R') (ofCalls snapshot world calls)
      (ofCalls snapshot world calls) := by
    refine .known (subscribed_ofCalls snapshot world calls) (passing (List.prefix_refl _)).wishing
      count.symm fun n inside => ?_
    rw [count] at inside
    rw [naming_known left inside, naming_known right inside]
    exact ⟨rfl, rfl⟩
  refine ⟨passing ?_, count', count', rfl, active_ofCalls _ _ _, active_ofCalls _ _ _, level⟩
  have listed := left.map (·.1)
  rwa [map_marked] at listed

theorem LooksOn.wish (looks : LooksOn B c) : ∃ w, c.operation.wish? = some w := by
  have apart := looks.1
  cases asks : c.operation with
  | subscribe id interest client => exact ⟨(id, .inl interest), rfl⟩
  | subscribeTrigger id t client => exact ⟨(id, .inr t), rfl⟩
  | _ => simp [asks, Operation.looksOn] at apart

theorem wishes_planned (calls : List (Call C)) : wishes (calls.map Call.planned) = wishes calls := by
  rw [wishes, List.filterMap_map]
  rfl

theorem wishes_looks (looks : ∀ c ∈ block, LooksOn B c) : (wishes block).length = block.length := by
  rw [wishes, List.length_filterMap_eq_countP, List.countP_eq_length]
  intro c member
  obtain ⟨w, asks⟩ := (looks c member).wish
  simp [asks]

theorem arriving_looks (looks : ∀ c ∈ block, LooksOn B c) : arriving block = [] := by
  refine List.flatMap_eq_nil_iff.2 fun c member => ?_
  rw [(looks c member).2, List.flatten_nil]

def amid (front : List (Call C)) (c : Call C) (rest : List (Call C)) : Agenda C :=
  front.map (·, false) ++ (c, true) :: rest.map (·, false)

theorem amid_calls (front : List (Call C)) (c : Call C) (rest : List (Call C)) :
    (amid front c rest).calls = front ++ c :: rest := by
  rw [amid, Agenda.calls, List.map_append, ← Agenda.calls, Agenda.calls_marked, List.map_cons,
    ← Agenda.calls, Agenda.calls_marked]

theorem roll_amid (front : List (Call C)) {w : Wish} (asks : c.operation.wish? = some w)
    (rest : List (Call C)) : (amid front c rest).roll =
      (wishes front).map (·, false) ++ [(w, true)] ++ (wishes rest).map (·, false) := by
  rw [amid, Agenda.roll_append, Agenda.roll_cons, Agenda.roll_single, asks, Agenda.roll_marked,
    Agenda.roll_marked, List.append_assoc]
  rfl

theorem naming_amid {W : List Wish} {front rest : List (Call C)} {R : List (Wish × Bool)}
    (looks : ∀ d ∈ front ++ c :: rest, LooksOn B d)
    (listed : W.map (·, true) ++ (amid front c rest).roll <+: R) (m : Nat) :
    naming R m = some W.length ↔ m = W.length + front.length := by
  rw [List.forall_mem_append, List.forall_mem_cons] at looks
  obtain ⟨ahead, here, -⟩ := looks
  obtain ⟨w, asks⟩ := here.wish
  rw [roll_amid front asks, ← List.append_assoc, ← List.append_assoc] at listed
  rw [naming_block ((List.prefix_append _ _).trans listed), wishes_looks ahead]

theorem Weave.amid {front rest front' rest' : List (Call C)} (rests : Resting s)
    (looks : ∀ d ∈ front ++ c :: rest, LooksOn B d)
    (looks' : ∀ d ∈ front' ++ c :: rest', LooksOn B d) :
    Weave B (fun _ => False) s (Session.amid front c rest) (Session.amid front' c rest') := by
  rw [List.forall_mem_append, List.forall_mem_cons] at looks looks'
  obtain ⟨ahead, here, behind⟩ := looks
  obtain ⟨ahead', -, behind'⟩ := looks'
  have ready := rests.look ahead
  have joined := ready.looksOn here
  have last : Weave B (fun _ => False) (rest.foldl serve _) [] (rest'.map (·, false) ++ []) :=
    .theres (joined.look behind) behind' (.ended _)
  have later := last.heres joined behind
  rw [List.append_nil, List.append_nil] at later
  have shared := Weave.shared (fun _ _ => id) later
  rw [Call.planned_alone here.2] at shared
  exact .heres rests ahead (.theres ready ahead' shared)

theorem known_alone {snapshot : Snapshot} {world : C.World}
    {before front rest front' rest' : List (Call C)} (after : List (Call C))
    (rests : Resting (ofCalls snapshot world before)) (looks : ∀ d ∈ front ++ c :: rest, LooksOn B d)
    (looks' : ∀ d ∈ front' ++ c :: rest', LooksOn B d) :
    let n := (wishes before).length
    ∃ (after' : List (Call C)) (name name' : Naming),
      after'.map Call.planned = after.map Call.planned ∧
      (arriving after').Sublist (arriving after) ∧
      (arriving after = [] → after' = after.map Call.planned) ∧
      (∀ m, name m = some n ↔ m = n + front.length) ∧
      (∀ m, name' m = some n ↔ m = n + front'.length) ∧
      Level B name name' (ofCalls snapshot world (before ++ (front ++ c :: rest) ++ after))
        (ofCalls snapshot world (before ++ (front' ++ c :: rest') ++ after')) := by
  intro n
  let known := (wishes before).map (·, true)
  let everyone (front rest : List (Call C)) : List (Wish × Bool) :=
    known ++ (amid front c rest).roll ++ (wishes after).map (·, true)
  have listed (front rest : List (Call C)) :
      known ++ (amid front c rest).roll <+: everyone front rest :=
    List.prefix_append _ _
  have acquainted (front rest : List (Call C)) : known <+: everyone front rest :=
    (List.prefix_append _ _).trans (listed front rest)
  -- while they subscribe nothing arrives, so the second store does what it is planned to do
  obtain ⟨q, -, -, undelayed, middle⟩ := (Weave.amid rests looks looks').apace (fun _ _ _ => id)
    (.same snapshot world before (acquainted front rest) (acquainted front' rest'))
    (listed front rest) (listed front' rest')
  rw [amid_calls, arriving_looks looks] at undelayed
  obtain rfl := undelayed rfl
  rw [amid_calls, amid_calls] at middle
  have left : known ++ (amid front c rest).roll ++ Agenda.roll (after.map (·, true)) <+:
      everyone front rest := by
    rw [Agenda.roll_marked]
  have right : known ++ (amid front' c rest').roll ++
      Agenda.roll ((after.map Call.planned).map (·, true)) <+: everyone front' rest' := by
    rw [Agenda.roll_marked, wishes_planned]
  obtain ⟨q, planned, sublist, undelayed, ended⟩ :=
    (Weave.all _ after).apace (fun _ _ _ => id) middle left right
  rw [Agenda.calls_marked] at sublist undelayed ended
  refine ⟨q.calls, naming (everyone front rest), naming (everyone front' rest'), ?_, sublist,
    fun alone => ?_, naming_amid looks (listed front rest),
    naming_amid looks' (listed front' rest'), ?_⟩
  · rw [← Agenda.planned_calls, planned, Agenda.calls_marked]
  · rw [undelayed alone, Agenda.calls_marked]
  · simpa [ofCalls] using ended.level

end Order

/-- Observers and listeners that only look on do not disturb the others. While nothing is queued they
may subscribe, under any id, and unsubscribe under an id of their own. Whether they do or not, the
store has the same snapshots, and the middleware and all other clients are called in the same order
with the same arguments. The store looks into its channel at the turn of a bystander, too, and may
find there what it would otherwise find at its next look; every run with bystanders is matched by one
without in which that happens, and the other way round. If other threads send nothing, there is only
one run of either kind.

Bystanders that subscribe one right after the other may do so in any order: the snapshots are the
same, and so is what each of them is told. -/
theorem bystanders_unnoticed (B : Bystanders C) (snapshot : Snapshot) (world : C.World) :
    (∀ {free : SubscriberId → Prop} {p q : Agenda C},
      Weave B free (start (.new C snapshot) world) p q →
      ∃ q' : Agenda C, q'.planned = q ∧ (arriving q'.calls).Sublist (arriving p.calls) ∧
        (arriving p.calls = [] → q' = q) ∧
        let s := ofCalls snapshot world p.calls
        let s' := ofCalls snapshot world q'.calls
        applied s.journal = applied s'.journal ∧ Level B (naming p.roll) (naming q.roll) s s') ∧
    ∀ {before block block' : List (Call C)} (after : List (Call C)) {i j : Nat} {c : Call C},
      let n := (wishes before).length
      (ofCalls snapshot world before).channel = [] → (ofCalls snapshot world before).pending = [] →
      (∀ d ∈ block, LooksOn B d) → block.Perm block' → block[i]? = some c → block'[j]? = some c →
      ∃ after' : List (Call C), after'.map Call.planned = after.map Call.planned ∧
        (arriving after').Sublist (arriving after) ∧
        (arriving after = [] → after' = after.map Call.planned) ∧
        let s := ofCalls snapshot world (before ++ block ++ after)
        let s' := ofCalls snapshot world (before ++ block' ++ after')
        s.snapshot = s'.snapshot ∧ applied s.journal = applied s'.journal ∧
          seen (n + i) s.journal = seen (n + j) s'.journal ∧
          signals (n + i) s.journal = signals (n + j) s'.journal := by
  constructor
  · intro free p q weave
    have new : Apace B p.roll q.roll snapshot [] [] (start (.new C snapshot) world)
        (start (.new C snapshot) world) :=
      .same snapshot world [] List.nil_prefix List.nil_prefix
    obtain ⟨q', planned, sublist, undelayed, ended⟩ :=
      weave.apace weave.others new (List.prefix_refl _) (List.prefix_refl _)
    exact ⟨q', planned, sublist, undelayed, ended.level.applied, ended.level⟩
  · intro before block block' after i j c n channel pending looks perm at_i at_j
    have active := active_ofCalls snapshot world before
    have rests : Resting (ofCalls snapshot world before) :=
      ⟨channel, pending, active.1, active.2⟩
    have looks' (d : Call C) (member : d ∈ block') : LooksOn B d := looks d (perm.mem_iff.2 member)
    have inside {block : List (Call C)} {i : Nat} (at_i : block[i]? = some c) :
        (block.take i).length = i :=
      List.length_take_of_le (Nat.le_of_lt (List.getElem?_eq_some_iff.1 at_i).1)
    have whole := split_at at_i
    have whole' := split_at at_j
    obtain ⟨after', name, name', planned, sublist, undelayed, known, known', level⟩ :=
      known_alone after rests (whole ▸ looks) (whole' ▸ looks')
    rw [← whole, ← whole'] at level
    rw [inside at_i] at known
    rw [inside at_j] at known'
    refine ⟨after', planned, sublist, undelayed, level.snapshot, level.applied, ?_, ?_⟩
    · rw [story_seen known, story_seen known', level.story]
    · rw [story_signals known, story_signals known', level.story]

def household : Clients where
  World := Nat × Nat
  Middleware := Empty
  Observer := List Command
  Listener := Unit
  consult m := m.elim
  observe o s w :=
    ⟨o, if o.isEmpty then (w.1, w.2 + 1) else (w.1 + 1, w.2), if s.pinLength == 4 then o else [], []⟩
  hear l _ w := ⟨l, (w.1, w.2 + 1), [], []⟩

def guests : Bystanders household where
  Own := Nat
  own w := w.1
  quiet o := List.isEmpty o
  hushed _ := true
  consult m := m.elim
  observe := by
    intro o host s w w' same
    exact ⟨rfl, by simp [household, host, same], rfl⟩
  hear := by simp
  looksOn := by
    intro o quiet s w
    obtain rfl : o = [] := List.isEmpty_iff.1 quiet
    simp [household]
  listensIn := by simp [household]

def hostJoins : Call household :=
  ⟨.subscribe ⟨"host"⟩ (fun _ _ => true) ([.dispatch (.settings (.setPinLength 8))] : List Command),
    1, []⟩

def guestLooks : Call household := ⟨.subscribe ⟨"guest"⟩ (fun _ _ => true) ([] : List Command), 1, []⟩

def guestListens : Call household := ⟨.subscribeTrigger ⟨"guest"⟩ .lock (), 1, []⟩

def shorten : Call household := ⟨.dispatch (.settings (.setPinLength 4)), 2, []⟩

def lockWallet : Call household := ⟨.trigger .lock, 1, []⟩

def visit : Agenda household :=
  [(hostJoins, true), (guestLooks, false), (shorten, true), (guestListens, false), (lockWallet, true),
    (⟨.unsubscribe ⟨"guest"⟩, 1, []⟩, false), (shorten, true)]

theorem guests_unnoticed :
    let served : List (Call household) → Session household := ofCalls (.initial .standard) (0, 0)
    let alone := [hostJoins, shorten, lockWallet, shorten]
    (served visit.calls).snapshot = (served alone).snapshot ∧
      story guests (naming visit.roll) (served visit.calls).journal =
        story guests (naming (Agenda.roll (alone.map (·, true)))) (served alone).journal ∧
      (seen 0 (served alone).journal).map (·.pinLength) = [6, 4, 8, 4, 8] ∧
      let s := served [hostJoins, guestLooks, guestListens, shorten, lockWallet]
      let s' := served [hostJoins, guestListens, guestLooks, shorten, lockWallet]
      s.snapshot = s'.snapshot ∧ seen 1 s.journal = seen 2 s'.journal ∧
        signals 2 s.journal = signals 1 s'.journal ∧
        (seen 1 s.journal).map (·.pinLength) = [6, 4, 8] ∧ signals 2 s.journal = [.lock] := by
  intro served alone
  have weave : Weave guests (· = ⟨"guest"⟩) (start (.new household (.initial .standard)) (0, 0))
      visit (alone.map (·, true)) := by
    refine .shared (by simp [Operation.wish?, hostJoins]) ?_
    refine .here ⟨by decide, by decide, rfl, .inl rfl⟩ ?_
    refine .shared (by simp [Operation.wish?, shorten]) ?_
    refine .here ⟨by decide, by decide, rfl, .inl rfl⟩ ?_
    refine .shared (by simp [Operation.wish?, lockWallet]) ?_
    refine .here ⟨by decide, by decide, rfl, .inr ⟨_, rfl, rfl⟩⟩ ?_
    exact .shared (by simp [Operation.wish?, shorten]) (.ended _)
  obtain ⟨left, order⟩ := bystanders_unnoticed guests (.initial .standard) (0, 0)
  obtain ⟨q', -, -, undelayed, -, level⟩ := left weave
  obtain rfl := undelayed rfl
  have looks : ∀ d ∈ [guestLooks, guestListens], LooksOn guests d := by
    intro d member
    rcases List.mem_pair.1 member with rfl | rfl <;> exact ⟨rfl, rfl⟩
  have swapped : [guestLooks, guestListens].Perm [guestListens, guestLooks] := .swap _ _ _
  obtain ⟨after', -, -, undelayed, same, -, seen, -⟩ := @order [hostJoins] _ _ [shorten, lockWallet]
    0 1 guestLooks (by decide) (by decide) looks swapped rfl rfl
  obtain rfl := undelayed rfl
  obtain ⟨after', -, -, undelayed, -, -, -, signals⟩ := @order [hostJoins] _ _
    [shorten, lockWallet] 1 0 guestListens (by decide) (by decide) looks swapped rfl rfl
  obtain rfl := undelayed rfl
  exact ⟨level.snapshot, level.story, by decide, same, seen, signals, by decide, by decide⟩

/-- It is not enough to send nothing. A guest closes the gate through the world that it shares with
the middleware. And of two guests that come while a length is still queued, the first one sees both
lengths and the other one does not. -/
theorem guests_noticed :
    (gated.Silent ∧
      let s := ofCalls (C := gated) (.initial .standard) false [⟨.addMiddleware (), 0, []⟩]
      let comes : Call gated := ⟨.subscribe ⟨"guest"⟩ (fun _ _ => true) (), 1, []⟩
      let lengths : List (Call gated) :=
        [⟨.dispatch (.settings (.setPinLength 4)), 1, []⟩,
          ⟨.dispatch (.settings (.setPinLength 8)), 1, []⟩]
      Resting s ∧ (lengths.foldl serve s).snapshot.pinLength = 8 ∧
        ((comes :: lengths).foldl serve s).snapshot.pinLength = 4) ∧
    counting.Silent ∧
      let s := ofCalls (C := counting) (.initial .standard) ()
        [⟨.send [.dispatch (.settings (.setPinLength 4))], 0, []⟩]
      let comes (name : String) : Call counting :=
        ⟨.subscribe ⟨name⟩ (fun _ _ => true) (0 : Nat), 1, []⟩
      (seen 0 ([comes "a", comes "b"].foldl serve s).journal).map (·.pinLength) = [6, 4] ∧
        (seen 1 ([comes "b", comes "a"].foldl serve s).journal).map (·.pinLength) = [4] := by
  refine ⟨⟨⟨fun _ _ _ _ => rfl, fun _ _ _ => rfl, nofun⟩, ?_, by decide, by decide⟩,
    ⟨fun _ _ _ _ => rfl, fun _ _ _ => rfl, fun _ _ _ => rfl⟩, by decide, by decide⟩
  exact ⟨rfl, rfl, by decide, by decide⟩

end Session
end WalletLoop
