import WalletLoop.Proofs.Session.Inflow
import WalletLoop.Proofs.Session.Passes

namespace WalletLoop

variable {C : Clients}

structure Reply.Alike {Client Shown World Own : Type} (own : World → Own) (shown : Client → Shown)
    (r r' : Reply Client World) : Prop where
  client : shown r.client = shown r'.client
  world : own r.world = own r'.world
  sent : r.sent = r'.sent

/-- Clients that depend only on a part of the world of their own, except for some observers and
listeners that leave this part alone and send nothing, now or ever. If those leave the whole world
alone, the part may be all of it, and nothing is asked of the others. -/
structure Bystanders (C : Clients) where
  Own : Type
  own : C.World → Own
  quiet : C.Observer → Bool
  hushed : C.Listener → Bool
  consult : ∀ m a s {w w'}, own w = own w' →
    (C.consult m a s w).passes = (C.consult m a s w').passes ∧
      (C.consult m a s w).toReply.Alike own id (C.consult m a s w').toReply
  observe : ∀ {o}, quiet o = false → ∀ s {w w'}, own w = own w' →
    (C.observe o s w).Alike own id (C.observe o s w')
  hear : ∀ {l}, hushed l = false → ∀ t {w w'}, own w = own w' →
    (C.hear l t w).Alike own id (C.hear l t w')
  looksOn : ∀ {o}, quiet o = true → ∀ s w, (C.observe o s w).sent = [] ∧
    quiet (C.observe o s w).client = true ∧ own (C.observe o s w).world = own w
  listensIn : ∀ {l}, hushed l = true → ∀ t w, (C.hear l t w).sent = [] ∧
    hushed (C.hear l t w).client = true ∧ own (C.hear l t w).world = own w

def hide {Client : Type} (quiet : Client → Bool) (c : Client) : Option Client :=
  if quiet c then none else some c

theorem hide_alike {Client Own World : Type} {own : World → Own} {quiet : Client → Bool}
    {reply : Client → World → Reply Client World}
    (agree : ∀ {c}, quiet c = false → ∀ {w w'}, own w = own w' →
      (reply c w).Alike own id (reply c w'))
    (silent : ∀ {c}, quiet c = true → ∀ w, (reply c w).sent = [] ∧
      quiet (reply c w).client = true ∧ own (reply c w).world = own w)
    {c c' : Client} (same : hide quiet c = hide quiet c') {w w' : World} (level : own w = own w') :
    (reply c w).Alike own (hide quiet) (reply c' w') := by
  cases looksOn : quiet c with
  | true =>
      have looksOn' : quiet c' = true := by
        by_contra other
        simp [hide, looksOn, other] at same
      obtain ⟨sent, client, world⟩ := silent looksOn w
      obtain ⟨sent', client', world'⟩ := silent looksOn' w'
      exact ⟨by simp [hide, client, client'], by rw [world, world', level], by rw [sent, sent']⟩
  | false =>
      obtain rfl : c = c' := by
        cases looksOn' : quiet c' <;> simp_all [hide]
      obtain ⟨client, world, sent⟩ := agree looksOn level
      exact ⟨congrArg (hide quiet) client, world, sent⟩

abbrev Naming := Nat → Option Nat

section Entries
variable {Interest Client : Type} {name name' name'' : Naming} {quiet : Client → Bool}
  {entries entries' entries'' : List (Subscription Interest Client)}
  {o o' : Subscription Interest Client} {i i' : Nat}

def Subscription.part? (name : Naming) (quiet : Client → Bool) (o : Subscription Interest Client) :
    Option (Subscription Interest (Option Client)) :=
  (name o.number).map fun n => ⟨n, o.id, o.interest, hide quiet o.client, o.active⟩

def parts (name : Naming) (quiet : Client → Bool) (entries : List (Subscription Interest Client)) :
    List (Subscription Interest (Option Client)) :=
  entries.filterMap (·.part? name quiet)

def Seated (name : Naming) (quiet : Client → Bool) (entries : List (Subscription Interest Client)) :
    Prop :=
  ∀ o ∈ entries, name o.number = none → quiet o.client = true

theorem part?_afterwards (cs : List Command) :
    (o.afterwards cs).part? name quiet = (o.part? name quiet).map (·.afterwards cs) := by
  unfold Subscription.part?
  rw [afterwards_number]
  cases name o.number with
  | none => rfl
  | some n => by_cases gone : Command.unsubscribe o.id ∈ cs <;> simp [Subscription.afterwards, gone]

theorem part?_active {v : Subscription Interest (Option Client)}
    (seen : o.part? name quiet = some v) : v.active = o.active := by
  obtain ⟨n, -, rfl⟩ := Option.map_eq_some_iff.1 seen
  rfl

theorem part?_eq (named : (name o.number).isSome)
    (same : o.part? name quiet = o'.part? name' quiet) :
    name o.number = name' o'.number ∧ o.id = o'.id ∧ o.interest = o'.interest ∧
      hide quiet o.client = hide quiet o'.client ∧ o.active = o'.active := by
  obtain ⟨n, named⟩ := Option.isSome_iff_exists.1 named
  cases named' : name' o'.number with
  | none => simp [Subscription.part?, named, named'] at same
  | some n' => simpa [Subscription.part?, named, named'] using same

structure Matched (name name' : Naming) (quiet : Client → Bool)
    (entries entries' : List (Subscription Interest Client)) : Prop where
  parts : parts name quiet entries = WalletLoop.parts name' quiet entries'
  left : Seated name quiet entries
  right : Seated name' quiet entries'

namespace Matched

theorem symm (matched : Matched name name' quiet entries entries') :
    Matched name' name quiet entries' entries :=
  ⟨matched.parts.symm, matched.right, matched.left⟩

theorem trans (first : Matched name name' quiet entries entries')
    (second : Matched name' name'' quiet entries' entries'') :
    Matched name name'' quiet entries entries'' :=
  ⟨first.parts.trans second.parts, first.left, second.right⟩

theorem refl (seated : Seated name quiet entries) : Matched name name quiet entries entries :=
  ⟨rfl, seated, seated⟩

end Matched

theorem parts_afterwards (cs : List Command) :
    parts name quiet (entries.map (·.afterwards cs)) =
      (parts name quiet entries).map (·.afterwards cs) := by
  simp only [parts, List.filterMap_map, List.map_filterMap, ← part?_afterwards]
  rfl

theorem parts_active :
    parts name quiet (entries.filter (·.active)) = (parts name quiet entries).filter (·.active) := by
  induction entries with
  | nil => rfl
  | cons o entries ih =>
      simp only [parts, List.filterMap_cons, List.filter_cons] at ih ⊢
      cases seen : o.part? name quiet with
      | none => cases o.active <;> simp [seen, ih]
      | some v =>
          rw [List.filter_cons, part?_active seen]
          cases o.active <;> simp [seen, ih]

theorem seated_afterwards {cs : List Command} :
    Seated name quiet (entries.map (·.afterwards cs)) ↔ Seated name quiet entries := by
  have same (o : Subscription Interest Client) : (o.afterwards cs).client = o.client := by
    unfold Subscription.afterwards
    split <;> rfl
  simp [Seated, same]

namespace Matched

theorem afterwards (matched : Matched name name' quiet entries entries') (cs : List Command) :
    Matched name name' quiet (entries.map (·.afterwards cs)) (entries'.map (·.afterwards cs)) :=
  ⟨by rw [parts_afterwards, parts_afterwards, matched.parts], seated_afterwards.2 matched.left,
    seated_afterwards.2 matched.right⟩

theorem compact (matched : Matched name name' quiet entries entries') :
    Matched name name' quiet (entries.filter (·.active)) (entries'.filter (·.active)) :=
  ⟨by rw [parts_active, parts_active, matched.parts],
    fun o member => matched.left o (List.mem_of_mem_filter member),
    fun o member => matched.right o (List.mem_of_mem_filter member)⟩

theorem append (matched : Matched name name' quiet entries entries')
    (same : o.part? name quiet = o'.part? name' quiet) (named : (name o.number).isSome)
    (named' : (name' o'.number).isSome) :
    Matched name name' quiet (entries ++ [o]) (entries' ++ [o']) := by
  have seated {name : Naming} {entries : List (Subscription Interest Client)}
      {o : Subscription Interest Client} (seated : Seated name quiet entries)
      (named : (name o.number).isSome) : Seated name quiet (entries ++ [o]) := by
    intro o' member nameless
    rcases List.mem_append.1 member with earlier | new
    · exact seated o' earlier nameless
    · rw [List.mem_singleton.1 new] at nameless
      simp [nameless] at named
  refine ⟨?_, seated matched.left named, seated matched.right named'⟩
  have earlier := matched.parts
  simp only [WalletLoop.parts, List.filterMap_append, List.filterMap_cons,
    List.filterMap_nil, same] at earlier ⊢
  rw [earlier]

theorem joined (seated : Seated name quiet entries) (nameless : name o.number = none)
    (looksOn : quiet o.client = true) : Matched name name quiet entries (entries ++ [o]) := by
  have unseen : o.part? name quiet = none := by simp [Subscription.part?, nameless]
  refine ⟨by simp [WalletLoop.parts, unseen], seated, fun o' member nameless => ?_⟩
  rcases List.mem_append.1 member with earlier | new
  · exact seated o' earlier nameless
  · rwa [List.mem_singleton.1 new]

end Matched

def marks (name : Naming) (entries : List (Subscription Interest Client)) : List (Option Nat) :=
  entries.map fun o => name o.number

theorem parts_length :
    (parts name quiet entries).length = (marks name entries).countP (·.isSome) := by
  rw [parts, List.length_filterMap_eq_countP, marks, List.countP_map]
  refine List.countP_congr fun o _ => ?_
  simp [Subscription.part?]

theorem set_eq (at_i : entries[i]? = some o) (o' : Subscription Interest Client) :
    entries.set i o' = entries.take i ++ o' :: entries.drop (i + 1) := by
  rw [List.set_eq_take_append_cons_drop, if_pos (List.getElem?_eq_some_iff.1 at_i).1]

theorem marks_set (at_i : entries[i]? = some o) (client : Client) :
    marks name (entries.set i { o with client := client }) = marks name entries := by
  have whole := congrArg (marks name) (Session.split_at at_i)
  rw [set_eq at_i, whole]
  simp [marks]

theorem Matched.blinked (seated : Seated name quiet entries) (at_i : entries[i]? = some o)
    (nameless : name o.number = none) {client : Client} (looksOn : quiet client = true) :
    Matched name name quiet entries (entries.set i { o with client := client }) := by
  have unseen (c : Client) : { o with client := c }.part? name quiet = none := by
    simp [Subscription.part?, nameless]
  refine ⟨?_, seated, fun o' member nameless => ?_⟩
  · have whole := congrArg (WalletLoop.parts name quiet) (Session.split_at at_i)
    rw [set_eq at_i, whole]
    simp [WalletLoop.parts, unseen client, unseen o.client]
  · rcases List.mem_or_eq_of_mem_set member with there | rfl
    · exact seated o' there nameless
    · exact looksOn

theorem parts_split {front rest : List (Subscription Interest Client)}
    {v : Subscription Interest (Option Client)} (split : entries = front ++ o :: rest)
    (seen : o.part? name quiet = some v) :
    parts name quiet entries = parts name quiet front ++ v :: parts name quiet rest := by
  rw [split]
  simp [parts, seen]

theorem Matched.turn (matched : Matched name name' quiet entries entries')
    (at_i : entries[i]? = some o) (at_i' : entries'[i']? = some o')
    (named : (name o.number).isSome) (named' : (name' o'.number).isSome)
    (level : ((marks name entries).take i).countP (·.isSome) =
      ((marks name' entries').take i').countP (·.isSome)) :
    o.part? name quiet = o'.part? name' quiet ∧
      ∀ {client client' : Client}, hide quiet client = hide quiet client' →
        Matched name name' quiet (entries.set i { o with client := client })
          (entries'.set i' { o' with client := client' }) := by
  obtain ⟨n, named⟩ := Option.isSome_iff_exists.1 named
  obtain ⟨n', named'⟩ := Option.isSome_iff_exists.1 named'
  have seen (c : Client) : { o with client := c }.part? name quiet =
      some ⟨n, o.id, o.interest, hide quiet c, o.active⟩ := by simp [Subscription.part?, named]
  have seen' (c : Client) : { o' with client := c }.part? name' quiet =
      some ⟨n', o'.id, o'.interest, hide quiet c, o'.active⟩ := by simp [Subscription.part?, named']
  have fronts : (WalletLoop.parts name quiet (entries.take i)).length =
      (WalletLoop.parts name' quiet (entries'.take i')).length := by
    rw [parts_length, parts_length]
    simpa [marks, List.map_take] using level
  have whole := matched.parts
  rw [parts_split (Session.split_at at_i) (seen o.client),
    parts_split (Session.split_at at_i') (seen' o'.client)] at whole
  obtain ⟨front, rest⟩ := List.append_inj whole fronts
  obtain ⟨same, later⟩ := List.cons.inj rest
  refine ⟨(seen o.client).trans ((congrArg some same).trans (seen' o'.client).symm), ?_⟩
  intro client client' hidden
  refine ⟨?_, ?_, ?_⟩
  · have renamed := congrArg (fun v => { v with client := hide quiet client' }) same
    rw [parts_split (set_eq at_i _) (seen client), parts_split (set_eq at_i' _) (seen' client'),
      front, later, hidden]
    exact congrArg (fun v => _ ++ v :: _) renamed
  · intro o'' member nameless
    rcases List.mem_or_eq_of_mem_set member with there | rfl
    · exact matched.left o'' there nameless
    · simp [named] at nameless
  · intro o'' member nameless
    rcases List.mem_or_eq_of_mem_set member with there | rfl
    · exact matched.right o'' there nameless
    · simp [named'] at nameless

end Entries

inductive Glimpse (C : Clients) where
  | added (m : C.Middleware)
  | took (w : Work)
  | consulted (m : C.Middleware) (a : Action) (s : Snapshot) (passes : Bool)
  | applied (a : Action)
  | observed (name : Nat) (o : Option C.Observer) (s : Snapshot)
  | heard (name : Nat) (l : Option C.Listener) (t : Trigger)
  | finished (w : Work)

def Event.glimpse? (B : Bystanders C) (name : Naming) : Event C → Option (Glimpse C)
  | .added m => some (.added m)
  | .took w => some (.took w)
  | .consulted m a s passes => some (.consulted m a s passes)
  | .applied a => some (.applied a)
  | .observed number o s => (name number).map (.observed · (hide B.quiet o) s)
  | .heard number l t => (name number).map (.heard · (hide B.hushed l) t)
  | .finished w => some (.finished w)
  | .issued .. | .collected .. | .registered .. | .noticed _ => none

namespace Session

def story (B : Bystanders C) (name : Naming) (journal : List (Event C)) : List (Glimpse C) :=
  journal.filterMap (·.glimpse? B name)

/-- Two sessions that differ in bystanders alone, and in what has been written down about them. -/
structure Level (B : Bystanders C) (name name' : Naming) (s s' : Session C) : Prop where
  snapshot : s.snapshot = s'.snapshot
  middleware : s.middleware = s'.middleware
  channel : s.channel = s'.channel
  pending : s.pending = s'.pending
  world : B.own s.world = B.own s'.world
  observers : Matched name name' B.quiet s.observers s'.observers
  listeners : Matched name name' B.hushed s.listeners s'.listeners
  story : story B name s.journal = Session.story B name' s'.journal

def settle (cs : List Command) (s : Session C) : Session C :=
  { s with
    channel := []
    pending := s.pending ++ (s.channel ++ cs).filterMap Command.work?
    observers := s.observers.map (·.afterwards (s.channel ++ cs))
    listeners := s.listeners.map (·.afterwards (s.channel ++ cs)) }

theorem settle_settle (cs ds : List Command) (s : Session C) :
    (s.settle cs).settle ds = s.settle (cs ++ ds) := by
  simp [settle, afterwards_append, Function.comp_def]

theorem settle_nil {s : Session C} (collected : s.channel = []) : s.settle [] = s := by
  have same : { s with channel := [] } = s := by rw [← collected]
  simp [settle, collected, afterwards_others, same]

section Level
variable {B : Bystanders C} {name name' name'' : Naming} {s s' s'' : Session C}

theorem story_append (journal events : List (Event C)) :
    story B name (journal ++ events) = story B name journal ++ story B name events :=
  List.filterMap_append

theorem story_aside {events : List (Event C)} (aside : ∀ e ∈ events, e.inCourse = false) :
    story B name events = [] := by
  refine List.filterMap_eq_nil_iff.2 fun e member => ?_
  have outside := aside e member
  cases e with
  | issued | collected | registered | noticed => rfl
  | _ => cases outside

theorem story_notices (ns : List Notice) :
    story B name (ns.map .noticed : List (Event C)) = [] := by
  simp [story, Event.glimpse?]

namespace Level

theorem symm (level : Level B name name' s s') : Level B name' name s' s :=
  ⟨level.snapshot.symm, level.middleware.symm, level.channel.symm, level.pending.symm,
    level.world.symm, level.observers.symm, level.listeners.symm, level.story.symm⟩

theorem trans (first : Level B name name' s s') (second : Level B name' name'' s' s'') :
    Level B name name'' s s'' :=
  ⟨first.snapshot.trans second.snapshot, first.middleware.trans second.middleware,
    first.channel.trans second.channel, first.pending.trans second.pending,
    first.world.trans second.world, first.observers.trans second.observers,
    first.listeners.trans second.listeners, first.story.trans second.story⟩

theorem refl (seated : Seated name B.quiet s.observers) (seated' : Seated name B.hushed s.listeners) :
    Level B name name s s :=
  ⟨rfl, rfl, rfl, rfl, rfl, .refl seated, .refl seated', rfl⟩

theorem write (level : Level B name name' s s') (events events' : List (Event C))
    (same : Session.story B name events = Session.story B name' events') :
    Level B name name' { s with journal := s.journal ++ events }
      { s' with journal := s'.journal ++ events' } :=
  { level with story := by rw [story_append, story_append, level.story, same] }

theorem written (level : Level B name name' s s') (events : List (Event C))
    (unseen : Session.story B name' events = []) :
    Level B name name' s { s' with journal := s'.journal ++ events } :=
  { level with story := by rw [story_append, unseen, List.append_nil, level.story] }

theorem settle (level : Level B name name' s s') (cs : List Command) :
    Level B name name' (s.settle cs) (s'.settle cs) where
  snapshot := level.snapshot
  middleware := level.middleware
  channel := rfl
  pending := by simp only [Session.settle, level.pending, level.channel]
  world := level.world
  observers := by
    simp only [Session.settle, level.channel]
    exact level.observers.afterwards _
  listeners := by
    simp only [Session.settle, level.channel]
    exact level.listeners.afterwards _
  story := level.story

theorem compact (level : Level B name name' s s') : Level B name name' s.compact s'.compact :=
  { level with observers := level.observers.compact, listeners := level.listeners.compact }

end Level
end Level

structure Takes (f : Session C → Session C) (s : Session C) (portions : List (List Command))
    (r : Session C) : Prop where
  later : ∀ rest, f { s with arrivals := portions ++ rest } = { r with arrivals := rest }
  alone : portions.flatten = [] → f { s with arrivals := [] } = { r with arrivals := [] }

section Takes
variable {f g : Session C → Session C} {s r : Session C} {portions portions' : List (List Command)}

theorem Takes.trans {r' : Session C} (first : Takes f s portions r)
    (second : Takes g r portions' r') : Takes (fun s => g (f s)) s (portions ++ portions') r' := by
  constructor
  · intro rest
    rw [List.append_assoc, first.later, second.later]
  · intro nothing
    rw [List.flatten_append, List.append_eq_nil_iff] at nothing
    rw [first.alone nothing.1, second.alone nothing.2]

theorem Takes.congr (takes : Takes g s portions r)
    (same : ∀ arrivals, f { s with arrivals := arrivals } = g { s with arrivals := arrivals }) :
    Takes f s portions r :=
  ⟨fun rest => (same _).trans (takes.later rest), fun nothing => (same _).trans (takes.alone nothing)⟩

theorem Takes.none (still : ∀ arrivals, f { s with arrivals := arrivals } =
    { f s with arrivals := arrivals }) : Takes f s [] (f s) :=
  ⟨still, fun _ => still []⟩

theorem Takes.here (takes : Takes f s [s.arrivals.headD []] r) :
    f s = { r with arrivals := s.arrivals.tail } := by
  cases arriving : s.arrivals with
  | nil =>
      have same : { s with arrivals := [] } = s := by rw [← arriving]
      rw [arriving] at takes
      have alone := takes.alone (by simp)
      rwa [same] at alone
  | cons portion rest =>
      have same : { s with arrivals := portion :: rest } = s := by rw [← arriving]
      rw [arriving] at takes
      have later := takes.later rest
      simpa [same] using later

theorem receives_arrivals (s : Session C) (cs : List Command) (arrivals : List (List Command)) :
    cs.foldl receive { s with arrivals := arrivals } =
      { cs.foldl receive s with arrivals := arrivals } := by
  induction cs generalizing s with
  | nil => rfl
  | cons c cs ih =>
      have one : { s with arrivals := arrivals }.receive c =
          { s.receive c with arrivals := arrivals } := by
        cases c with
        | unsubscribe id => simp only [receive, deactivate]; split <;> rfl
        | _ => rfl
      rw [List.foldl_cons, one, ih]
      rfl

theorem emptyChannel_arrivals (s : Session C) (arrivals : List (List Command)) :
    { s with arrivals := arrivals }.emptyChannel =
      { s.emptyChannel with arrivals := arrivals } := by
  have received := receives_arrivals { s with channel := [] } s.channel arrivals
  simp only [emptyChannel, received, note]

theorem arrive_next (s : Session C) (portion : List Command) (rest : List (List Command)) :
    { s with arrivals := portion :: rest }.arrive =
      { portion.foldl put s with arrivals := rest } := by
  rw [arrive, puts_eq, puts_eq]
  rfl

theorem collect_takes (s : Session C) (portion : List Command) :
    ∃ events : List (Event C), (∀ e ∈ events, e.inCourse = false) ∧
      Takes collect s [portion] { s.settle portion with journal := s.journal ++ events } := by
  obtain ⟨events, aside, same⟩ := collect_eq { s with arrivals := [portion] }
  have settled : { s with arrivals := [portion] }.collect =
      { s.settle portion with arrivals := [], journal := s.journal ++ events } := by
    rw [same]
    rfl
  have next (rest : List (List Command)) : { s with arrivals := portion :: rest }.collect =
      { (portion.foldl put s).emptyChannel with arrivals := rest } := by
    rw [collect, arrive_next, emptyChannel_arrivals]
  refine ⟨events, aside, fun rest => ?_, fun nothing => ?_⟩
  · have moved := congrArg (fun t : Session C => { t with arrivals := rest })
      ((next []).symm.trans settled)
    exact (next rest).trans moved
  · obtain rfl : portion = [] := by simpa using nothing
    exact settled

end Takes

section Together
variable {B : Bystanders C} {name name' : Naming} {s s' : Session C} {debt : List Command}

def Beside (B : Bystanders C) (name name' : Naming) (debt : List Command) (s s' : Session C) : Prop :=
  Level B name name' (s.settle []) (s'.settle debt)

theorem Level.beside (level : Level B name name' s s') : Beside B name name' [] s s' :=
  level.settle []

def Leads (B : Bystanders C) (name name' : Naming) (debt : List Command)
    (f g : Session C → Session C) (s s' : Session C) : Prop :=
  ∃ portions r, Takes g s' portions r ∧ Level B name name' (f s) r ∧
    debt ++ s.arrivals.flatten = portions.flatten ++ (f s).arrivals.flatten

theorem Leads.bind {f g f' g' : Session C → Session C} (first : Leads B name name' debt f g s s')
    (second : ∀ portions r, Takes g s' portions r → Level B name name' (f s) r →
      Leads B name name' [] f' g' (f s) r) :
    Leads B name name' debt (fun s => f' (f s)) (fun s => g' (g s)) s s' := by
  obtain ⟨portions, r, takes, level, arrives⟩ := first
  obtain ⟨portions', r', takes', level', arrives'⟩ := second portions r takes level
  refine ⟨portions ++ portions', r', takes.trans takes', level', ?_⟩
  rw [arrives, ← List.nil_append (f s).arrivals.flatten, arrives', List.flatten_append,
    List.append_assoc]

theorem Leads.trans {f g f' g' : Session C → Session C} (first : Leads B name name' debt f g s s')
    (second : ∀ r, Level B name name' (f s) r → Leads B name name' [] f' g' (f s) r) :
    Leads B name name' debt (fun s => f' (f s)) (fun s => g' (g s)) s s' :=
  first.bind fun _ r _ level => second r level

theorem Leads.still {f g : Session C → Session C} (level : Level B name name' (f s) (g s'))
    (still : ∀ arrivals, g { s' with arrivals := arrivals } = { g s' with arrivals := arrivals })
    (same : (f s).arrivals = s.arrivals) : Leads B name name' [] f g s s' :=
  ⟨[], g s', .none still, level, by simp [same]⟩

theorem Leads.congr {f g f' g' : Session C → Session C}
    (leads : Leads B name name' debt f g s s') (left : f' s = f s)
    (right : ∀ arrivals, g' { s' with arrivals := arrivals } = g { s' with arrivals := arrivals }) :
    Leads B name name' debt f' g' s s' := by
  obtain ⟨portions, r, takes, level, arrives⟩ := leads
  exact ⟨portions, r, takes.congr right, left ▸ level, left ▸ arrives⟩

theorem Beside.collect (beside : Beside B name name' debt s s') :
    Leads B name name' debt collect collect s s' := by
  let portion := s.arrivals.headD []
  obtain ⟨events, aside, takes⟩ := collect_takes s portion
  obtain ⟨events', aside', takes'⟩ := collect_takes s' (debt ++ portion)
  have here := takes.here
  have level : Level B name name' (s.settle portion) (s'.settle (debt ++ portion)) := by
    have both := beside.settle portion
    rwa [settle_settle, settle_settle] at both
  have nothing : story B name events = story B name' events' := by
    rw [story_aside aside, story_aside aside']
  refine ⟨[debt ++ portion], _, takes', ?_, ?_⟩
  · rw [here]
    have written := level.write events events' nothing
    exact { written with }
  · rw [here, arrivals_flatten]
    simp [portion]

theorem Level.collect (level : Level B name name' s s') :
    Leads B name name' [] Session.collect Session.collect s s' :=
  level.beside.collect

theorem Level.put (level : Level B name name' s s') (c : Command) :
    Leads B name name' [] (·.arrive.put c) (·.arrive.put c) s s' := by
  let portion := s.arrivals.headD []
  refine ⟨[portion], (portion.foldl Session.put s').put c,
    ⟨fun rest => ?_, fun nothing => ?_⟩, ?_, ?_⟩
  · rw [List.singleton_append, arrive_next]
    rfl
  · obtain none : portion = [] := by simpa using nothing
    rw [none]
    rfl
  · have issued {name : Naming} (cs : List Command) :
        Session.story B name (cs.map (.issued .channel) : List (Event C)) = [] := by
      simp [Session.story, Event.glimpse?]
    dsimp only
    rw [arrive_eq, puts_eq]
    have written := (level.write (portion.map (.issued .channel)) (portion.map (.issued .channel))
      (by rw [issued, issued])).write [.issued .channel c] [.issued .channel c] rfl
    exact { written with channel := by simp [Session.put, note, arrived, portion, level.channel] }
  · dsimp only
    rw [arrive_eq, arrivals_flatten]
    simp [portion, Session.put, note]

theorem Level.send (level : Level B name name' s s') (cs : List Command) :
    Leads B name name' [] (·.send cs) (·.send cs) s s' := by
  induction cs generalizing s s' with
  | nil => exact .still level (fun _ => rfl) rfl
  | cons c cs ih => exact (level.put c).trans fun r level => ih level

theorem Level.notices (level : Level B name name' s s') (ns ns' : List Notice) :
    Leads B name name' [] (fun s => { s with journal := s.journal ++ ns.map .noticed })
      (fun s => { s with journal := s.journal ++ ns'.map .noticed }) s s' := by
  exact .still (level.write _ _ (by rw [story_notices, story_notices])) (fun _ => rfl) rfl

theorem Level.absorb {Client : Type} (level : Level B name name' s s')
    {r r' : Reply Client C.World} (world : B.own r.world = B.own r'.world) (sent : r.sent = r'.sent) :
    Leads B name name' [] (·.absorb r) (·.absorb r') s s' := by
  have moved : Leads B name name' [] (fun s => { s with world := r.world })
      (fun s => { s with world := r'.world }) s s' :=
    .still { level with world := world } (fun _ => rfl) rfl
  have sends : Leads B name name' [] (fun s => { s with world := r.world }.send r.sent)
      (fun s => { s with world := r'.world }.send r'.sent) s s' := by
    rw [sent]
    exact moved.trans fun t level => level.send r'.sent
  exact sends.trans fun t level => level.notices r.notices r'.notices

end Together

section Turn
variable {B : Bystanders C} {name name' : Naming} {s s' : Session C} {i i' : Nat}

theorem Level.call {Client Shown : Type} {shown : Client → Shown}
    (level : Level B name name' s s') (e e' : Event C) {r r' : Reply Client C.World}
    (same : e.glimpse? B name = e'.glimpse? B name') (alike : r.Alike B.own shown r') :
    Leads B name name' [] (fun s => (s.note e).absorb r) (fun s => (s.note e').absorb r') s s' := by
  have noted : Leads B name name' [] (·.note e) (·.note e') s s' := by
    refine .still (level.write [e] [e'] ?_) (fun _ => rfl) rfl
    simp [Session.story, List.filterMap_cons, same]
  exact noted.trans fun t level => level.absorb alike.world alike.sent

theorem Level.unnoticed {Client : Type} (level : Level B name name' s s') (e : Event C)
    {r : Reply Client C.World} (unseen : e.glimpse? B name' = none) (silent : r.sent = [])
    (world : B.own r.world = B.own s'.world) :
    Level B name name' s ((s'.note e).absorb r) := by
  rw [absorb_silent _ silent]
  have called := level.written [e] (by simp [Session.story, unseen])
  have said := called.written _ (story_notices r.notices)
  exact { said with world := level.world.trans world.symm }

def tell (previous : Snapshot) (i : Nat) (s : Session C) : Session C :=
  match s.observers[i]? with
  | some o =>
    if o.active && o.interest previous s.snapshot then
      let (r, s) := s.observe o
      { s with observers := s.observers.set i { o with client := r.client } }
    else s
  | none => s

theorem tell_spared {previous : Snapshot} {o : Subscription Selector C.Observer}
    (at_i : s.observers[i]? = some o)
    (unwanted : (o.active && o.interest previous s.snapshot) = false) : s.tell previous i = s := by
  simp only [tell, at_i, unwanted, Bool.false_eq_true, if_false]

theorem tell_called {previous : Snapshot} {o : Subscription Selector C.Observer}
    (at_i : s.observers[i]? = some o)
    (wanted : (o.active && o.interest previous s.snapshot) = true) :
    let r := C.observe o.client s.snapshot s.world
    s.tell previous i = { (s.note (.observed o.number o.client s.snapshot)).absorb r with
      observers := s.observers.set i { o with client := r.client } } := by
  simp [tell, at_i, wanted, observe, note]

theorem tell_bystander (previous : Snapshot) (seated : Seated name B.quiet s.observers)
    (seated' : Seated name B.hushed s.listeners) {o : Subscription Selector C.Observer}
    (at_i : s.observers[i]? = some o) (nameless : name o.number = none) :
    Takes (tell previous i) s [] (s.tell previous i) ∧
      Level B name name s (s.tell previous i) := by
  obtain ⟨silent, quiet, world⟩ :=
    B.looksOn (seated o (List.mem_of_getElem? at_i) nameless) s.snapshot s.world
  have level := Level.refl seated seated'
  cases wanted : o.active && o.interest previous s.snapshot with
  | false =>
      refine ⟨.none fun arrivals => ?_, by rwa [tell_spared at_i wanted]⟩
      rw [tell_spared at_i wanted]
      exact tell_spared (s := { s with arrivals := arrivals }) at_i wanted
  | true =>
      have called := level.unnoticed (.observed o.number o.client s.snapshot)
        (by simp [Event.glimpse?, nameless]) silent world
      refine ⟨.none fun arrivals => ?_, ?_⟩
      · rw [tell_called (s := { s with arrivals := arrivals }) at_i wanted, tell_called at_i wanted,
          absorb_silent _ silent, absorb_silent _ silent]
        rfl
      · rw [tell_called at_i wanted]
        exact { called with observers := .blinked seated at_i nameless quiet }

theorem Level.tell (level : Level B name name' s s') (previous : Snapshot)
    {o o' : Subscription Selector C.Observer} (at_i : s.observers[i]? = some o)
    (at_i' : s'.observers[i']? = some o') (named : (name o.number).isSome)
    (named' : (name' o'.number).isSome)
    (place : ((marks name s.observers).take i).countP (·.isSome) =
      ((marks name' s'.observers).take i').countP (·.isSome)) :
    Leads B name name' [] (tell previous i) (tell previous i') s s' := by
  obtain ⟨same, turn⟩ := level.observers.turn at_i at_i' named named' place
  obtain ⟨names, -, interest, hidden, active⟩ := part?_eq named same
  have agree : (o.active && o.interest previous s.snapshot) =
      (o'.active && o'.interest previous s'.snapshot) := by
    rw [active, interest, level.snapshot]
  cases wanted : o.active && o.interest previous s.snapshot with
  | false =>
      have spared : Leads B name name' [] id id s s' := .still level (fun _ => rfl) rfl
      refine spared.congr (tell_spared at_i wanted) fun arrivals => ?_
      exact tell_spared (s := { s' with arrivals := arrivals }) at_i' (agree ▸ wanted)
  | true =>
      have alike : (C.observe o.client s.snapshot s.world).Alike B.own (hide B.quiet)
          (C.observe o'.client s'.snapshot s'.world) := by
        rw [← level.snapshot]
        exact hide_alike (fun quiet _ _ same => B.observe quiet s.snapshot same)
          (fun quiet w => B.looksOn quiet s.snapshot w) hidden level.world
      have called := level.call (.observed o.number o.client s.snapshot)
        (.observed o'.number o'.client s'.snapshot)
        (by simp only [Event.glimpse?, names, hidden, level.snapshot]) alike
      let r := C.observe o.client s.snapshot s.world
      let r' := C.observe o'.client s'.snapshot s'.world
      have turned := called.trans fun t level => .still
        (f := fun t => { t with observers := s.observers.set i { o with client := r.client } })
        (g := fun t => { t with observers := s'.observers.set i' { o' with client := r'.client } })
        { level with observers := turn alike.client } (fun _ => rfl) rfl
      refine turned.congr (tell_called at_i wanted) fun arrivals => ?_
      exact tell_called (s := { s' with arrivals := arrivals }) at_i' (agree ▸ wanted)

def sound (t : Trigger) (i : Nat) (s : Session C) : Session C :=
  match s.listeners[i]? with
  | some l =>
    if l.active && l.interest.isSameKind t then
      let (r, s) := s.hear l t
      { s with listeners := s.listeners.set i { l with client := r.client } }
    else s
  | none => s

theorem sound_spared {t : Trigger} {l : Subscription Trigger C.Listener}
    (at_i : s.listeners[i]? = some l) (unwanted : (l.active && l.interest.isSameKind t) = false) :
    s.sound t i = s := by
  simp only [sound, at_i, unwanted, Bool.false_eq_true, if_false]

theorem sound_called {t : Trigger} {l : Subscription Trigger C.Listener}
    (at_i : s.listeners[i]? = some l) (wanted : (l.active && l.interest.isSameKind t) = true) :
    let r := C.hear l.client t s.world
    s.sound t i = { (s.note (.heard l.number l.client t)).absorb r with
      listeners := s.listeners.set i { l with client := r.client } } := by
  simp [sound, at_i, wanted, hear, note]

theorem sound_bystander (t : Trigger) (seated : Seated name B.quiet s.observers)
    (seated' : Seated name B.hushed s.listeners) {l : Subscription Trigger C.Listener}
    (at_i : s.listeners[i]? = some l) (nameless : name l.number = none) :
    Takes (sound t i) s [] (s.sound t i) ∧ Level B name name s (s.sound t i) := by
  obtain ⟨silent, hushed, world⟩ :=
    B.listensIn (seated' l (List.mem_of_getElem? at_i) nameless) t s.world
  have level := Level.refl seated seated'
  cases wanted : l.active && l.interest.isSameKind t with
  | false =>
      refine ⟨.none fun arrivals => ?_, by rwa [sound_spared at_i wanted]⟩
      rw [sound_spared at_i wanted]
      exact sound_spared (s := { s with arrivals := arrivals }) at_i wanted
  | true =>
      have called := level.unnoticed (.heard l.number l.client t)
        (by simp [Event.glimpse?, nameless]) silent world
      refine ⟨.none fun arrivals => ?_, ?_⟩
      · rw [sound_called (s := { s with arrivals := arrivals }) at_i wanted,
          sound_called at_i wanted, absorb_silent _ silent, absorb_silent _ silent]
        rfl
      · rw [sound_called at_i wanted]
        exact { called with listeners := .blinked seated' at_i nameless hushed }

theorem Level.sound (level : Level B name name' s s') (t : Trigger)
    {l l' : Subscription Trigger C.Listener} (at_i : s.listeners[i]? = some l)
    (at_i' : s'.listeners[i']? = some l') (named : (name l.number).isSome)
    (named' : (name' l'.number).isSome)
    (place : ((marks name s.listeners).take i).countP (·.isSome) =
      ((marks name' s'.listeners).take i').countP (·.isSome)) :
    Leads B name name' [] (sound t i) (sound t i') s s' := by
  obtain ⟨same, turn⟩ := level.listeners.turn at_i at_i' named named' place
  obtain ⟨names, -, interest, hidden, active⟩ := part?_eq named same
  have agree : (l.active && l.interest.isSameKind t) = (l'.active && l'.interest.isSameKind t) := by
    rw [active, interest]
  cases wanted : l.active && l.interest.isSameKind t with
  | false =>
      have spared : Leads B name name' [] id id s s' := .still level (fun _ => rfl) rfl
      refine spared.congr (sound_spared at_i wanted) fun arrivals => ?_
      exact sound_spared (s := { s' with arrivals := arrivals }) at_i' (agree ▸ wanted)
  | true =>
      have alike : (C.hear l.client t s.world).Alike B.own (hide B.hushed)
          (C.hear l'.client t s'.world) :=
        hide_alike (fun hushed _ _ same => B.hear hushed t same)
          (fun hushed w => B.listensIn hushed t w) hidden level.world
      have called := level.call (.heard l.number l.client t) (.heard l'.number l'.client t)
        (by simp only [Event.glimpse?, names, hidden]) alike
      let r := C.hear l.client t s.world
      let r' := C.hear l'.client t s'.world
      have turned := called.trans fun t level => .still
        (f := fun t => { t with listeners := s.listeners.set i { l with client := r.client } })
        (g := fun t => { t with listeners := s'.listeners.set i' { l' with client := r'.client } })
        { level with listeners := turn alike.client } (fun _ => rfl) rfl
      refine turned.congr (sound_called at_i wanted) fun arrivals => ?_
      exact sound_called (s := { s' with arrivals := arrivals }) at_i' (agree ▸ wanted)

end Turn
end Session
end WalletLoop
