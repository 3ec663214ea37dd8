import Mathlib.Data.List.Perm.Subperm
import WalletLoop.Proofs.Session.Wishes

namespace WalletLoop

variable {C : Clients}

def Phase.isTelling : Phase C → Bool
  | .telling .. => true
  | _ => false

def line {Interest Client : Type} (entries : List (Subscription Interest Client)) : List Tag :=
  entries.map fun o => (o.number, o.id)

theorem line_afterwards {Interest Client : Type} (cs : List Command)
    (entries : List (Subscription Interest Client)) :
    line (entries.map (·.afterwards cs)) = line entries := by
  simp [line]

theorem line_set {Interest Client : Type} {entries : List (Subscription Interest Client)} {i : Nat}
    {o : Subscription Interest Client} (at_i : entries[i]? = some o) (client : Client) :
    line (entries.set i { o with client := client }) = line entries := by
  have whole : line entries = line (entries.take i ++ o :: entries.drop (i + 1)) :=
    congrArg line (Session.split_at at_i)
  rw [List.set_eq_take_append_cons_drop, if_pos (List.getElem?_eq_some_iff.1 at_i).1, whole]
  simp [line]

theorem drop_line {Interest Client : Type} {entries : List (Subscription Interest Client)} {i : Nat}
    {o : Subscription Interest Client} (at_i : entries[i]? = some o) :
    (line entries).drop i = (o.number, o.id) :: (line entries).drop (i + 1) := by
  obtain ⟨inside, rfl⟩ := List.getElem?_eq_some_iff.1 at_i
  rw [line, List.drop_eq_getElem_cons (by simpa using inside), List.getElem_map]

theorem tags_line {Interest Client : Type} (entries : List (Subscription Interest Client)) :
    (tags entries).Sublist (line entries) :=
  List.filter_sublist.map _

namespace Session

section Turns
variable {role : Role} {wants : Nat → Prop} {call : Nat → Event C → Prop}
  {before pass : List (Event C)} {due ahead : List Tag} {tag : Tag} {e : Event C}

/-- The turns that those who are due have had in a pass so far, and who is still to have one. Other
things may happen in between, but nobody else is called and nobody joins. -/
inductive Turns (role : Role) (wants : Nat → Prop) (call : Nat → Event C → Prop)
    (before : List (Event C)) (due : List Tag) : List (Event C) → List Tag → Prop
  | start : Turns role wants call before due [] due
  | aside {pass : List (Event C)} {later : List Tag} (e : Event C)
      (sofar : Turns role wants call before due pass later) (outside : e.inCourse = false)
      (known : e.isRegistered = false) :
      Turns role wants call before due (pass ++ [e]) later
  | called {pass : List (Event C)} {tag : Tag} {later : List Tag} (e : Event C)
      (sofar : Turns role wants call before due pass (tag :: later))
      (still : tag ∈ held role (before ++ pass)) (wanted : wants tag.1) (calls : call tag.1 e) :
      Turns role wants call before due (pass ++ [e]) later
  | spared {pass : List (Event C)} {tag : Tag} {later : List Tag}
      (sofar : Turns role wants call before due pass (tag :: later))
      (unwanted : tag ∈ held role (before ++ pass) → ¬ wants tag.1) :
      Turns role wants call before due pass later

structure Underway (role : Role) (wants : Nat → Prop) (call : Nat → Event C → Prop)
    (before pass : List (Event C)) (ahead : List Tag) : Prop where
  turns : Turns role wants call before (held role before) pass
    (ahead.filter (· ∈ held role before))
  fewer : held role (before ++ pass) ⊆ held role before

theorem Underway.start (listed : (held role before).Sublist ahead) (nodup : ahead.Nodup) :
    Underway role wants call before [] ahead := by
  have all : ahead.filter (· ∈ held role before) = held role before := by
    have kept := listed.filter (· ∈ held role before)
    rw [List.filter_eq_self.2 (by simp)] at kept
    refine (kept.eq_of_length_le ?_).symm
    refine ((nodup.filter _).subperm fun tag member => ?_).length_le
    simpa using (List.mem_filter.1 member).2
  refine ⟨?_, by simp⟩
  rw [all]
  exact .start

theorem held_fewer (later : e.isRegistered = false) :
    held role (before ++ [e]) ⊆ held role before := by
  rw [held_concat]
  cases e with
  | registered => cases later
  | issued => exact List.filter_subset_self _
  | _ => exact fun _ member => member

theorem Underway.aside (underway : Underway role wants call before pass ahead)
    (outside : e.inCourse = false) (later : e.isRegistered = false) :
    Underway role wants call before (pass ++ [e]) ahead := by
  refine ⟨underway.turns.aside e outside later, ?_⟩
  rw [← List.append_assoc]
  exact List.Subset.trans (held_fewer later) underway.fewer

theorem Underway.called (underway : Underway role wants call before pass (tag :: ahead))
    (still : tag ∈ held role (before ++ pass)) (wanted : wants tag.1) (calls : call tag.1 e)
    (later : e.isRegistered = false) : Underway role wants call before (pass ++ [e]) ahead := by
  have turns := underway.turns
  rw [List.filter_cons_of_pos (by simpa using underway.fewer still)] at turns
  refine ⟨turns.called e still wanted calls, ?_⟩
  rw [← List.append_assoc]
  exact List.Subset.trans (held_fewer later) underway.fewer

theorem Underway.spared (underway : Underway role wants call before pass (tag :: ahead))
    (unwanted : tag ∈ held role (before ++ pass) → ¬ wants tag.1) :
    Underway role wants call before pass ahead := by
  have turns := underway.turns
  refine ⟨?_, underway.fewer⟩
  by_cases was : tag ∈ held role before
  · rw [List.filter_cons_of_pos (by simpa using was)] at turns
    exact turns.spared unwanted
  · rwa [List.filter_cons_of_neg (by simpa using was)] at turns

theorem Turns.order {later : List Tag} (turns : Turns role wants call before due pass later)
    (calls : ∀ number e, call number e → e.called? = some (role, number)) :
    ∃ front, due = front ++ later ∧
      (pass.filterMap Event.called?).Sublist (front.map fun tag => (role, tag.1)) := by
  induction turns with
  | start => exact ⟨[], rfl, .slnil⟩
  | aside e sofar outside known ih =>
      obtain ⟨front, rfl, order⟩ := ih
      have nobody : e.called? = none := by
        cases e with
        | observed | heard => cases outside
        | _ => rfl
      exact ⟨front, rfl, by simpa [nobody] using order⟩
  | @called pass tag later e sofar still wanted called ih =>
      obtain ⟨front, rfl, order⟩ := ih
      refine ⟨front ++ [tag], by simp, ?_⟩
      simpa [calls _ _ called] using order.append_right [(role, tag.1)]
  | @spared pass tag later sofar unwanted ih =>
      obtain ⟨front, rfl, order⟩ := ih
      refine ⟨front ++ [tag], by simp, ?_⟩
      rw [List.map_append]
      exact order.trans (List.sublist_append_left _ _)

theorem Turns.calls {later : List Tag} (turns : Turns role wants call before due pass later) :
    ∀ e ∈ pass, e.inCourse = true → ∃ number, call number e := by
  induction turns with
  | start => simp
  | aside e sofar outside known ih =>
      intro e' member inside
      rcases List.mem_append.1 member with earlier | last
      · exact ih e' earlier inside
      · rw [List.mem_singleton.1 last, outside] at inside
        cases inside
  | @called pass tag later e sofar still wanted calls ih =>
      intro e' member inside
      rcases List.mem_append.1 member with earlier | last
      · exact ih e' earlier inside
      · exact ⟨tag.1, List.mem_singleton.1 last ▸ calls⟩
  | spared sofar unwanted ih => exact ih

end Turns

theorem opened_concat {α : Type} {opening : α → Event C}
    {known known' : List (Event C) → α → List (Event C) → Prop} {journal journal' : List (Event C)}
    {e : Event C}
    (sofar : ∀ before a after, journal = before ++ opening a :: after → known before a after)
    (grown : journal' = journal ++ [e])
    (more : ∀ before a after, journal = before ++ opening a :: after →
      known before a after → known' before a (after ++ [e]))
    (new : ∀ a, e = opening a → known' journal a []) :
    ∀ before a after, journal' = before ++ opening a :: after → known' before a after := by
  intro before a after parts
  rw [grown] at parts
  rcases after.eq_nil_or_concat' with rfl | ⟨after, last, rfl⟩
  · obtain ⟨rfl, ends⟩ := List.append_inj' parts rfl
    exact new a (by simpa using ends)
  · rw [← List.cons_append, ← List.append_assoc] at parts
    obtain ⟨earlier, ends⟩ := List.append_inj' parts rfl
    obtain rfl : e = last := by simpa using ends
    exact more before a after earlier (sofar before a after earlier)

theorem mem_tags_iff {Interest Client : Type} {entries : List (Subscription Interest Client)}
    (nodup : (numbers entries).Nodup) {i : Nat} {o : Subscription Interest Client}
    (at_i : entries[i]? = some o) : (o.number, o.id) ∈ tags entries ↔ o.active = true := by
  refine ⟨fun mine => ?_, mem_tags at_i⟩
  obtain ⟨o', there, same⟩ := List.mem_map.1 mine
  obtain ⟨there, active⟩ := List.mem_filter.1 there
  obtain rfl := List.inj_on_of_nodup_map nodup there (List.mem_of_getElem? at_i)
    (congrArg (·.1) same)
  simpa using active

def Wants (W : List Wish) (previous next : Snapshot) (number : Nat) : Prop :=
  ∃ id f, W[number]? = some (id, .inl f) ∧ f previous next = true

def Shows (next : Snapshot) (number : Nat) (e : Event C) : Prop :=
  ∃ o, e = .observed number o next

abbrev Told (W : List Wish) (previous next : Snapshot)
    (before pass : List (Event C)) (later : List Tag) : Prop :=
  Turns .observer (Wants W previous next) (Shows next) before (held .observer before) pass later

section Action
variable {W : List Wish} {start : Snapshot} {m m' : Moment C} {s : Session C}

def Ended (W : List Wish) (start : Snapshot) (before : List (Event C)) (a : Action)
    (after : List (Event C)) : Prop :=
  let previous := (applied before).foldl Snapshot.reduce start
  ∃ pass rest, after = pass ++ .finished (.action a) :: rest ∧
    Told W previous (previous.reduce a) (before ++ [.applied a]) pass []

structure Telling (W : List Wish) (start : Snapshot) (m : Moment C)
    (before : List (Event C)) (a : Action) (after : List (Event C)) (previous : Snapshot) (i : Nat) :
    Prop where
  phase : m.1 = .telling a previous i
  was : previous = (applied before).foldl Snapshot.reduce start
  next : m.2.snapshot = previous.reduce a
  underway : Underway .observer (Wants W previous (previous.reduce a)) (Shows (previous.reduce a))
    (before ++ [.applied a]) after ((line m.2.observers).drop i)

def Passed (W : List Wish) (start : Snapshot) (m : Moment C)
    (before : List (Event C)) (a : Action) (after : List (Event C)) : Prop :=
  Ended W start before a after ∨ ∃ previous i, Telling W start m before a after previous i

structure Passing (W : List Wish) (start : Snapshot) (m : Moment C) : Prop where
  numbered : Numbered m
  subscribed : Subscribed m
  folded : Folded start m.2
  wishing : Wishing W m.2
  passed : ∀ before a after, m.2.journal = before ++ .applied a :: after →
    Passed W start m before a after

section Passed
variable {before after : List (Event C)} {a : Action} {e : Event C} {p : Phase C} {s s' : Session C}

theorem Ended.more (ended : Ended W start before a after) (events : List (Event C)) :
    Ended W start before a (after ++ events) := by
  obtain ⟨pass, rest, rfl, told⟩ := ended
  exact ⟨pass, rest ++ events, by simp, told⟩

theorem Passed.ended (passed : Passed W start m before a after)
    (elsewhere : m.1.isTelling = false) : Ended W start before a after := by
  rcases passed with ended | ⟨previous, i, telling⟩
  · exact ended
  · rw [telling.phase] at elsewhere
    cases elsewhere

theorem Passed.still (passed : Passed W start (p, s) before a after)
    (snapshot : s'.snapshot = s.snapshot) (same : line s'.observers = line s.observers) :
    Passed W start (p, s') before a after := by
  refine passed.imp_right ?_
  rintro ⟨previous, i, phase, was, next, underway⟩
  exact ⟨previous, i, phase, was, snapshot.trans next, by rwa [same]⟩

theorem Passed.aside (passed : Passed W start (p, s) before a after) (outside : e.inCourse = false)
    (later : e.isRegistered = false) (snapshot : s'.snapshot = s.snapshot)
    (same : line s'.observers = line s.observers) :
    Passed W start (p, s') before a (after ++ [e]) := by
  rcases passed.still snapshot same with ended | ⟨previous, i, phase, was, next, underway⟩
  · exact .inl (ended.more [e])
  · exact .inr ⟨previous, i, phase, was, next, underway.aside outside later⟩

end Passed

theorem held_iff_active {p : Phase C} (numbered : Numbered (p, s)) (subscribed : Subscribed (p, s))
    (collected : s.channel = []) (settled : p.newcomer? = none) {i : Nat}
    {o : Subscription Selector C.Observer} (at_i : s.observers[i]? = some o) :
    (o.number, o.id) ∈ held .observer s.journal ↔ o.active = true := by
  have all : tags s.observers = held .observer s.journal := by
    simpa [present, settled] using subscribed.mem collected .observer
  rw [← all]
  exact mem_tags_iff numbered.nodup at_i

theorem passed_move (move : Move m m') (passing : Passing W start m) :
    ∀ before a after, m'.2.journal = before ++ .applied a :: after →
      Passed W start m' before a after := by
  obtain ⟨numbered, subscribed, folded, wishing, passed⟩ := passing
  cases move with
  | world p s w => exact fun before a after parts => (passed before a after parts).still rfl rfl
  | arrivals p s later =>
      exact fun before a after parts => (passed before a after parts).still rfl rfl
  | listener p s i l client at_i =>
      exact fun before a after parts => (passed before a after parts).still rfl rfl
  | observer p s i o client at_i =>
      exact fun before a after parts =>
        (passed before a after parts).still rfl (line_set at_i client)
  | compact s =>
      exact fun before a after parts => .inl ((passed before a after parts).ended rfl)
  | ignore s =>
      exact fun before a after parts => .inl ((passed before a after parts).ended rfl)
  | put p s c =>
      exact opened_concat passed rfl (fun _ _ _ _ passed => passed.aside rfl rfl rfl rfl)
        fun _ same => by cases same
  | notice p s n =>
      exact opened_concat passed rfl (fun _ _ _ _ passed => passed.aside rfl rfl rfl rfl)
        fun _ same => by cases same
  | empty p s collects =>
      refine opened_concat passed rfl (fun _ _ _ _ passed => ?_)
        fun _ same => by cases same
      exact passed.aside rfl rfl rfl (line_afterwards _ _)
  | advance s a asked =>
      refine opened_concat passed rfl
        (fun before a after _ passed => .inl ((passed.ended rfl).more _)) ?_
      rintro _ ⟨⟩
      refine .inr ⟨s.snapshot, 0, rfl, folded.snapshot, rfl, ?_⟩
      refine .start (.trans ?_ (tags_line s.observers)) (.of_map (·.1) ?_)
      · have kept := subscribed.kept .observer
        simp only [present, Phase.newcomer?, Option.toList_none, List.append_nil] at kept
        rw [held_concat]
        exact kept ▸ List.filter_sublist
      · simpa [line, numbers, note, Function.comp_def] using numbered.nodup
  | observe s a previous i o collected at_i active interested =>
      refine opened_concat passed rfl (fun before b after parts passed => ?_)
        fun _ same => by cases same
      rcases passed with ended | ⟨previous, i, phase, was, next, underway⟩
      · exact .inl (ended.more _)
      · cases phase
        rw [drop_line at_i] at underway
        have wish := wishing.observers o (List.mem_of_getElem? at_i)
        have listed := (held_iff_active numbered subscribed collected rfl at_i).2 active
        refine .inr ⟨_, _, rfl, was, next, underway.called ?_ ⟨o.id, o.interest, wish, ?_⟩
          ⟨o.client, by rw [← next]⟩ rfl⟩
        · rwa [List.append_assoc, List.singleton_append, ← parts]
        · exact next ▸ interested
  | spare s a previous i o collected at_i not_wanted =>
      intro before b after parts
      rcases passed before b after parts with ended | ⟨previous, i, phase, was, next, underway⟩
      · exact .inl ended
      · cases phase
        rw [drop_line at_i] at underway
        refine .inr ⟨_, _, rfl, was, next, underway.spared ?_⟩
        rw [List.append_assoc, List.singleton_append, ← parts]
        rintro listed ⟨id, f, wish, wanted⟩
        have active := (held_iff_active numbered subscribed collected rfl at_i).1 listed
        rw [wishing.observers o (List.mem_of_getElem? at_i)] at wish
        cases wish
        rw [next, active, wanted] at not_wanted
        cases not_wanted
  | told s a previous =>
      refine opened_concat passed rfl (fun before b after parts passed => .inl ?_)
        fun _ same => by cases same
      rcases passed with ended | ⟨previous, i, phase, was, next, underway⟩
      · exact ended.more _
      · cases phase
        have turns := underway.turns
        rw [List.drop_of_length_le (by simp [line]), List.filter_nil] at turns
        exact ⟨after, [], rfl, was ▸ turns⟩
  | take s w later next =>
      exact opened_concat passed rfl
        (fun _ _ _ _ passed => .inl ((passed.ended rfl).more _))
        fun _ same => by cases same
  | pass | hold | consumed | hear | fired =>
      exact opened_concat passed rfl
        (fun _ _ _ _ passed => .inl ((passed.ended rfl).more _))
        fun _ same => by cases same

theorem passed_request (request : Request m m')
    (passed : ∀ before a after, m.2.journal = before ++ .applied a :: after →
      Passed W start m before a after) :
    ∀ before a after, m'.2.journal = before ++ .applied a :: after →
      Passed W start m' before a after := by
  cases request with
  | join s number id interest client =>
      exact fun before a after parts => .inl ((passed before a after parts).ended rfl)
  | _ =>
      exact opened_concat passed rfl
        (fun _ _ _ _ passed => .inl ((passed.ended rfl).more _))
        fun _ same => by cases same

theorem passing_stride (stride : Stride W m m') (passing : Passing W start m) :
    Passing W start m' := by
  rcases stride with move | ⟨request, wishing⟩
  · exact ⟨numbered_move move passing.numbered, subscribed_move move passing.subscribed,
      folded_move move passing.folded, wishing_move move passing.wishing, passed_move move passing⟩
  · exact ⟨numbered_request request passing.numbered, subscribed_request request passing.subscribed,
      folded_request request passing.folded, wishing, passed_request request passing.passed⟩

theorem passing_serve {front : List Wish} {c : Call C}
    (wish : front ++ c.operation.wish?.toList <+: W) (count : s.registered = front.length)
    (passing : Passing W start (.idle, s)) : Passing W start (.idle, s.serve c) :=
  (serve_strides passing.wishing wish count).keep _ (fun _ _ => passing_stride) passing

theorem passing_serves {front : List Wish} {calls : List (Call C)}
    (all : front ++ wishes calls <+: W) (count : s.registered = front.length)
    (passing : Passing W start (.idle, s)) : Passing W start (.idle, calls.foldl serve s) :=
  (serves_strides passing.wishing all count).keep _ (fun _ _ => passing_stride) passing

theorem passing_new (snapshot : Snapshot) (world : C.World) :
    Passing W snapshot (.idle, Session.start (.new C snapshot) world) := by
  refine ⟨⟨.nil, by simp [Session.start, Store.new, numbers, Phase.newcomer?]⟩,
    ⟨fun role => by cases role <;> rfl, rfl, each_nil _⟩, ⟨rfl, each_nil _⟩,
    wishing_new snapshot world, ?_⟩
  intro before a after parts
  simp [Session.start] at parts

theorem passing_ofCalls (snapshot : Snapshot) (world : C.World) (calls : List (Call C)) :
    Passing (wishes calls) snapshot (.idle, ofCalls snapshot world calls) :=
  passing_serves (List.prefix_refl ([] ++ wishes calls)) rfl (passing_new snapshot world)

end Action

/-- The pass of an action that is applied gives those observers a turn, in the order of registration,
that are held when it starts. At its turn an observer is called with the next snapshot, if it is still
held then and its selector picks the snapshots before and after the action, and is not called
otherwise, whatever is sent in the meantime. Nobody else is called. -/
theorem passes_ofCalls (snapshot : Snapshot) (world : C.World) (calls : List (Call C))
    {before after : List (Event C)} {a : Action}
    (applies : (ofCalls snapshot world calls).journal = before ++ .applied a :: after) :
    let previous := (applied before).foldl Snapshot.reduce snapshot
    let next := previous.reduce a
    let started := before ++ [.applied a]
    let due := held .observer started
    ∃ pass rest, after = pass ++ .finished (.action a) :: rest ∧
      Turns .observer (Wants (wishes calls) previous next) (Shows next) started due pass [] ∧
      (pass.filterMap Event.called?).Sublist (due.map fun tag => (.observer, tag.1)) ∧
      (due.map (·.1)).Pairwise (· < ·) := by
  intro previous next started due
  have passing : Passing (wishes calls) snapshot (.idle, ofCalls snapshot world calls) :=
    passing_serves (List.prefix_refl ([] ++ wishes calls)) rfl (passing_new snapshot world)
  obtain ⟨pass, rest, rfl, told⟩ := (passing.passed before a after applies).ended rfl
  have parts : (ofCalls snapshot world calls).journal =
      started ++ (pass ++ .finished (.action a) :: rest) := by
    simp [applies, started]
  have suits : Each Event.Suits started := passing.subscribed.suits.front parts
  obtain ⟨front, all, order⟩ := told.order fun number e ⟨o, same⟩ => by rw [same]; rfl
  have whole : due = front := all.trans (List.append_nil _)
  refine ⟨pass, rest, rfl, told, ?_, (held_sorted suits .observer).1⟩
  rwa [whole]

def meddling : Clients where
  World := Unit
  Middleware := Empty
  Observer := List Command
  Listener := Empty
  consult m := m.elim
  observe o s w := ⟨o, w, if s.pinLength == 4 then o else [], []⟩
  hear l := l.elim

def meddlers : List (Call meddling) :=
  [⟨.subscribe ⟨"first"⟩ (fun _ _ => true)
      ([.unsubscribe ⟨"second"⟩, .dispatch (.settings (.setPinLength 8))] : List Command), 1, []⟩,
    ⟨.subscribe ⟨"second"⟩ (fun _ _ => true) ([] : List Command), 1, []⟩,
    ⟨.subscribe ⟨"third"⟩ (fun _ _ => true) ([] : List Command), 1, []⟩,
    ⟨.dispatch (.settings (.setPinLength 4)), 2, []⟩]

theorem meddler_passed :
    let short : Action := .settings (.setPinLength 4)
    let s := ofCalls (.initial .standard) () meddlers
    let before := s.journal.take 18
    let after := s.journal.drop 19
    s.journal = before ++ .applied short :: after ∧
      held .observer (before ++ [.applied short]) =
        [(0, ⟨"first"⟩), (1, ⟨"second"⟩), (2, ⟨"third"⟩)] ∧
      (after.take 8).filterMap Event.called? = [(.observer, 0), (.observer, 2)] ∧
      ∃ pass rest, after = pass ++ .finished (.action short) :: rest ∧
        (pass.filterMap Event.called?).Sublist
          ((held .observer (before ++ [.applied short])).map fun tag => (.observer, tag.1)) := by
  intro short s before after
  have parts : s.journal = before ++ .applied short :: after := split_at rfl
  obtain ⟨pass, rest, split, -, order, -⟩ :=
    @passes_ofCalls meddling (.initial .standard) () meddlers before after short parts
  exact ⟨parts, by decide, by decide, pass, rest, split, order⟩

end Session
end WalletLoop
