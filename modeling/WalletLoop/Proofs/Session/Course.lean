import Mathlib.Data.List.Forall2
import WalletLoop.Proofs.Session.Queue

namespace WalletLoop

variable {C : Clients}

def Event.inCourse : Event C → Bool
  | .issued .. | .collected .. | .registered .. | .noticed _ => false
  | _ => true

def Event.shown? : Event C → Option Snapshot
  | .consulted _ _ s _ => some s
  | .observed _ _ s => some s
  | _ => none

namespace Session

def questions (a : Action) (s : Snapshot) (front : List C.Middleware) : List (Event C) :=
  .took (.action a) :: front.map (.consulted · a s true)

inductive Episode :
    List C.Middleware → Snapshot → List (Event C) → List C.Middleware → Snapshot → Prop
  | added (chain : List C.Middleware) (s : Snapshot) (m : C.Middleware) :
      Episode chain s [.added m] (chain ++ [m]) s
  | greeted (chain : List C.Middleware) (s : Snapshot) (number : Nat) (o : C.Observer) :
      Episode chain s [.observed number o s] chain s
  | applied (chain chain' : List C.Middleware) (s : Snapshot) (a : Action) (told : List (Event C))
      (answers : List.Forall₂ (Answers a s true) chain chain')
      (calls : ∀ e ∈ told, ∃ number o, e = .observed number o (s.reduce a)) :
      Episode chain s
        (questions a s chain ++ .applied a :: told ++ [.finished (.action a)])
        chain' (s.reduce a)
  | consumed (front front' rest : List C.Middleware) (m m' : C.Middleware) (s : Snapshot)
      (a : Action) (answers : List.Forall₂ (Answers a s true) front front')
      (holds : Answers a s false m m') :
      Episode (front ++ m :: rest) s
        (questions a s front ++ [.consulted m a s false, .finished (.action a)])
        (front' ++ m' :: rest) s
  | fired (chain : List C.Middleware) (s : Snapshot) (t : Trigger) (told : List (Event C))
      (calls : ∀ e ∈ told, ∃ number l, e = .heard number l t) :
      Episode chain s (.took (.trigger t) :: told ++ [.finished (.trigger t)]) chain s

inductive Course (start : Snapshot) :
    List (Event C) → List C.Middleware → Snapshot → Prop
  | new : Course start [] [] start
  | next {events more : List (Event C)} {chain chain' : List C.Middleware} {s s' : Snapshot}
      (before : Course start events chain s) (episode : Episode chain s more chain' s') :
      Course start (events ++ more) chain' s'

def course (journal : List (Event C)) : List (Event C) := journal.filter (·.inCourse)

def Begun (chain : List C.Middleware) (shown : Snapshot) (s : Session C) (events : List (Event C)) :
    Phase C → Prop
  | .idle | .greeting .. | .joining .. =>
      s.middleware = chain ∧ s.snapshot = shown ∧ events = []
  | .asking a asked rest =>
      s.middleware = chain ∧ s.snapshot = shown ∧
        ∃ front, chain = front ++ rest ∧ List.Forall₂ (Answers a shown true) front asked ∧
          events = questions a shown front
  | .held a middleware =>
      s.middleware = chain ∧ s.snapshot = shown ∧
        Episode chain shown (events ++ [.finished (.action a)]) middleware shown
  | .telling a _ _ =>
      List.Forall₂ (Answers a shown true) chain s.middleware ∧ s.snapshot = shown.reduce a ∧
        ∃ told : List (Event C), (∀ e ∈ told, ∃ number o, e = .observed number o s.snapshot) ∧
          events = questions a shown chain ++ .applied a :: told
  | .firing t _ =>
      s.middleware = chain ∧ s.snapshot = shown ∧
        ∃ told : List (Event C), (∀ e ∈ told, ∃ number l, e = .heard number l t) ∧
          events = .took (.trigger t) :: told

structure OnCourse (start : Snapshot) (m : Moment C) : Prop where
  split : ∃ chain shown events begun, course m.2.journal = events ++ begun ∧
    Course start events chain shown ∧ Begun chain shown m.2 begun m.1

theorem course_append (journal events : List (Event C)) :
    course (journal ++ events) = course journal ++ course events :=
  List.filter_append ..

theorem course_concat (journal : List (Event C)) (e : Event C) :
    course (journal ++ [e]) = course journal ++ if e.inCourse then [e] else [] := by
  cases same : e.inCourse <;> simp [course, same]

theorem applied_aside {events : List (Event C)} (aside : ∀ e ∈ events, e.inCourse = false) :
    applied events = [] := by
  refine List.filterMap_eq_nil_iff.2 fun e member => ?_
  have outside := aside e member
  cases e with
  | applied => cases outside
  | _ => rfl

theorem OnCourse.aside {start : Snapshot} {p : Phase C} {s s' : Session C}
    (before : OnCourse start (p, s)) (journal : course s'.journal = course s.journal)
    (middleware : s'.middleware = s.middleware) (snapshot : s'.snapshot = s.snapshot) :
    OnCourse start (p, s') := by
  obtain ⟨chain, shown, events, begun, parts, sofar, now⟩ := before.split
  refine ⟨chain, shown, events, begun, journal.trans parts, sofar, ?_⟩
  cases p <;> simpa only [Begun, middleware, snapshot] using now

theorem OnCourse.completed {start shown : Snapshot} {p : Phase C} {s : Session C}
    {chain : List C.Middleware} {events more : List (Event C)}
    (sofar : Course start events chain shown)
    (episode : Episode chain shown more s.middleware s.snapshot)
    (parts : course s.journal = events ++ more)
    (resting : ∀ chain shown,
      s.middleware = chain → s.snapshot = shown → Begun chain shown s [] p) :
    OnCourse start (p, s) :=
  ⟨_, _, _, [], by rw [parts, List.append_nil], sofar.next episode, resting _ _ rfl rfl⟩

theorem onCourse_move {start : Snapshot} {m m' : Moment C} (move : Move m m')
    (before : OnCourse start m) : OnCourse start m' := by
  cases move with
  | take s w later next =>
      obtain ⟨chain, shown, events, begun, parts, sofar, rfl, rfl, rfl⟩ := before.split
      refine ⟨s.middleware, s.snapshot, events, [.took w], ?_, sofar, ?_⟩
      · simp [note, course_concat, parts, Event.inCourse]
      · cases w with
        | action a => exact ⟨rfl, rfl, [], rfl, .nil, rfl⟩
        | trigger t => exact ⟨rfl, rfl, [], by simp, rfl⟩
  | pass s a asked m m' rest answers =>
      obtain ⟨chain, shown, events, begun, parts, sofar, same, rfl, front, rfl, fronts, rfl⟩ :=
        before.split
      refine ⟨_, _, events, _, ?_, sofar, same, rfl, front ++ [m], by simp, ?_, rfl⟩
      · simp [note, course_concat, parts, Event.inCourse, questions]
      · exact List.rel_append fronts (.cons answers .nil)
  | hold s a asked m m' rest answers =>
      obtain ⟨chain, shown, events, begun, parts, sofar, same, rfl, front, rfl, fronts, rfl⟩ :=
        before.split
      refine ⟨_, _, events, questions a s.snapshot front ++ [.consulted m a s.snapshot false], ?_,
        sofar, same, rfl, ?_⟩
      · simp [note, course_concat, parts, Event.inCourse]
      · simpa using Episode.consumed front asked rest m m' s.snapshot a fronts answers
  | consumed s a middleware =>
      obtain ⟨chain, shown, events, begun, parts, sofar, same, rfl, episode⟩ := before.split
      refine .completed sofar episode ?_ fun _ _ same shows => ⟨same, shows, rfl⟩
      simp [note, course_concat, parts, Event.inCourse]
  | advance s a asked =>
      obtain ⟨chain, shown, events, begun, parts, sofar, same, rfl, front, rfl, fronts, rfl⟩ :=
        before.split
      rw [List.append_nil] at sofar same
      refine ⟨front, s.snapshot, events, _, ?_, sofar, fronts, rfl, [], by simp, rfl⟩
      simp [note, course_concat, parts, Event.inCourse]
  | observe s a previous i o collected at_i active interested =>
      obtain ⟨chain, shown, events, begun, parts, sofar, answers, shows, told, calls, rfl⟩ :=
        before.split
      refine ⟨chain, shown, events, _, ?_, sofar, answers, shows,
        told ++ [.observed o.number o.client s.snapshot], ?_, rfl⟩
      · simp [note, course_concat, parts, Event.inCourse]
      · intro e member
        rcases List.mem_append.1 member with earlier | last
        · exact calls e earlier
        · exact ⟨_, _, List.mem_singleton.1 last⟩
  | told s a previous =>
      obtain ⟨chain, shown, events, begun, parts, sofar, answers, shows, told, calls, rfl⟩ :=
        before.split
      have episode := Episode.applied chain s.middleware shown a told answers (shows ▸ calls)
      refine .completed sofar (shows ▸ episode) ?_ fun _ _ same shows => ⟨same, shows, rfl⟩
      simp [note, course_concat, parts, Event.inCourse]
  | hear s t i l collected at_i active matching =>
      obtain ⟨chain, shown, events, begun, parts, sofar, same, shows, told, calls, rfl⟩ :=
        before.split
      refine ⟨chain, shown, events, _, ?_, sofar, same, shows,
        told ++ [.heard l.number l.client t], ?_, rfl⟩
      · simp [note, course_concat, parts, Event.inCourse]
      · intro e member
        rcases List.mem_append.1 member with earlier | last
        · exact calls e earlier
        · exact ⟨_, _, List.mem_singleton.1 last⟩
  | fired s t =>
      obtain ⟨chain, shown, events, begun, parts, sofar, rfl, rfl, told, calls, rfl⟩ := before.split
      refine .completed sofar (.fired _ _ t told calls) ?_ fun _ _ same shows => ⟨same, shows, rfl⟩
      simp [note, course_concat, parts, Event.inCourse]
  -- a turn in which nobody is called
  | spare s => exact ⟨before.split⟩
  | ignore s => exact ⟨before.split⟩
  | _ =>
      refine before.aside ?_ rfl rfl
      first
        | rfl
        | simp [Session.put, Session.notice, note, emptied, course_concat, Event.inCourse]

theorem onCourse_request {start : Snapshot} {m m' : Moment C} (request : Request m m')
    (before : OnCourse start m) : OnCourse start m' := by
  cases request with
  | add s m =>
      obtain ⟨chain, shown, events, begun, parts, sofar, rfl, rfl, rfl⟩ := before.split
      refine .completed sofar (.added _ _ m) ?_ fun _ _ same shows => ⟨same, shows, rfl⟩
      simp [addMiddleware, note, course_concat, parts, Event.inCourse]
  | greet s number id client collected =>
      obtain ⟨chain, shown, events, begun, parts, sofar, rfl, rfl, rfl⟩ := before.split
      refine .completed sofar (.greeted _ _ number client) ?_ fun _ _ same shows =>
        ⟨same, shows, rfl⟩
      simp [note, course_concat, parts, Event.inCourse]
  | register s id collected =>
      have aside : OnCourse start (.idle, { s with registered := s.registered + 1 }.note
          (.registered .observer s.registered id)) :=
        before.aside (by simp [note, course_concat, Event.inCourse]) rfl rfl
      exact ⟨aside.split⟩
  | join s number id interest client => exact ⟨before.split⟩
  | _ =>
      refine before.aside ?_ rfl rfl
      simp [released, note, course_concat, Event.inCourse]

structure Folded (start : Snapshot) (s : Session C) : Prop where
  snapshot : s.snapshot = (applied s.journal).foldl Snapshot.reduce start
  shown : Each (fun before e => ∀ seen, e.shown? = some seen →
    seen = (applied before).foldl Snapshot.reduce start) s.journal

theorem folded_move {start : Snapshot} {m m' : Moment C} (move : Move m m')
    (before : Folded start m.2) : Folded start m'.2 := by
  obtain ⟨snapshot, shown⟩ := before
  cases move with
  | advance s a asked =>
      dsimp only at snapshot shown
      refine ⟨by simp [note, applied_concat, ← snapshot], each_concat.2 ⟨shown, ?_⟩⟩
      simp [Event.shown?]
  | _ =>
      dsimp only at snapshot shown
      constructor
      · simpa [Session.put, Session.notice, note, emptied, Session.compact, applied_concat] using
          snapshot
      · first
          | exact shown
          | exact each_concat.2 ⟨shown, by simp [Event.shown?, snapshot]⟩

theorem folded_request {start : Snapshot} {m m' : Moment C} (request : Request m m')
    (before : Folded start m.2) : Folded start m'.2 := by
  obtain ⟨snapshot, shown⟩ := before
  cases request with
  | join s number id interest client => exact ⟨snapshot, shown⟩
  | _ =>
      dsimp only at snapshot shown
      constructor
      · simpa [addMiddleware, released, note, applied_concat] using snapshot
      · exact each_concat.2 ⟨shown, by simp [Event.shown?, snapshot]⟩

/-- After any calls, whatever the clients do: the journal consists of episodes, the last of which
left behind the middleware and the snapshot there are; the snapshot, and each that was shown to a
client, is the fold of the actions applied before; and all work ever submitted was taken, is
pending, or waits in the channel. -/
theorem course_ofCalls (snapshot : Snapshot) (world : C.World) (calls : List (Call C)) :
    let s := ofCalls snapshot world calls
    Course snapshot (course s.journal) s.middleware s.snapshot ∧
      s.snapshot = (applied s.journal).foldl Snapshot.reduce snapshot ∧
      Each (fun before e => ∀ seen, e.shown? = some seen →
        seen = (applied before).foldl Snapshot.reduce snapshot) s.journal ∧
      (taken s.journal ++ s.pending ++ s.channel.filterMap Command.work?).Perm
        ((submitted s.journal).map (·.work)) := by
  intro s
  have onCourse : OnCourse snapshot (.idle, s) :=
    ofCalls_induction (OnCourse snapshot) ⟨_, _, _, _, rfl, .new, rfl, rfl, rfl⟩
      (fun _ _ => onCourse_move) (fun _ _ => onCourse_request) calls
  have folded : Folded snapshot s :=
    ofCalls_induction (fun m => Folded snapshot m.2) ⟨rfl, each_nil _⟩
      (fun _ _ => folded_move) (fun _ _ => folded_request) calls
  have accounted : Accounted s := accounted_ofCalls snapshot world calls
  obtain ⟨chain, shown, events, begun, parts, sofar, rfl, rfl, rfl⟩ := onCourse.split
  refine ⟨?_, folded.snapshot, folded.shown, ?_⟩
  · rw [parts, List.append_nil]
    exact sofar
  · rw [← accounted.queue, ← accounted.waiting, ← List.map_append]
    exact (intake_perm s.journal).map _

theorem onCourse_ofCalls (snapshot : Snapshot) (world : C.World) (calls : List (Call C)) :
    Course snapshot (course (ofCalls snapshot world calls).journal)
      (ofCalls snapshot world calls).middleware (ofCalls snapshot world calls).snapshot := by
  have onCourse : OnCourse snapshot (.idle, ofCalls snapshot world calls) :=
    ofCalls_induction (OnCourse snapshot) ⟨_, _, _, _, rfl, .new, rfl, rfl, rfl⟩
      (fun _ _ => onCourse_move) (fun _ _ => onCourse_request) calls
  obtain ⟨chain, shown, events, begun, parts, sofar, rfl, rfl, rfl⟩ := onCourse.split
  rw [parts, List.append_nil]
  exact sofar

theorem folded_ofCalls (snapshot : Snapshot) (world : C.World) (calls : List (Call C)) :
    Folded snapshot (ofCalls snapshot world calls) :=
  ofCalls_induction (fun m => Folded snapshot m.2) ⟨rfl, each_nil _⟩
    (fun _ _ => folded_move) (fun _ _ => folded_request) calls

theorem each_course {fits : List (Event C) → Event C → Prop} {journal : List (Event C)}
    (stable : ∀ before e, fits before e → fits (course before) e) (each : Each fits journal) :
    Each fits (course journal) := by
  induction journal using List.reverseRecOn with
  | nil => exact each
  | append_singleton journal e ih =>
      obtain ⟨earlier, last⟩ := each_concat.1 each
      rw [course_concat]
      split
      · exact each_concat.2 ⟨ih earlier, stable journal e last⟩
      · rw [List.append_nil]
        exact ih earlier

theorem mem_questions {a a' : Action} {s shown : Snapshot} {front : List C.Middleware}
    {m : C.Middleware} {passes : Bool} :
    .consulted m a' shown passes ∈ questions a s front ↔
      m ∈ front ∧ a' = a ∧ shown = s ∧ passes = true := by
  simp only [questions, List.mem_cons, List.mem_map, reduceCtorEq, false_or, Event.consulted.injEq]
  constructor
  · rintro ⟨m', member, rfl, rfl, rfl, rfl⟩
    exact ⟨member, rfl, rfl, rfl⟩
  · rintro ⟨member, rfl, rfl, rfl⟩
    exact ⟨m, member, rfl, rfl, rfl, rfl⟩

theorem answers_mem {a : Action} {s : Snapshot} {passes : Bool} {front front' : List C.Middleware}
    (answers : List.Forall₂ (Answers a s passes) front front') {m : C.Middleware}
    (member : m ∈ front) : ∃ m' ∈ front', Answers a s passes m m' := by
  induction answers with
  | nil => cases member
  | @cons _ m' _ _ first rest ih =>
      rcases List.mem_cons.1 member with rfl | later
      · exact ⟨m', List.mem_cons_self, first⟩
      · obtain ⟨m', there, answer⟩ := ih later
        exact ⟨m', List.mem_cons_of_mem _ there, answer⟩

theorem consulted_answers {start s : Snapshot} {events : List (Event C)}
    {chain : List C.Middleware} (course : Course start events chain s) {m : C.Middleware}
    {a : Action} {shown : Snapshot} {passes : Bool}
    (member : .consulted m a shown passes ∈ events) : ∃ m', Answers a shown passes m m' := by
  have asked {a' : Action} {s' : Snapshot} {front front' : List C.Middleware}
      (answers : List.Forall₂ (Answers a' s' true) front front')
      (there : .consulted m a shown passes ∈ questions a' s' front) :
      ∃ m', Answers a shown passes m m' := by
    obtain ⟨place, rfl, rfl, rfl⟩ := mem_questions.1 there
    obtain ⟨m', -, answer⟩ := answers_mem answers place
    exact ⟨m', answer⟩
  induction course with
  | new => cases member
  | next before episode ih =>
      rcases List.mem_append.1 member with earlier | here
      · exact ih earlier
      cases episode with
      | applied _ _ _ a' told answers calls =>
          rw [List.append_assoc] at here
          rcases List.mem_append.1 here with there | later
          · exact asked answers there
          · have called : .consulted m a shown passes ∈ told := by simpa using later
            obtain ⟨number, o, same⟩ := calls _ called
            cases same
      | consumed front front' rest m' m'' _ a' answers holds =>
          rcases List.mem_append.1 here with there | last
          · exact asked answers there
          · obtain ⟨rfl, rfl, rfl, rfl⟩ : m = m' ∧ a = a' ∧ _ ∧ passes = false := by
              simpa using last
            exact ⟨m'', holds⟩
      | fired _ _ t told calls =>
          have called : .consulted m a shown passes ∈ told := by simpa using here
          obtain ⟨number, l, same⟩ := calls _ called
          cases same
      | _ => simp at here

end Session
end WalletLoop
