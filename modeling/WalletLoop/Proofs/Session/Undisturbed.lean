import WalletLoop.Proofs.Session.Batches
import WalletLoop.Proofs.Session.Bystanders

/-!
# Going on undisturbed

Two sessions that are `Level` stay so, whatever the owner of the store asks of both (`Level.serve`).
In a pass the positions differ, and one session is at the turn of a bystander while the other one is
not (`Beside.left`, `Beside.right`). The clients with names come in the same order in both, so they
come to each of them together (`abreast`), and what was received at the turns of bystanders in between
makes no difference then (`pass_leads`).
-/

namespace WalletLoop.Session

variable {C : Clients}

section Pass
variable {B : Bystanders C} {name name' : Naming} {s s' : Session C} {i i' n n' : Nat}
  {role : Role} {turn : Nat → Session C → Session C} {debt : List Command}

def row (role : Role) (name : Naming) (s : Session C) : List (Option Nat) :=
  role.among (marks name s.observers) (marks name s.listeners)

structure Turning (B : Bystanders C) (role : Role) (turn : Nat → Session C → Session C) : Prop where
  row : ∀ name i s, row role name (turn i s) = Session.row role name s
  bystander : ∀ {name i s}, Seated name B.quiet s.observers → Seated name B.hushed s.listeners →
    (Session.row role name s)[i]? = some none →
      Takes (turn i) s [] (turn i s) ∧ Level B name name s (turn i s)
  shared : ∀ {name name' s s' i i' k k'}, Level B name name' s s' →
    (Session.row role name s)[i]? = some (some k) →
    (Session.row role name' s')[i']? = some (some k') →
    ((Session.row role name s).take i).countP (·.isSome) =
      ((Session.row role name' s').take i').countP (·.isSome) →
    Leads B name name' [] (turn i) (turn i') s s'

def pass (turn : Nat → Session C → Session C) (n i : Nat) (s : Session C) : Session C :=
  (List.range' i n).foldl (fun s i => turn i s.collect) s

theorem pass_succ (n i : Nat) (s : Session C) :
    pass turn (n + 1) i s = pass turn n (i + 1) (turn i s.collect) := by
  rw [pass, List.range'_succ, List.foldl_cons]
  rfl

theorem row_settle (cs : List Command) (s : Session C) :
    row role name (s.settle cs) = row role name s := by
  cases role <;> simp [row, Role.among, settle, marks]

theorem row_collect (s : Session C) : row role name s.collect = row role name s := by
  obtain ⟨events, -, same⟩ := collect_eq s
  rw [same]
  cases role <;> simp [row, Role.among, marks]

theorem Level.named (role : Role) (level : Level B name name' s s') :
    (Session.row role name s).countP (·.isSome) = (Session.row role name' s').countP (·.isSome) := by
  cases role with
  | observer =>
      have same := congrArg List.length level.observers.parts
      rwa [parts_length, parts_length] at same
  | listener =>
      have same := congrArg List.length level.listeners.parts
      rwa [parts_length, parts_length] at same

theorem Beside.named (beside : Beside B name name' debt s s') :
    (Session.row role name s).countP (·.isSome) = (Session.row role name' s').countP (·.isSome) := by
  have same := Level.named role beside
  rwa [row_settle, row_settle] at same

theorem row_tell (previous : Snapshot) (i : Nat) (s : Session C) :
    row .observer name (s.tell previous i) = row .observer name s := by
  cases at_i : s.observers[i]? with
  | none => simp only [tell, at_i]
  | some o =>
      cases wanted : o.active && o.interest previous s.snapshot with
      | false => rw [tell_spared at_i wanted]
      | true =>
          rw [tell_called at_i wanted]
          exact marks_set at_i _

theorem row_sound (t : Trigger) (i : Nat) (s : Session C) :
    row .listener name (s.sound t i) = row .listener name s := by
  cases at_i : s.listeners[i]? with
  | none => simp only [sound, at_i]
  | some l =>
      cases wanted : l.active && l.interest.isSameKind t with
      | false => rw [sound_spared at_i wanted]
      | true =>
          rw [sound_called at_i wanted]
          exact marks_set at_i _

theorem marks_at {Interest Client : Type} {entries : List (Subscription Interest Client)}
    {mark : Option Nat} (named : (marks name entries)[i]? = some mark) :
    ∃ o, entries[i]? = some o ∧ name o.number = mark := by
  rw [marks, List.getElem?_map] at named
  exact Option.map_eq_some_iff.1 named

theorem turning_tell (B : Bystanders C) (previous : Snapshot) :
    Turning B .observer (tell previous) where
  row _ i s := row_tell previous i s
  bystander seated seated' nameless := by
    obtain ⟨o, at_i, nameless⟩ := marks_at nameless
    exact tell_bystander previous seated seated' at_i nameless
  shared level named named' place := by
    obtain ⟨o, at_i, named⟩ := marks_at named
    obtain ⟨o', at_i', named'⟩ := marks_at named'
    exact level.tell previous at_i at_i' (by simp [named]) (by simp [named']) place

theorem turning_sound (B : Bystanders C) (t : Trigger) : Turning B .listener (sound t) where
  row _ i s := row_sound t i s
  bystander seated seated' nameless := by
    obtain ⟨l, at_i, nameless⟩ := marks_at nameless
    exact sound_bystander t seated seated' at_i nameless
  shared level named named' place := by
    obtain ⟨l, at_i, named⟩ := marks_at named
    obtain ⟨l', at_i', named'⟩ := marks_at named'
    exact level.sound t at_i at_i' (by simp [named]) (by simp [named']) place

theorem Beside.left (turning : Turning B role turn) (beside : Beside B name name' debt s s')
    (nameless : (Session.row role name s)[i]? = some none) :
    Beside B name name' (debt ++ s.arrivals.headD []) (turn i s.collect) s' ∧
      (turn i s.collect).arrivals = s.arrivals.tail := by
  let portion := s.arrivals.headD []
  obtain ⟨events, aside, takes⟩ := collect_takes s portion
  have here := takes.here
  have both := beside.settle portion
  rw [settle_settle, settle_settle, List.nil_append] at both
  have looked : Level B name name' s.collect (s'.settle (debt ++ portion)) := by
    rw [here]
    exact { (both.symm.written events (story_aside aside)).symm with }
  obtain ⟨takes', level⟩ := turning.bystander (i := i) looked.observers.left looked.listeners.left
    (by rwa [row_collect])
  have ended := level.symm.trans looked
  refine ⟨?_, ?_⟩
  · rw [Beside, settle_nil ended.channel]
    exact ended
  · have later := congrArg (·.arrivals) (takes'.later s.collect.arrivals)
    exact later.trans (by rw [here])

theorem Beside.right (turning : Turning B role turn) (beside : Beside B name name' debt s s')
    (nameless : (Session.row role name' s')[i]? = some none) :
    ∃ r, Takes (fun s => turn i s.collect) s' [[]] r ∧ Beside B name name' debt s r := by
  obtain ⟨events, aside, takes⟩ := collect_takes s' []
  let looked : Session C := { s'.settle [] with journal := s'.journal ++ events }
  have same : looked.settle debt = { s'.settle debt with journal := s'.journal ++ events } :=
    congrArg (fun t : Session C => { t with journal := s'.journal ++ events })
      (settle_settle [] debt s')
  have seated : Seated name' B.quiet looked.observers :=
    seated_afterwards.2 (seated_afterwards.1 beside.observers.right)
  have seated' : Seated name' B.hushed looked.listeners :=
    seated_afterwards.2 (seated_afterwards.1 beside.listeners.right)
  have there : Session.row role name' looked = Session.row role name' s' := by
    rw [← row_settle [] s']
    cases role <;> rfl
  obtain ⟨takes', level⟩ := turning.bystander (i := i) seated seated' (by rwa [there])
  refine ⟨turn i looked, takes.trans takes', ?_⟩
  have ended := level.settle debt
  rw [same] at ended
  exact (beside.written events (story_aside aside)).trans ended

theorem Takes.row {f : Session C → Session C} {r : Session C} {portions : List (List Command)}
    (takes : Takes f s portions r)
    (keeps : ∀ s, Session.row role name (f s) = Session.row role name s) :
    Session.row role name r = Session.row role name s := by
  have kept := keeps { s with arrivals := portions ++ [] }
  rw [takes.later] at kept
  cases role <;> exact kept

theorem Beside.both (turning : Turning B role turn) (beside : Beside B name name' debt s s')
    {k k' : Nat} (named : (Session.row role name s)[i]? = some (some k))
    (named' : (Session.row role name' s')[i']? = some (some k'))
    (place : ((Session.row role name s).take i).countP (·.isSome) =
      ((Session.row role name' s').take i').countP (·.isSome)) :
    Leads B name name' debt (fun s => turn i s.collect) (fun s => turn i' s.collect) s s' := by
  refine beside.collect.bind fun portions r takes level => ?_
  have there : Session.row role name' r = Session.row role name' s' := takes.row row_collect
  exact turning.shared level (by rwa [row_collect]) (by rwa [there]) (by rwa [row_collect, there])

theorem countP_take {α : Type*} {l : List α} {i : Nat} {a : α} (at_i : l[i]? = some a)
    (p : α → Bool) : (l.take (i + 1)).countP p = (l.take i).countP p + if p a then 1 else 0 := by
  rw [List.take_add_one, at_i, List.countP_append]
  simp [List.countP_cons]

theorem not_ahead {l l' : List (Option Nat)} {k : Nat}
    (same : l.countP (·.isSome) = l'.countP (·.isSome))
    (place : (l.take i).countP (·.isSome) = (l'.take i').countP (·.isSome)) (ends : l[i]? = none) :
    l'[i']? ≠ some (some k) := by
  intro at_i'
  have all := List.take_of_length_le (List.getElem?_eq_none_iff.1 ends)
  have one := countP_take at_i' (·.isSome)
  have few := (List.take_sublist (i' + 1) l').countP_le (p := (·.isSome))
  simp only [Option.isSome_some, if_true] at one
  rw [all] at place
  omega

theorem abreast {l l' : List (Option Nat)} (same : l.countP (·.isSome) = l'.countP (·.isSome))
    (place : (l.take i).countP (·.isSome) = (l'.take i').countP (·.isSome))
    (first : l[i]? ≠ some none) (second : l'[i']? ≠ some none) :
    l[i]? = none ∧ l'[i']? = none ∨
      ∃ k k', l[i]? = some (some k) ∧ l'[i']? = some (some k') := by
  match at_i : l[i]?, at_i' : l'[i']? with
  | none, none => exact .inl ⟨rfl, rfl⟩
  | some none, _ => exact absurd at_i first
  | _, some none => exact absurd at_i' second
  | none, some (some k') => exact absurd at_i' (not_ahead same place at_i)
  | some (some k), none => exact absurd at_i (not_ahead same.symm place.symm at_i')
  | some (some k), some (some k') => exact .inr ⟨k, k', rfl, rfl⟩

theorem pass_leads (turning : Turning B role turn) {l l' : List (Option Nat)}
    (beside : Beside B name name' debt s s') (row : Session.row role name s = l)
    (row' : Session.row role name' s' = l') (ends : i + n = l.length) (ends' : i' + n' = l'.length)
    (place : (l.take i).countP (·.isSome) = (l'.take i').countP (·.isSome)) :
    ∃ portions r debt', Takes (pass turn n' i') s' portions r ∧
      Beside B name name' debt' (pass turn n i s) r ∧
      debt ++ s.arrivals.flatten =
        portions.flatten ++ debt' ++ (pass turn n i s).arrivals.flatten := by
  have kept (name : Naming) (i : Nat) (s : Session C) :
      Session.row role name (turn i s.collect) = Session.row role name s :=
    (turning.row name i s.collect).trans (row_collect s)
  have here {l : List (Option Nat)} {i n : Nat} {mark : Option Nat} (at_i : l[i]? = some mark)
      (ends : i + n = l.length) : ∃ m, n = m + 1 ∧ i + 1 + m = l.length := by
    have inside := (List.getElem?_eq_some_iff.1 at_i).1
    exact ⟨n - 1, by omega, by omega⟩
  obtain ⟨total, few⟩ : ∃ total, n + n' ≤ total := ⟨_, Nat.le_refl _⟩
  induction total generalizing n n' i i' s s' debt with
  | zero =>
      obtain ⟨rfl, rfl⟩ : n = 0 ∧ n' = 0 := by omega
      exact ⟨[], s', debt, .none fun _ => rfl, beside, by simp [pass]⟩
  | succ total ih =>
      by_cases first : l[i]? = some none
      · obtain ⟨m, rfl, left⟩ := here first ends
        obtain ⟨beside, arrivals⟩ := beside.left turning (row ▸ first)
        obtain ⟨portions, r, debt', takes, ended, arrives⟩ :=
          ih beside ((kept name i s).trans row) row' left ends'
            (by simpa [countP_take first] using place) (by omega)
        rw [pass_succ]
        refine ⟨portions, r, debt', takes, ended, ?_⟩
        rw [← arrives, arrivals, arrivals_flatten, List.append_assoc]
      by_cases second : l'[i']? = some none
      · obtain ⟨m, rfl, left⟩ := here second ends'
        obtain ⟨t, looks, beside⟩ := beside.right turning (row' ▸ second)
        obtain ⟨portions, r, debt', takes, ended, arrives⟩ :=
          ih beside row ((looks.row (kept name' i')).trans row') ends left
            (by simpa [countP_take second] using place) (by omega)
        refine ⟨[[]] ++ portions, r, debt', (looks.trans takes).congr fun _ => pass_succ m i' _,
          ended, ?_⟩
        simpa using arrives
      rcases abreast (row ▸ row' ▸ beside.named) place first second with
        ⟨past, past'⟩ | ⟨k, k', at_i, at_i'⟩
      · have left := List.getElem?_eq_none_iff.1 past
        have left' := List.getElem?_eq_none_iff.1 past'
        obtain ⟨rfl, rfl⟩ : n = 0 ∧ n' = 0 := by omega
        exact ⟨[], s', debt, .none fun _ => rfl, beside, by simp [pass]⟩
      · obtain ⟨m, rfl, left⟩ := here at_i ends
        obtain ⟨m', rfl, left'⟩ := here at_i' ends'
        obtain ⟨looks, t, taken, level, arrived⟩ := beside.both turning (row ▸ at_i) (row' ▸ at_i')
          (by rwa [row, row'])
        obtain ⟨portions, r, debt', takes, ended, arrives⟩ :=
          ih level.beside ((kept name i s).trans row) ((taken.row (kept name' i')).trans row') left
            left' (by simpa [countP_take at_i, countP_take at_i'] using place) (by omega)
        rw [pass_succ]
        refine ⟨looks ++ portions, r, debt', (taken.trans takes).congr fun _ => pass_succ m' i' _,
          ended, ?_⟩
        rw [List.nil_append] at arrives
        rw [arrived, arrives, List.flatten_append]
        simp only [List.append_assoc]

end Pass

section Work
variable {B : Bystanders C} {name name' : Naming} {s s' : Session C}
  {f g f' g' : Session C → Session C}

def Trails (B : Bystanders C) (name name' : Naming) (f g : Session C → Session C)
    (s s' : Session C) : Prop :=
  ∃ portions r debt, Takes g s' portions r ∧ Beside B name name' debt (f s) r ∧
    s.arrivals.flatten = portions.flatten ++ debt ++ (f s).arrivals.flatten

theorem Leads.toTrails (leads : Leads B name name' [] f g s s') : Trails B name name' f g s s' := by
  obtain ⟨portions, r, takes, level, arrives⟩ := leads
  exact ⟨portions, r, [], takes, level.beside, by simpa using arrives⟩

theorem Leads.andTrails (leads : Leads B name name' [] f g s s')
    (trails : ∀ r, Level B name name' (f s) r → Trails B name name' f' g' (f s) r) :
    Trails B name name' (fun s => f' (f s)) (fun s => g' (g s)) s s' := by
  obtain ⟨portions, r, takes, level, arrives⟩ := leads
  obtain ⟨portions', r', debt, takes', beside, arrives'⟩ := trails r level
  refine ⟨portions ++ portions', r', debt, takes.trans takes', beside, ?_⟩
  rw [List.nil_append] at arrives
  rw [arrives, arrives', List.flatten_append]
  simp only [List.append_assoc]

theorem Trails.congr (trails : Trails B name name' f g s s') (left : f' s = f s)
    (right : ∀ arrivals, g' { s' with arrivals := arrivals } = g { s' with arrivals := arrivals }) :
    Trails B name name' f' g' s s' := by
  obtain ⟨portions, r, debt, takes, beside, arrives⟩ := trails
  exact ⟨portions, r, debt, takes.congr right, left ▸ beside, left ▸ arrives⟩

theorem Trails.note (trails : Trails B name name' f g s s') {e : Event C}
    (same : e.glimpse? B name = e.glimpse? B name') :
    Trails B name name' (fun s => (f s).note e) (fun s => (g s).note e) s s' := by
  obtain ⟨portions, r, debt, takes, beside, arrives⟩ := trails
  refine ⟨portions, r.note e, debt, ?_, ?_, arrives⟩
  · have noted : Takes (·.note e) r [] (r.note e) := .none fun _ => rfl
    simpa using takes.trans noted
  · exact Level.write beside [e] [e] (by simp [story, List.filterMap_cons, same])

theorem Trails.collect (trails : Trails B name name' f g s s') :
    Leads B name name' [] (fun s => (f s).collect) (fun s => (g s).collect) s s' := by
  obtain ⟨portions, r, debt, takes, beside, arrives⟩ := trails
  obtain ⟨looks, r', takes', level, arrives'⟩ := beside.collect
  refine ⟨portions ++ looks, r', takes.trans takes', level, ?_⟩
  rw [arrives, List.append_assoc, arrives', List.flatten_append]
  simp

theorem Level.passes {role : Role} {turn : Nat → Session C → Session C}
    (turning : Turning B role turn) (level : Level B name name' s s') :
    Trails B name name' (fun s => pass turn (row role name s).length 0 s)
      (fun s => pass turn (row role name' s).length 0 s) s s' := by
  have trails : Trails B name name' (pass turn (row role name s).length 0)
      (pass turn (row role name' s').length 0) s s' :=
    pass_leads turning level.beside rfl rfl (Nat.zero_add _) (Nat.zero_add _) rfl
  exact trails.congr rfl fun arrivals => by cases role <;> rfl

theorem Level.notify (level : Level B name name' s s') (previous : Snapshot) :
    Trails B name name' (·.notify previous) (·.notify previous) s s' := by
  have passes (name : Naming) (s : Session C) :
      s.notify previous = pass (Session.tell previous) (row .observer name s).length 0 s := by
    rw [Session.notify, List.range_eq_range', row, Role.among, marks, List.length_map]
    rfl
  exact (level.passes (turning_tell B previous)).congr (passes name s) fun arrivals => passes name' _

theorem Level.fire (level : Level B name name' s s') (t : Trigger) :
    Trails B name name' (·.fire t) (·.fire t) s s' := by
  have passes (name : Naming) (s : Session C) : s.fire t =
      pass (Session.sound t) (row .listener name (s.notice (.fired t))).length 0
        (s.notice (.fired t)) := by
    rw [Session.fire, List.range_eq_range', row, Role.among, marks, List.length_map]
    rfl
  have noticed : Leads B name name' [] (·.notice (.fired t)) (·.notice (.fired t)) s s' :=
    .still (level.write [.noticed (.fired t)] [.noticed (.fired t)] rfl) (fun _ => rfl) rfl
  have trails := noticed.andTrails fun r level => level.passes (turning_sound B t)
  exact trails.congr (passes name s) fun arrivals => passes name' _

theorem consult_agrees (B : Bystanders C) (a : Action) (ms : List C.Middleware)
    (snapshot : s.snapshot = s'.snapshot) (world : B.own s.world = B.own s'.world) :
    (consult a ms s).1 = (consult a ms s').1 ∧ (consult a ms s).2.2 = (consult a ms s').2.2 := by
  induction ms generalizing s s' with
  | nil => exact ⟨rfl, rfl⟩
  | cons m ms ih =>
      obtain ⟨passes, client, own, -⟩ := B.consult m a s.snapshot world
      rw [snapshot] at passes client own
      have later (passed : Bool) := @ih
        ((s.note (.consulted m a s'.snapshot passed)).absorb
          (C.consult m a s'.snapshot s.world).toReply)
        ((s'.note (.consulted m a s'.snapshot passed)).absorb
          (C.consult m a s'.snapshot s'.world).toReply)
        (by simpa [Session.note] using snapshot) (by simpa [absorb_world] using own)
      unfold consult
      simp only [snapshot, passes]
      simp only [id] at client
      split
      · exact ⟨by rw [client, (later _).1], (later _).2⟩
      · exact ⟨by rw [client], rfl⟩

theorem consult_cons (a : Action) (m : C.Middleware) (ms : List C.Middleware) (s : Session C) :
    let v := C.consult m a s.snapshot s.world
    let asked := (s.note (.consulted m a s.snapshot v.passes)).absorb v.toReply
    (consult a (m :: ms) s).2.1 = if v.passes then (consult a ms asked).2.1 else asked := by
  intro v asked
  rw [consult]
  cases passes : v.passes <;> simp [v, asked] at passes ⊢ <;> simp [passes]

theorem Level.consult (level : Level B name name' s s') (a : Action) (ms : List C.Middleware) :
    Leads B name name' [] (fun s => (consult a ms s).2.1) (fun s => (Session.consult a ms s).2.1)
      s s' := by
  induction ms generalizing s s' with
  | nil => exact .still level (fun _ => rfl) rfl
  | cons m ms ih =>
      let v := C.consult m a s.snapshot s.world
      let v' := C.consult m a s'.snapshot s'.world
      obtain ⟨passes, alike⟩ : v.passes = v'.passes ∧ v.toReply.Alike B.own id v'.toReply := by
        simp only [v, v', ← level.snapshot]
        exact B.consult m a s.snapshot level.world
      have called := level.call (.consulted m a s.snapshot v.passes)
        (.consulted m a s'.snapshot v'.passes) (by rw [level.snapshot, passes]; rfl) alike
      cases all : v.passes with
      | true =>
          have all' : v'.passes = true := passes ▸ all
          refine (called.trans fun r level => ih level).congr ?_ fun arrivals => ?_
          · rw [consult_cons, if_pos all]
          · rw [consult_cons, if_pos all']
      | false =>
          have all' : v'.passes = false := passes ▸ all
          refine called.congr ?_ fun arrivals => ?_
          · rw [consult_cons, if_neg (by simpa [v] using all)]
          · rw [consult_cons, if_neg (by simpa [v'] using all')]

theorem apply_eq (s : Session C) (a : Action) :
    let asked := { (consult a s.middleware s).2.1 with middleware := (consult a s.middleware s).1 }
    s.apply a = if (consult a s.middleware s).2.2 then (asked.advance a).notify s.snapshot
      else asked.notice (.consumed a) :=
  rfl

theorem Level.advance (level : Level B name name' s s') (a : Action) :
    Leads B name name' [] (·.advance a) (·.advance a) s s' := by
  have applied : Leads B name name' []
      (fun s => { s with snapshot := s.snapshot.reduce a }.note (.applied a))
      (fun s => { s with snapshot := s.snapshot.reduce a }.note (.applied a)) s s' := by
    have written := level.write [.applied a] [.applied a] rfl
    exact .still { written with snapshot := congrArg (·.reduce a) level.snapshot } (fun _ => rfl) rfl
  exact applied.trans fun r level => level.notices a.notices a.notices

theorem Level.apply (level : Level B name name' s s') (a : Action) :
    Trails B name name' (·.apply a) (·.apply a) s s' := by
  let chain := (Session.consult a s.middleware s).1
  have asked := (level.consult a s.middleware).trans fun r level => .still
    (f := fun t => { t with middleware := chain }) (g := fun t => { t with middleware := chain })
    { level with middleware := rfl } (fun _ => rfl) rfl
  -- the other session comes to the same verdict, whatever arrives
  have right (arrivals : List (List Command)) : { s' with arrivals := arrivals }.apply a =
      let asked := { (Session.consult a s.middleware { s' with arrivals := arrivals }).2.1 with
        middleware := chain }
      if (Session.consult a s.middleware s).2.2 then (asked.advance a).notify s.snapshot
      else asked.notice (.consumed a) := by
    obtain ⟨same, passed⟩ : _ ∧ (Session.consult a s.middleware s).2.2 =
        (Session.consult a s.middleware { s' with arrivals := arrivals }).2.2 :=
      consult_agrees B a s.middleware level.snapshot level.world
    rw [apply_eq]
    simp only [chain, ← level.middleware, ← level.snapshot, same, passed]
  cases passed : (Session.consult a s.middleware s).2.2 with
  | true =>
      have advanced := asked.trans fun r level => level.advance a
      refine (advanced.andTrails fun r level => level.notify s.snapshot).congr ?_ fun arrivals => ?_
      · rw [apply_eq, if_pos passed]
      · rw [right, if_pos passed]
  | false =>
      have consumed := asked.trans fun r level => level.notices [.consumed a] [.consumed a]
      refine consumed.toTrails.congr ?_ fun arrivals => ?_
      · rw [apply_eq, if_neg (by simp [passed])]
        rfl
      · rw [right, if_neg (by simp [passed])]
        rfl

theorem Level.perform (level : Level B name name' s s') (w : Work) :
    Trails B name name' (·.perform w) (·.perform w) s s' := by
  have took : Leads B name name' [] (·.note (.took w)) (·.note (.took w)) s s' :=
    .still (level.write [.took w] [.took w] rfl) (fun _ => rfl) rfl
  cases w with
  | action a => exact (took.andTrails fun r level => level.apply a).note rfl
  | trigger t => exact (took.andTrails fun r level => level.fire t).note rfl

theorem Level.drain (level : Level B name name' s s') (bound : Nat) :
    Leads B name name' [] (Session.drain bound) (Session.drain bound) s s' := by
  induction bound generalizing s s' with
  | zero => exact .still level (fun _ => rfl) rfl
  | succ bound ih =>
      have next' : s'.pending = s.pending := level.pending.symm
      cases next : s.pending with
      | nil =>
          have done : Leads B name name' [] id id s s' := .still level (fun _ => rfl) rfl
          refine done.congr (drain_done _ next) fun arrivals => ?_
          exact drain_done _ (next'.trans next)
      | cons w later =>
          have taken : Leads B name name' [] (fun s => { s with pending := later })
              (fun s => { s with pending := later }) s s' :=
            .still { level with pending := rfl } (fun _ => rfl) rfl
          have performed := (taken.andTrails fun r level => level.perform w).collect
          have compacted := performed.trans fun r level => .still (f := Session.compact)
            (g := Session.compact) level.compact (fun _ => rfl) rfl
          refine (compacted.trans fun r level => ih level).congr ?_ fun arrivals => ?_
          · simp only [Session.drain, next]
          · simp only [Session.drain, next', next]

theorem Level.run (level : Level B name name' s s') (bound : Nat) :
    Leads B name name' [] (·.run bound) (·.run bound) s s' := by
  have drained := level.collect.trans fun r level => level.drain bound
  exact drained.trans fun r level => .still level.compact (fun _ => rfl) rfl

theorem Takes.registered {r : Session C} {portions : List (List Command)}
    (takes : Takes f s portions r) (keeps : ∀ s, (f s).registered = s.registered) :
    r.registered = s.registered := by
  have kept := keeps { s with arrivals := portions ++ [] }
  rwa [takes.later] at kept

def greet (id : SubscriberId) (interest : Selector) (client : C.Observer) (s : Session C) :
    Session C :=
  let entry := ⟨s.registered, id, interest, client, true⟩
  let s := { s with registered := s.registered + 1 }.note (.registered .observer s.registered id)
  let (r, s) := s.observe entry
  { s with observers := s.observers ++ [{ entry with client := r.client }] }

theorem Level.greet (level : Level B name name' s s') (id : SubscriberId) (interest : Selector)
    (client : C.Observer) (named : (name s.registered).isSome)
    (same : name s.registered = name' s'.registered) :
    Leads B name name' [] (Session.greet id interest client) (Session.greet id interest client)
      s s' := by
  let r := C.observe client s.snapshot s.world
  let r' := C.observe client s'.snapshot s'.world
  let entry (s : Session C) (client : C.Observer) : Subscription Selector C.Observer :=
    ⟨s.registered, id, interest, client, true⟩
  have alike : r.Alike B.own (hide B.quiet) r' := by
    simp only [r, r', ← level.snapshot]
    exact hide_alike (fun quiet _ _ same => B.observe quiet s.snapshot same)
      (fun quiet w => B.looksOn quiet s.snapshot w) rfl level.world
  have registered : Leads B name name' []
      (fun t => { t with registered := s.registered + 1 }.note
        (.registered .observer s.registered id))
      (fun t => { t with registered := s'.registered + 1 }.note
        (.registered .observer s'.registered id)) s s' := by
    have written := level.write [.registered .observer s.registered id]
      [.registered .observer s'.registered id] rfl
    exact .still { written with } (fun _ => rfl) rfl
  have called := registered.trans fun t level' => level'.call
    (.observed s.registered client s.snapshot) (.observed s'.registered client s'.snapshot)
    (by rw [Event.glimpse?, Event.glimpse?, same, level.snapshot]) alike
  have joins : Matched name name' B.quiet (s.observers ++ [entry s r.client])
      (s'.observers ++ [entry s' r'.client]) :=
    level.observers.append (by simp [Subscription.part?, entry, same, alike.client]) named
      (same ▸ named)
  have joined := called.trans fun t level' => .still
    (f := fun t => { t with observers := s.observers ++ [entry s r.client] })
    (g := fun t => { t with observers := s'.observers ++ [entry s' r'.client] })
    { level' with observers := joins } (fun _ => rfl) rfl
  have greets (s : Session C) (arrivals : List (List Command)) :
      { s with arrivals := arrivals }.greet id interest client =
        { (({ s with arrivals := arrivals, registered := s.registered + 1 }.note
            (.registered .observer s.registered id)).note
            (.observed s.registered client s.snapshot)).absorb
            (C.observe client s.snapshot s.world) with
          observers := s.observers ++
            [⟨s.registered, id, interest, (C.observe client s.snapshot s.world).client, true⟩] } := by
    simp [Session.greet, observe, note]
  exact joined.congr (greets s s.arrivals) fun arrivals => greets s' arrivals

theorem Level.unsubscribe (level : Level B name name' s s') (id : SubscriberId) :
    Leads B name name' [] (Session.unsubscribe id) (Session.unsubscribe id) s s' := by
  let e : Event C := .issued .direct (.unsubscribe id)
  obtain ⟨ns, marked⟩ := deactivate_eq (s.note e) id
  obtain ⟨ns', marked'⟩ := deactivate_eq (s'.note e) id
  refine .still ?_ (fun arrivals => ?_) ?_
  · have written := (level.write [e] [e] rfl).write (ns.map .noticed) (ns'.map .noticed)
      (by rw [story_notices, story_notices])
    have observers := level.observers.afterwards [.unsubscribe id]
    have listeners := level.listeners.afterwards [.unsubscribe id]
    rw [Session.unsubscribe, Session.unsubscribe, marked, marked']
    exact Level.compact { written with observers := observers, listeners := listeners }
  · have same := receives_arrivals (s'.note e) [.unsubscribe id] arrivals
    exact congrArg Session.compact same
  · rw [Session.unsubscribe, marked]
    rfl

theorem Level.listen (level : Level B name name' s s') (id : SubscriberId) (t : Trigger)
    (client : C.Listener) (named : (name s.registered).isSome)
    (same : name s.registered = name' s'.registered) :
    Leads B name name' [] (Session.subscribeTrigger id t client)
      (Session.subscribeTrigger id t client) s s' := by
  let join (s : Session C) : Session C :=
    { { s.compact with registered := s.registered + 1 }.note
        (.registered .listener s.registered id) with
      listeners := s.compact.listeners ++ [⟨s.registered, id, t, client, true⟩] }
  have joined : Leads B name name' [] (fun s => join s.collect) (fun s => join s.collect) s s' := by
    refine level.collect.bind fun portions r takes level => ?_
    have here : s.collect.registered = s.registered := collect_registered s
    have there : r.registered = s'.registered := takes.registered collect_registered
    have written := level.compact.write [.registered .listener s.collect.registered id]
      [.registered .listener r.registered id] rfl
    have joins : Matched name name' B.hushed
        (s.collect.compact.listeners ++ [⟨s.collect.registered, id, t, client, true⟩])
        (r.compact.listeners ++ [⟨r.registered, id, t, client, true⟩]) :=
      level.compact.listeners.append (by simp [Subscription.part?, there, same])
        (by simpa [here] using named) (by simpa [there, ← same] using named)
    exact .still (f := join) (g := join) { written with listeners := joins } (fun _ => rfl) rfl
  exact joined

theorem Level.submit (level : Level B name name' s s') (c : Command) (w : Work) :
    Leads B name name' []
      (fun s => { s.note (.issued .direct c) with pending := s.pending ++ [w] })
      (fun s => { s.note (.issued .direct c) with pending := s.pending ++ [w] }) s s' := by
  have written := level.write [.issued .direct c] [.issued .direct c] rfl
  exact .still { written with pending := congrArg (· ++ [w]) level.pending } (fun _ => rfl) rfl

theorem Level.operate (level : Level B name name' s s') (bound : Nat) (o : Operation C)
    (new : o.wish?.isSome → (name s.registered).isSome ∧ name s.registered = name' s'.registered) :
    Leads B name name' [] (fun s => s.operate bound o) (fun s => s.operate bound o) s s' := by
  cases o with
  | addMiddleware m =>
      have written := level.write [.added m] [.added m] rfl
      exact .still { written with middleware := congrArg (· ++ [m]) level.middleware }
        (fun _ => rfl) rfl
  | subscribe id interest client =>
      obtain ⟨named, same⟩ := new rfl
      have welcomed : Leads B name name' [] (·.welcome id interest client)
          (·.welcome id interest client) s s' :=
        level.collect.bind fun portions r takes level =>
          level.greet id interest client (by rwa [collect_registered])
            (by rwa [collect_registered, takes.registered collect_registered])
      have noticed := welcomed.trans fun r level => level.notices [.subscribed id] [.subscribed id]
      exact noticed.trans fun r level => level.run bound
  | subscribeTrigger id t client =>
      obtain ⟨named, same⟩ := new rfl
      exact level.listen id t client named same
  | unsubscribe id => exact level.unsubscribe id
  | dispatch a => exact (level.submit (.dispatch a) (.action a)).trans fun r level => level.run bound
  | trigger t => exact (level.submit (.trigger t) (.trigger t)).trans fun r level => level.run bound
  | processPending => exact level.run bound
  | send cs => exact level.send cs

theorem Level.serve (level : Level B name name' s s') (c : Call C)
    (new : c.operation.wish?.isSome →
      (name s.registered).isSome ∧ name s.registered = name' s'.registered) :
    ∃ arrivals : List (List Command), arrivals.flatten <+: c.arrivals.flatten ∧
      (arrivals.flatten = [] → arrivals = []) ∧
      Level B name name' (s.serve c) (s'.serve { c with arrivals := arrivals }) := by
  have ready : Level B name name' { s with arrivals := c.arrivals } s' := { level with }
  obtain ⟨portions, r, takes, ended, arrives⟩ := ready.operate c.bound c.operation new
  by_cases nothing : portions.flatten = []
  · have same : s'.serve { c with arrivals := [] } = { r with arrivals := [] } := takes.alone nothing
    refine ⟨[], List.nil_prefix, fun _ => rfl, ?_⟩
    rw [same]
    exact { ended with }
  · have same : s'.serve { c with arrivals := portions } = { r with arrivals := [] } := by
      have later := takes.later []
      rwa [List.append_nil] at later
    refine ⟨portions, ⟨_, arrives.symm⟩, fun none => absurd none nothing, ?_⟩
    rw [same]
    exact { ended with }

end Work
end WalletLoop.Session
