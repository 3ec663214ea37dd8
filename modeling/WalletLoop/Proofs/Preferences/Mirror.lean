import WalletLoop.Proofs.Preferences.Stores
import WalletLoop.Proofs.Session.World
import WalletLoop.Proofs.Snapshot.LastWrite

/-!
# Preferences follow the snapshot

A store that starts from its preferences and saves them when they change can be started again: what
is loaded agrees with the snapshot (`preferences_mirrored`). A preference is written before the action
is applied, so the two agree between pieces of work and not during one.
-/

namespace WalletLoop

def SettingKey.saved : List String :=
  [altCurrencyDisplayed, touchIdEnabled, maxDisplayDigits, defaultCurrencyCode]

def Action.saves : Action → Bool
  | .currency .toggleDisplay | .currency (.setDefault _) | .settings (.setTouchIdEnabled _)
  | .settings (.setMaxDisplayDigits _) => true
  | _ => false

theorem Action.preference?_eq_none {a : Action} (other : a.saves = false) (s : Snapshot) :
    a.preference? s = none := by
  cases a with
  | currency action =>
      cases action with
      | toggleDisplay | setDefault => cases other
      | _ => rfl
  | settings action =>
      cases action with
      | setTouchIdEnabled | setMaxDisplayDigits => cases other
      | _ => rfl
  | _ => rfl

theorem Action.preference?_key {a : Action} {s : Snapshot} {entry : Entry}
    (saves : a.preference? s = some entry) : entry.1 ∈ SettingKey.saved := by
  cases a with
  | currency action =>
      cases action with
      | toggleDisplay | setDefault => cases saves; simp [SettingKey.saved]
      | _ => cases saves
  | settings action =>
      cases action with
      | setTouchIdEnabled | setMaxDisplayDigits => cases saves; simp [SettingKey.saved]
      | _ => cases saves
  | _ => cases saves

/-- What is loaded agrees with what a snapshot would persist, push notifications apart. -/
structure Mirrors (get : Lookup) (s : Snapshot) : Prop where
  alt : (Persisted.load get).1.altCurrencyDisplayed = s.persisted.altCurrencyDisplayed
  touch : (Persisted.load get).1.touchIdEnabled = s.persisted.touchIdEnabled
  digits : (Persisted.load get).1.maxDisplayDigits = s.persisted.maxDisplayDigits
  currency : (Persisted.load get).1.defaultCurrencyCode = s.persisted.defaultCurrencyCode

def Holdable (digits : Int64) : Prop := 0 ≤ digits.toInt ∧ digits.toInt < UInt32.size

theorem persisted_initial {p : Persisted} (holdable : Holdable p.maxDisplayDigits) :
    (Snapshot.initial p).persisted = p := by
  obtain ⟨low, high⟩ := holdable
  have small : p.maxDisplayDigits.toInt.toNat < UInt32.size := by omega
  have digits : p.digits? = some (UInt32.ofNat p.maxDisplayDigits.toInt.toNat) := by
    rw [Persisted.digits?, if_pos ⟨low, high⟩]
  have back : Int64.ofInt (p.digits?.getD 2).toNat = p.maxDisplayDigits := by
    rw [digits, Option.getD_some, UInt32.toNat_ofNat_of_lt' small, Int.toNat_of_nonneg low,
      Int64.ofInt_toInt]
  simp [Snapshot.persisted, Snapshot.initial, back]

theorem mirrors_initial {get : Lookup}
    (range : ∀ n, get SettingKey.maxDisplayDigits = .ok (some (.number n)) → Holdable n) :
    Mirrors get (.initial (Persisted.load get).1) := by
  have holdable : Holdable (Persisted.load get).1.maxDisplayDigits := by
    have two : Holdable 2 := by unfold Holdable; decide
    simp only [Persisted.load, Lookup.number, Lookup.typed]
    cases found : get SettingKey.maxDisplayDigits with
    | error e => exact two
    | ok value =>
        rcases value with _ | ⟨_ | n | _⟩
        · exact two
        · exact two
        · exact range n found
        · exact two
  have same := persisted_initial holdable
  exact ⟨by rw [same], by rw [same], by rw [same], by rw [same]⟩

theorem mirrors_reduce {get : Lookup} {s : Snapshot} (mirrors : Mirrors get s) (a : Action) :
    Mirrors (get.after (a.preference? s)) (s.reduce a) := by
  obtain ⟨alt, touch, digits, currency⟩ := mirrors
  cases a with
  | startup action =>
      cases action with
      | reset =>
          rw [Snapshot.reset_eq]
          exact ⟨alt, touch, digits, currency⟩
      | _ => exact ⟨alt, touch, digits, currency⟩
  | modal action => cases action; exact ⟨alt, touch, digits, currency⟩
  | currency action =>
      cases action with
      | toggleDisplay => exact ⟨rfl, touch, digits, currency⟩
      | setDefault code => exact ⟨alt, touch, digits, rfl⟩
      | _ => exact ⟨alt, touch, digits, currency⟩
  | alert action => cases action <;> exact ⟨alt, touch, digits, currency⟩
  | settings action =>
      cases action with
      | setTouchIdEnabled enabled => exact ⟨alt, rfl, digits, currency⟩
      | setMaxDisplayDigits n => exact ⟨alt, touch, rfl, currency⟩
      | _ => exact ⟨alt, touch, digits, currency⟩
  | _ => exact ⟨alt, touch, digits, currency⟩

section Watchers

variable {S : Services} {C : Clients} {store : S.Store} {works : S.World → Prop}

theorem watch_lookup (reliable : S.Reliable store works) {w : S.World} (working : works w)
    (watcher : Watcher S) (a : Action) (s : Snapshot) :
    works (watcher.watch a s w).world ∧
      (S.lookup store (watcher.watch a s w).world =
          (S.lookup store w).after (a.preference? s) ∨
        watcher ≠ .preferences store ∧
          S.lookup store (watcher.watch a s w).world = S.lookup store w) := by
  cases watcher with
  | log count =>
      have still : (Watcher.watch (.log count : Watcher S) a s w).world = w := by
        unfold Watcher.watch
        dsimp only
        split <;> rfl
      rw [still]
      exact ⟨working, .inr ⟨by simp, rfl⟩⟩
  | preferences other =>
      unfold Watcher.watch
      dsimp only
      cases a.preference? s with
      | none => exact ⟨working, .inl rfl⟩
      | some entry =>
          by_cases same : other = store
          · subst same
            obtain ⟨still, reads⟩ := reliable.set w entry working
            exact ⟨still, .inl reads⟩
          · obtain ⟨still, reads⟩ := reliable.others other w entry same working
            exact ⟨still, .inr ⟨by simpa using same, reads⟩⟩
  | telemetry sink =>
      unfold Watcher.watch
      dsimp only
      cases a.event? with
      | none => exact ⟨working, .inr ⟨by simp, rfl⟩⟩
      | some event =>
          obtain ⟨still, reads⟩ := reliable.reports sink event w working
          exact ⟨still, .inr ⟨by simp, reads⟩⟩

namespace Session

def saver (C : Clients) (store : S.Store) : (C.watched S).Middleware := .inl (.preferences store)

theorem consulted_lookup (reliable : S.Reliable store works) {w : (C.watched S).World}
    (working : works w.1) (m : (C.watched S).Middleware) (a : Action) (s : Snapshot)
    (passes : Bool) :
    let after := ((.consulted m a s passes : Event (C.watched S)).effect w).1
    works after ∧
      (S.lookup store after = (S.lookup store w.1).after (a.preference? s) ∨
        m ≠ saver C store ∧ S.lookup store after = S.lookup store w.1) := by
  cases m with
  | inl watcher =>
      obtain ⟨still, reads⟩ := watch_lookup reliable working watcher a s
      refine ⟨still, reads.imp_right ?_⟩
      rintro ⟨other, same⟩
      exact ⟨fun equal => other (Sum.inl.inj equal), same⟩
  | inr m => exact ⟨working, .inr ⟨Sum.inr_ne_inl, rfl⟩⟩

theorem asked_lookup (reliable : S.Reliable store works) (a : Action) (s : Snapshot)
    (chain : List (C.watched S).Middleware) {w : (C.watched S).World} (working : works w.1) :
    let after := (worldAfter w (chain.map (.consulted · a s true))).1
    works after ∧
      (S.lookup store after = (S.lookup store w.1).after (a.preference? s) ∨
        saver C store ∉ chain ∧ S.lookup store after = S.lookup store w.1) := by
  induction chain generalizing w with
  | nil => exact ⟨working, .inr ⟨by simp, rfl⟩⟩
  | cons m chain ih =>
      obtain ⟨still, first⟩ := consulted_lookup reliable working m a s true
      obtain ⟨atLast, rest⟩ := ih still
      refine ⟨atLast, ?_⟩
      rcases first with saved | ⟨other, same⟩
      · rw [saved, Lookup.after_after] at rest
        exact .inl (rest.elim id (·.2))
      · rw [same] at rest
        refine rest.imp_right ?_
        rintro ⟨absent, same⟩
        exact ⟨by simpa using ⟨other.symm, absent⟩, same⟩

theorem still_lookup (reliable : S.Reliable store works) {events : List (Event (C.watched S))}
    (still : ∀ m a s passes, .consulted m a s passes ∈ events → a.preference? s = none)
    {w : (C.watched S).World} (working : works w.1) :
    works (worldAfter w events).1 ∧
      S.lookup store (worldAfter w events).1 = S.lookup store w.1 := by
  induction events generalizing w with
  | nil => exact ⟨working, rfl⟩
  | cons e events ih =>
      have here : works (e.effect w).1 ∧ S.lookup store (e.effect w).1 = S.lookup store w.1 := by
        cases e with
        | consulted m a s passes =>
            obtain ⟨now, reads⟩ := consulted_lookup reliable working m a s passes
            rw [still m a s passes List.mem_cons_self] at reads
            exact ⟨now, reads.elim id (·.2)⟩
        | _ => exact ⟨working, rfl⟩
      obtain ⟨atLast, same⟩ :=
        ih (fun m a s passes member => still m a s passes (List.mem_cons_of_mem _ member)) here.1
      exact ⟨atLast, same.trans here.2⟩

theorem answers_saver {a : Action} {s : Snapshot} {passes : Bool} {m : (C.watched S).Middleware}
    (answers : Answers a s passes (saver C store) m) : m = saver C store := by
  obtain ⟨w, rfl, -⟩ := answers
  change Sum.inl (Watcher.watch (.preferences store) a s w.1).client = _
  unfold Watcher.watch
  dsimp only
  split <;> rfl

theorem saver_answers {a : Action} {s : Snapshot} {passes : Bool}
    {chain chain' : List (C.watched S).Middleware}
    (answers : List.Forall₂ (Answers a s passes) chain chain') (member : saver C store ∈ chain) :
    saver C store ∈ chain' := by
  obtain ⟨m, there, answer⟩ := answers_mem answers member
  exact answers_saver answer ▸ there

theorem saver_stays {chain chain' : List (C.watched S).Middleware} {s s' : Snapshot}
    {events : List (Event (C.watched S))} (episode : Episode chain s events chain' s')
    (member : saver C store ∈ chain) : saver C store ∈ chain' := by
  cases episode with
  | added m => exact List.mem_append_left _ member
  | greeted | fired => exact member
  | applied _ _ _ a told answers calls => exact saver_answers answers member
  | consumed front front' rest m m' _ a answers holds =>
      rcases List.mem_append.1 member with asked | later
      · exact List.mem_append_left _ (saver_answers answers asked)
      · refine List.mem_append_right _ ?_
        rcases List.mem_cons.1 later with rfl | unasked
        · exact List.mem_cons.2 (.inl (answers_saver holds).symm)
        · exact List.mem_cons_of_mem _ unasked

theorem episode_added {chain chain' : List C.Middleware} {s s' : Snapshot}
    {events : List (Event C)} (episode : Episode chain s events chain' s') {m : C.Middleware}
    (member : .added m ∈ events) : events = [.added m] ∧ m ∈ chain' := by
  cases episode with
  | added _ _ m' =>
      obtain rfl : m = m' := by simpa using member
      simp
  | greeted => simp at member
  | applied _ _ _ a told answers calls =>
      have called : .added m ∈ told := by simpa [questions] using member
      obtain ⟨number, o, same⟩ := calls _ called
      cases same
  | consumed => simp [questions] at member
  | fired _ _ t told calls =>
      have called : .added m ∈ told := by simpa using member
      obtain ⟨number, l, same⟩ := calls _ called
      cases same

structure Faithful (store : S.Store) (works : S.World → Prop) (first : Lookup) (w : S.World)
    (s : Snapshot) : Prop where
  works : works w
  mirrors : Mirrors (S.lookup store w) s
  others : ∀ key ∉ SettingKey.saved, S.lookup store w key = first key

theorem Faithful.still {first : Lookup} {w w' : S.World} {s : Snapshot}
    (faithful : Faithful store works first w s)
    (still : works w' ∧ S.lookup store w' = S.lookup store w) :
    Faithful store works first w' s := by
  obtain ⟨working, same⟩ := still
  refine ⟨working, ?_, ?_⟩
  · rw [same]
    exact faithful.mirrors
  · rw [same]
    exact faithful.others

theorem Faithful.saved {first : Lookup} {w w' : S.World} {s : Snapshot} {a : Action}
    (faithful : Faithful store works first w s) (working : works w')
    (saved : S.lookup store w' = (S.lookup store w).after (a.preference? s)) :
    Faithful store works first w' (s.reduce a) := by
  refine ⟨working, ?_, ?_⟩
  · rw [saved]
    exact mirrors_reduce faithful.mirrors a
  · intro key other
    rw [saved, ← faithful.others key other]
    cases saves : a.preference? s with
    | none => rfl
    | some entry =>
        have apart : key ≠ entry.1 := by
          rintro rfl
          exact other (Action.preference?_key saves)
        exact if_neg apart

theorem faithful_episode (reliable : S.Reliable store works) {first : Lookup}
    {chain chain' : List (C.watched S).Middleware} {s s' : Snapshot}
    {events : List (Event (C.watched S))} (episode : Episode chain s events chain' s')
    (there : ∀ a, .took (.action a) ∈ events → saver C store ∈ chain)
    (passed : ∀ m a shown, .consulted m a shown false ∈ events → a.saves = false)
    {w : (C.watched S).World} (faithful : Faithful store works first w.1 s) :
    Faithful store works first (worldAfter w events).1 s' := by
  cases episode with
  | applied _ _ _ a told answers calls =>
      have member := there a (by simp [questions])
      obtain ⟨working, asked⟩ := asked_lookup reliable a s chain faithful.works
      have saved := asked.resolve_right fun absent => absent.1 member
      have told_calls : ∀ m a' shown passes, .consulted m a' shown passes ∉ told := by
        intro m a' shown passes member
        obtain ⟨number, o, same⟩ := calls _ member
        cases same
      rw [List.append_assoc, worldAfter_append]
      refine (faithful.saved working saved).still (still_lookup reliable ?_ working)
      intro m a' shown passes member
      exact absurd (by simpa using member) (told_calls m a' shown passes)
  | consumed front front' rest m m' _ a answers holds =>
      have other := passed m a s (by simp)
      refine faithful.still (still_lookup reliable ?_ faithful.works)
      intro m' a' shown passes member
      obtain rfl : a' = a := by
        rcases List.mem_append.1 member with asked | last
        · exact (mem_questions.1 asked).2.1
        · obtain ⟨-, same, -⟩ : m' = m ∧ a' = a ∧ shown = s ∧ passes = false := by
            simpa using last
          exact same
      exact Action.preference?_eq_none other shown
  | fired _ _ t told calls =>
      refine faithful.still (still_lookup reliable ?_ faithful.works)
      intro m a shown passes member
      have called : .consulted m a shown passes ∈ told := by simpa using member
      obtain ⟨number, l, same⟩ := calls _ called
      cases same
  | _ => exact faithful.still (still_lookup reliable (by simp) faithful.works)

def Installed (C : Clients) (store : S.Store) (before : List (Event (C.watched S)))
    (e : Event (C.watched S)) : Prop :=
  ∀ a, e = .took (.action a) → .added (saver C store) ∈ before

theorem faithful_course (reliable : S.Reliable store works) {start s : Snapshot}
    {events : List (Event (C.watched S))} {chain : List (C.watched S).Middleware}
    (course : Course start events chain s) {first : Lookup} {w : (C.watched S).World}
    (faithful : Faithful store works first w.1 start) (installed : Each (Installed C store) events)
    (passed : ∀ m a shown, .consulted m a shown false ∈ events → a.saves = false) :
    (.added (saver C store) ∈ events → saver C store ∈ chain) ∧
      Faithful store works first (worldAfter w events).1 s := by
  induction course with
  | new => exact ⟨by simp, faithful⟩
  | @next events more chain chain' s s' before episode ih =>
      obtain ⟨added, sofar⟩ := ih (installed.front rfl) fun m a shown member =>
        passed m a shown (List.mem_append_left _ member)
      refine ⟨?_, ?_⟩
      · intro member
        rcases List.mem_append.1 member with earlier | here
        · exact saver_stays episode (added earlier)
        · exact (episode_added episode here).2
      · rw [worldAfter_append]
        refine faithful_episode reliable episode ?_ ?_ sofar
        · intro a taken
          obtain ⟨front, later, rfl⟩ := List.append_of_mem taken
          have there := installed (events ++ front) (.took (.action a)) later (by simp) a rfl
          rcases List.mem_append.1 there with earlier | here
          · exact added earlier
          · have alone := (episode_added episode (List.mem_append_left _ here)).1
            rw [alone] at taken
            simp at taken
        · intro m a shown member
          exact passed m a shown (List.mem_append_right _ member)

def resumed (store : S.Store) (world : (C.watched S).World)
    (calls : List (Call (C.watched S))) : Session (C.watched S) :=
  ofCalls (.initial (Persisted.load (S.lookup store world.1)).1) world calls

/-- A run that starts from the preferences found in a store that works, and saves them there: a
middleware is there for that before work on an action is begun, and no other middleware consumes an
action that changes a preference. -/
structure Persists (store : S.Store) (works : S.World → Prop) (world : (C.watched S).World)
    (calls : List (Call (C.watched S))) : Prop where
  reliable : S.Reliable store works
  working : works world.1
  range : ∀ n, S.lookup store world.1 SettingKey.maxDisplayDigits = .ok (some (.number n)) →
    Holdable n
  installed : Each (Installed C store) (resumed store world calls).journal
  passed : ∀ m a shown, .consulted m a shown false ∈ (resumed store world calls).journal →
    a.saves = false

theorem installed_first {world : (C.watched S).World} {bound : Nat}
    {arrivals : List (List Command)} {calls later : List (Call (C.watched S))}
    (first : calls = ⟨.addMiddleware (saver C store), bound, arrivals⟩ :: later) :
    Each (Installed C store) (resumed store world calls).journal := by
  let new := start (.new (C.watched S) (.initial (Persisted.load (S.lookup store world.1)).1)) world
  obtain ⟨events, journal, -⟩ :=
    serves_follow (new.serve ⟨.addMiddleware (saver C store), bound, arrivals⟩) later
  have begins : (resumed store world calls).journal = .added (saver C store) :: events := by
    rw [first]
    exact journal
  intro before e after parts a same
  rw [begins] at parts
  cases before with
  | nil =>
      obtain ⟨rfl, -⟩ : .added (saver C store) = e ∧ events = after := by simpa using parts
      cases same
  | cons first before =>
      obtain ⟨rfl, -⟩ : .added (saver C store) = first ∧ events = before ++ e :: after := by
        simpa using parts
      exact List.mem_cons_self

theorem held_resumed {world : (C.watched S).World} {calls : List (Call (C.watched S))}
    {m : (C.watched S).Middleware} {a : Action} {shown : Snapshot}
    (member : .consulted m a shown false ∈ (resumed store world calls).journal) :
    ∃ m' w, m = .inr m' ∧ (C.consult m' a shown w).passes = false := by
  have onCourse :=
    onCourse_ofCalls (.initial (Persisted.load (S.lookup store world.1)).1) world calls
  obtain ⟨-, w, -, held⟩ := consulted_answers onCourse (List.mem_filter.2 ⟨member, rfl⟩)
  cases m with
  | inl watcher => cases held
  | inr m => exact ⟨m, w.2, rfl, held⟩

theorem unattended_passes {world : (unattended.watched S).World}
    {calls : List (Call (unattended.watched S))} (m : (unattended.watched S).Middleware)
    (a : Action) (shown : Snapshot) :
    .consulted m a shown false ∉ (resumed store world calls).journal := by
  intro member
  obtain ⟨m', -⟩ := held_resumed member
  exact m'.elim

theorem Persists.faithful {world : (C.watched S).World} {calls : List (Call (C.watched S))}
    (persists : Persists store works world calls) :
    Faithful store works (S.lookup store world.1) (resumed store world calls).world.1
      (resumed store world calls).snapshot := by
  obtain ⟨reliable, working, range, installed, passed⟩ := persists
  have first : Faithful store works (S.lookup store world.1) world.1
      (.initial (Persisted.load (S.lookup store world.1)).1) :=
    ⟨working, mirrors_initial range, fun _ _ => rfl⟩
  have all := faithful_course reliable (onCourse_ofCalls _ world calls) first
    (each_course ?_ installed) ?_
  · rw [worldAfter_course] at all
    rw [resumed, world_ofCalls]
    exact all.2
  · intro before e fit a same
    exact List.mem_filter.2 ⟨fit a same, rfl⟩
  · intro m a shown member
    exact passed m a shown (List.mem_of_mem_filter member)

/-- After any calls, what is loaded agrees with the snapshot on every setting that is saved, and
nothing else that was found in the store at first has changed. -/
theorem preferences_mirrored {world : (C.watched S).World} {calls : List (Call (C.watched S))}
    (persists : Persists store works world calls) :
    let s := resumed store world calls
    let found := (Persisted.load (S.lookup store s.world.1)).1
    found.altCurrencyDisplayed = s.snapshot.persisted.altCurrencyDisplayed ∧
      found.touchIdEnabled = s.snapshot.persisted.touchIdEnabled ∧
      found.maxDisplayDigits = s.snapshot.persisted.maxDisplayDigits ∧
      found.defaultCurrencyCode = s.snapshot.persisted.defaultCurrencyCode ∧
      ∀ key ∉ SettingKey.saved, S.lookup store s.world.1 key = S.lookup store world.1 key := by
  obtain ⟨-, ⟨alt, touch, digits, currency⟩, others⟩ := persists.faithful
  exact ⟨alt, touch, digits, currency, others⟩

end Session
end Watchers

namespace Session

def saving (a : Action) : List (Call (unattended.watched Surroundings.services)) :=
  [⟨.addMiddleware (saver unattended (0 : Nat)), 0, []⟩, ⟨.dispatch a, 2, []⟩]

open Surroundings in
theorem saving_persists (a : Action) : Persists (0 : Nat) (Works 0) (blank, ()) (saving a) where
  reliable := reliable 0
  working := blank_works
  range := by
    intro n found
    cases found
  installed := installed_first rfl
  passed := fun m a shown member => absurd member (unattended_passes m a shown)

open Surroundings in
theorem toggle_mirrored :
    let s := resumed (S := services) (0 : Nat) (blank, ()) (saving (.currency .toggleDisplay))
    Persists (0 : Nat) (Works 0) (blank, ()) (saving (.currency .toggleDisplay)) ∧
      s.snapshot.persisted.altCurrencyDisplayed = true ∧
      (Persisted.load (lookup 0 s.world.1)).1.altCurrencyDisplayed =
        s.snapshot.persisted.altCurrencyDisplayed := by
  have persists := saving_persists (.currency .toggleDisplay)
  exact ⟨persists, rfl, (preferences_mirrored persists).1⟩

end Session
end WalletLoop
