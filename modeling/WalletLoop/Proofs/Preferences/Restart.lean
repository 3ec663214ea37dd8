import WalletLoop.Proofs.Preferences.Mirror
import WalletLoop.Proofs.Session.Dispatch

namespace WalletLoop

def restarted (get : Lookup) : Snapshot :=
  { Snapshot.initial (Persisted.load get).1 with loginRequired := false }

theorem persisted_of_mirrors {get : Lookup} {s : Snapshot} (mirrors : Mirrors get s) :
    s.persisted = { (Persisted.load get).1 with
      pushNotificationsEnabled := s.pushNotificationsEnabled } := by
  obtain ⟨alt, touch, digits, currency⟩ := mirrors
  dsimp only
  rw [alt, touch, digits, currency]
  rfl

theorem read_restarted {get : Lookup} {s : Snapshot} (mirrors : Mirrors get s) {f : Field}
    (other : f ≠ .pushNotificationsEnabled) :
    f.read (s.reduce (.startup .reset)) = f.read (restarted get) := by
  have reset : s.reduce (.startup .reset) =
      { Snapshot.initial s.persisted with loginRequired := false } := rfl
  rw [reset, persisted_of_mirrors mirrors]
  cases f with
  | pushNotificationsEnabled => exact absurd rfl other
  | _ => rfl

theorem reset_eq_restarted {get : Lookup} {s : Snapshot} (mirrors : Mirrors get s) :
    s.reduce (.startup .reset) = restarted get ↔
      s.pushNotificationsEnabled = (Persisted.load get).1.pushNotificationsEnabled := by
  constructor
  · intro same
    exact congrArg Snapshot.pushNotificationsEnabled same
  · intro same
    refine Field.ext_read fun f => ?_
    by_cases other : f = .pushNotificationsEnabled
    · subst other
      exact same
    · exact read_restarted mirrors other

namespace Session

section Run

variable {S : Services} {C : Clients} {store : S.Store} {works : S.World → Prop}

theorem folded_resumed (store : S.Store) (world : (C.watched S).World)
    (calls : List (Call (C.watched S))) :
    Folded (.initial (Persisted.load (S.lookup store world.1)).1) (resumed store world calls) :=
  folded_ofCalls _ world calls

theorem resumed_concat (store : S.Store) (world : (C.watched S).World)
    (calls : List (Call (C.watched S))) (c : Call (C.watched S)) :
    resumed store world (calls ++ [c]) = (resumed store world calls).serve c :=
  ofCalls_concat _ world calls c

theorem pushNotificationsEnabled_resumed (store : S.Store) (world : (C.watched S).World)
    (calls : List (Call (C.watched S))) :
    (resumed store world calls).snapshot.pushNotificationsEnabled =
      (lastWrite? (applied (resumed store world calls).journal) .pushNotificationsEnabled).getD
        (Persisted.load (S.lookup store world.1)).1.pushNotificationsEnabled := by
  rw [(folded_resumed store world calls).snapshot]
  exact Snapshot.read_fold _ _ (f := .pushNotificationsEnabled) (by decide)

/-- A reset after a run gives what a restart would give, field by field, but for push notifications:
these stay as an action has set them last, while a restart finds them as they were at first. The two
snapshots are the same exactly if that is no difference. If nothing was pending, the reset is the
first action that is applied once it has been dispatched, and anything else comes after. -/
theorem reset_restarts {world : (C.watched S).World} {calls : List (Call (C.watched S))}
    (persists : Persists store works world calls) :
    let s := resumed store world calls
    let reset := s.snapshot.reduce (.startup .reset)
    let restart := restarted (S.lookup store s.world.1)
    (∀ f : Field, f ≠ .pushNotificationsEnabled → f.read reset = f.read restart) ∧
      (reset = restart ↔
        ∀ enabled, lastWrite? (applied s.journal) .pushNotificationsEnabled = some enabled →
          enabled = (Persisted.load (S.lookup store world.1)).1.pushNotificationsEnabled) ∧
      (s.pending = [] → ∀ bound arrivals,
        let next := s.serve ⟨.dispatch (.startup .reset), bound + 1, arrivals⟩
        (∀ m shown, .consulted m (.startup .reset) shown false ∉ next.journal) →
          ∃ later, applied next.journal = applied s.journal ++ .startup .reset :: later ∧
            next.snapshot = later.foldl Snapshot.reduce reset) := by
  intro s reset restart
  have faithful : Faithful store works (S.lookup store world.1) s.world.1 s.snapshot :=
    persists.faithful
  refine ⟨fun f => read_restarted faithful.mirrors, ?_, ?_⟩
  · have token : (Persisted.load (S.lookup store s.world.1)).1.pushNotificationsEnabled =
        (Persisted.load (S.lookup store world.1)).1.pushNotificationsEnabled := by
      have unsaved : SettingKey.pushToken ∉ SettingKey.saved := by decide
      simp only [Persisted.load, Lookup.text, Lookup.typed, faithful.others _ unsaved]
    have present := pushNotificationsEnabled_resumed store world calls
    rw [reset_eq_restarted faithful.mirrors, token, present]
    cases lastWrite? (applied (resumed store world calls).journal) .pushNotificationsEnabled with
    | none => simp
    | some enabled => simp
  · intro idle bound arrivals next passes
    obtain ⟨later, actions⟩ := dispatch_applies idle (.startup .reset) bound arrivals passes
    have now := (folded_resumed store world calls).snapshot
    have after := folded_resumed store world
      (calls ++ [⟨.dispatch (.startup .reset), bound + 1, arrivals⟩])
    rw [resumed_concat] at after
    refine ⟨later, actions, after.snapshot.trans ?_⟩
    rw [actions, List.foldl_append, ← now]
    rfl

end Run

open Surroundings in
theorem toggle_restarts :
    let calls := saving (.currency .toggleDisplay)
    let s := resumed (S := services) (0 : Nat) (blank, ()) calls
    let next := s.serve ⟨.dispatch (.startup .reset), 2, []⟩
    Persists (0 : Nat) (Works 0) (blank, ()) calls ∧ s.pending = [] ∧
      (∀ m a shown, .consulted m a shown false ∉ next.journal) ∧
      s.snapshot.reduce (.startup .reset) = restarted (lookup 0 s.world.1) ∧
      ∃ later, applied next.journal = applied s.journal ++ .startup .reset :: later := by
  intro calls s next
  have persists : Persists (0 : Nat) (Works 0) (blank, ()) calls := saving_persists _
  have passes : ∀ m a shown, .consulted m a shown false ∉ next.journal := by
    have again : next = resumed (S := services) (0 : Nat) (blank, ())
        (calls ++ [⟨.dispatch (.startup .reset), 2, []⟩]) := (resumed_concat _ _ _ _).symm
    rw [again]
    exact unattended_passes
  have unwritten : lastWrite? (applied s.journal) .pushNotificationsEnabled = none := rfl
  obtain ⟨-, same, first⟩ := reset_restarts persists
  obtain ⟨later, actions, -⟩ := first rfl 1 [] fun m => passes m _
  refine ⟨persists, rfl, passes, same.2 ?_, later, actions⟩
  intro enabled written
  rw [unwritten] at written
  cases written

open Surroundings in
theorem push_forgotten :
    let calls := saving (.settings (.setPushNotificationsEnabled true))
    let s := resumed (S := services) (0 : Nat) (blank, ()) calls
    let next := s.serve ⟨.dispatch (.startup .reset), 2, []⟩
    Persists (0 : Nat) (Works 0) (blank, ()) calls ∧ s.pending = [] ∧ s.channel = [] ∧
      (∀ m a shown, .consulted m a shown false ∉ next.journal) ∧
      next.pending = [] ∧ next.channel = [] ∧
      next.snapshot ≠ restarted (lookup 0 s.world.1) := by
  intro calls s next
  refine ⟨saving_persists _, rfl, rfl, ?_, rfl, rfl, ?_⟩
  · have again : next = resumed (S := services) (0 : Nat) (blank, ())
        (calls ++ [⟨.dispatch (.startup .reset), 2, []⟩]) := (resumed_concat _ _ _ _).symm
    rw [again]
    exact unattended_passes
  · intro same
    have enabled : true = false := congrArg Snapshot.pushNotificationsEnabled same
    cases enabled

end Session
end WalletLoop
