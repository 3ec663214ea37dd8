import WalletLoop.Proofs.Preferences.Refinement

namespace WalletLoop

inductive Change where
  | set (key : String) (value : Preference)
  | remove (key : String)

namespace Change

def key : Change → String
  | set key _ | remove key => key

def value? : Change → Option Preference
  | set _ value => some value
  | remove _ => none

def apply (t : PreferenceTable) : Change → PreferenceTable
  | set key value => t.insert key value
  | remove key => t.erase key

def Saves (t : PreferenceTable) : Change → Prop
  | set _ _ => True
  | remove key => (t.get? key).isSome

instance (t : PreferenceTable) : DecidablePred (Saves t)
  | set _ _ => inferInstanceAs (Decidable True)
  | remove key => inferInstanceAs (Decidable ((t.get? key).isSome = true))

theorem get?_apply (c : Change) (t : PreferenceTable) (k : String) :
    (c.apply t).get? k = if k = c.key then c.value? else t.get? k := by
  cases c with
  | set key value => exact t.get?_insert key k value
  | remove key => exact t.get?_erase key k

theorem apply_of_not_saves {c : Change} {t : PreferenceTable} (idle : ¬ c.Saves t) :
    c.apply t = t := by
  cases c with
  | set key value => exact absurd trivial idle
  | remove key => exact PreferenceTable.erase_of_get? (by simpa [Saves] using idle)

end Change

structure Attempt where
  files : Files
  change : Change

/-- Two trees have the same at a path, as far as opening a preference file can tell. -/
structure Files.SameAt (path : String) (fs fs' : Files) : Prop where
  there : fs'.isThere path = fs.isThere path
  text : fs'.readText path = fs.readText path

def Files.Gives (fs : Files) (path : String) (t : PreferenceTable) : Prop :=
  ∃ notice, PreferenceFile.open fs path = .ok (⟨path, t⟩, notice)

namespace Files
variable {fs fs' : Files} {path : String} {t t' : PreferenceTable}

theorem Gives.sameAt (gives : fs.Gives path t) (same : fs.SameAt path fs') :
    fs'.Gives path t := by
  obtain ⟨notice, opened⟩ := gives
  refine ⟨notice, ?_⟩
  rw [← opened]
  simp only [PreferenceFile.open, same.there, same.text]

theorem Gives.unique (gives : fs.Gives path t) (gives' : fs.Gives path t') : t = t' := by
  obtain ⟨notice, opened⟩ := gives
  obtain ⟨notice', opened'⟩ := gives'
  rw [opened] at opened'
  cases opened'
  rfl

end Files

namespace PreferenceFile

def change (f : PreferenceFile) (fs : Files) : Change → Saving PreferenceFile
  | .set key value => f.set fs key value
  | .remove key => f.remove fs key

variable {f : PreferenceFile} {fs : Files} {c : Change}

theorem change_saves (saves : c.Saves f.table) (fs : Files) :
    f.change fs c = saved ⟨f.path, c.apply f.table⟩ fs := by
  cases c with
  | set key value => rfl
  | remove key => exact if_pos saves

theorem change_idle (idle : ¬ c.Saves f.table) (fs : Files) :
    f.change fs c = ⟨f, fs, .ok (), []⟩ := by
  cases c with
  | set key value => exact absurd trivial idle
  | remove key => exact if_neg idle

theorem saved_store (f : PreferenceFile) (fs : Files) : (f.saved fs).store = f := by
  unfold saved
  split <;> rfl

theorem change_store (f : PreferenceFile) (fs : Files) (c : Change) :
    (f.change fs c).store = ⟨f.path, c.apply f.table⟩ := by
  by_cases saves : c.Saves f.table
  · rw [change_saves saves, saved_store]
  · rw [change_idle saves, Change.apply_of_not_saves saves]

theorem saved_gives (ok : (f.saved fs).result = .ok ()) : (f.saved fs).files.Gives f.path f.table := by
  unfold saved at ok ⊢
  cases save : f.save fs with
  | mk result fs' =>
      rw [save] at ok
      cases result with
      | error e => cases ok
      | ok _ => exact ⟨_, ((open_save f).2.2 fs fs' save).2⟩

theorem change_gives (saves : c.Saves f.table) (ok : (f.change fs c).result = .ok ()) :
    (f.change fs c).files.Gives f.path (c.apply f.table) := by
  rw [change_saves saves] at ok ⊢
  exact saved_gives ok

def attempt (f : PreferenceFile) (a : Attempt) : Saving PreferenceFile := f.change a.files a.change

def afterwards (f : PreferenceFile) (attempts : List Attempt) : PreferenceFile :=
  attempts.foldl (fun f a => (f.attempt a).store) f

def leaves (f : PreferenceFile) (fs : Files) : List Attempt → Files
  | [] => fs
  | a :: rest => leaves (f.attempt a).store (f.attempt a).files rest

def written (f : PreferenceFile) (t : PreferenceTable) : List Attempt → PreferenceTable
  | [] => t
  | a :: rest =>
    written (f.attempt a).store
      (if a.change.Saves f.table ∧ (f.attempt a).result = .ok () then (f.attempt a).store.table else t)
      rest

def writings (f : PreferenceFile) : List Attempt → List (Except PreferenceError Unit)
  | [] => []
  | a :: rest =>
    (if a.change.Saves f.table then [(f.attempt a).result] else []) ++ writings (f.attempt a).store rest

/-- Nobody else changes what stands at the path, and a call that fails leaves it as it was. -/
def Sole (f : PreferenceFile) (fs : Files) : List Attempt → Prop
  | [] => True
  | a :: rest =>
    fs.SameAt f.path a.files ∧
      ((f.attempt a).result ≠ .ok () → a.files.SameAt f.path (f.attempt a).files) ∧
      Sole (f.attempt a).store (f.attempt a).files rest

theorem attempt_store (f : PreferenceFile) (a : Attempt) :
    (f.attempt a).store = ⟨f.path, a.change.apply f.table⟩ := change_store f a.files a.change

theorem afterwards_path (f : PreferenceFile) (attempts : List Attempt) :
    (f.afterwards attempts).path = f.path := by
  induction attempts generalizing f with
  | nil => rfl
  | cons a rest ih => exact (ih (f.attempt a).store).trans (by rw [attempt_store])

theorem leaves_concat (f : PreferenceFile) (fs : Files) (attempts : List Attempt) (last : Attempt) :
    f.leaves fs (attempts ++ [last]) = ((f.afterwards attempts).attempt last).files := by
  induction attempts generalizing f fs with
  | nil => rfl
  | cons a rest ih => exact ih (f.attempt a).store (f.attempt a).files

theorem written_concat (f : PreferenceFile) (t : PreferenceTable) (attempts : List Attempt)
    (last : Attempt) :
    f.written t (attempts ++ [last]) =
      (f.afterwards attempts).written (f.written t attempts) [last] := by
  induction attempts generalizing f t with
  | nil => rfl
  | cons a rest ih => exact ih (f.attempt a).store _

theorem attempt_gives {a : Attempt} {t : PreferenceTable} (gives : a.files.Gives f.path t)
    (left : (f.attempt a).result ≠ .ok () → a.files.SameAt f.path (f.attempt a).files) :
    (f.attempt a).files.Gives f.path (f.written t [a]) := by
  simp only [written]
  split
  · rename_i wrote
    obtain ⟨saves, ok⟩ := wrote
    rw [attempt_store]
    exact change_gives saves ok
  · rename_i unwritten
    by_cases saves : a.change.Saves f.table
    · exact gives.sameAt (left fun ok => unwritten ⟨saves, ok⟩)
    · rw [attempt, change_idle saves]
      exact gives

theorem leaves_gives {attempts : List Attempt} {t : PreferenceTable} (gives : fs.Gives f.path t)
    (sole : f.Sole fs attempts) :
    (f.leaves fs attempts).Gives f.path (f.written t attempts) := by
  induction attempts generalizing f fs t with
  | nil => exact gives
  | cons a rest ih =>
      obtain ⟨same, left, sole⟩ := sole
      have step := attempt_gives (gives.sameAt same) left
      have path : (f.attempt a).store.path = f.path := by rw [attempt_store]
      rw [← path] at step ⊢
      exact ih step sole

theorem written_eq_of_settled {attempts : List Attempt} {t : PreferenceTable}
    (settled : ∀ result ∈ (f.writings attempts).getLast?, result = .ok ())
    (start : f.writings attempts = [] → t = f.table) :
    f.written t attempts = (f.afterwards attempts).table := by
  induction attempts generalizing f t with
  | nil => exact start rfl
  | cons a rest ih =>
      have later (known : (f.attempt a).store.writings rest = [] →
            (f.written t [a]) = (f.attempt a).store.table)
          (still : ∀ result ∈ ((f.attempt a).store.writings rest).getLast?, result = .ok ()) :
          f.written t (a :: rest) = (f.afterwards (a :: rest)).table := ih still known
      by_cases saves : a.change.Saves f.table
      · simp only [writings, if_pos saves, List.singleton_append, List.getLast?_cons,
          Option.mem_some_iff, forall_eq'] at settled
        refine later (fun none => ?_) fun result last => ?_
        · rw [none] at settled
          exact if_pos ⟨saves, settled⟩
        · rw [Option.mem_def.1 last] at settled
          exact settled
      · simp only [writings, if_neg saves, List.nil_append] at settled start
        refine later (fun none => ?_) settled
        have unwritten : f.written t [a] = t := if_neg fun wrote => saves wrote.1
        rw [unwritten, start none, attempt_store, Change.apply_of_not_saves saves]

/-- A call that succeeds leaves the table of the memory in the file if it has written it, or if the
file holds it already: so always where the last writing before it did not fail. -/
theorem success_durable_iff {attempts : List Attempt} {last : Attempt}
    (opened : fs.Gives f.path f.table) (sole : f.Sole fs (attempts ++ [last]))
    (ok : ((f.afterwards attempts).attempt last).result = .ok ()) :
    let before := f.afterwards attempts
    let r := before.attempt last
    let onFile := f.written f.table attempts
    (r.files.Gives f.path r.store.table ↔ last.change.Saves before.table ∨ onFile = before.table) ∧
      ((∀ result ∈ (f.writings attempts).getLast?, result = .ok ()) →
        r.files.Gives f.path r.store.table) ∧
      ∀ key, last.change = .remove key → r.store.table.get? key = none ∧
        ∃ t, r.files.Gives f.path t ∧
          (t.get? key = none ↔ last.change.Saves before.table ∨ onFile.get? key = none) := by
  intro before r onFile
  have gives := leaves_gives opened sole
  rw [leaves_concat, written_concat] at gives
  have memory : r.store = ⟨before.path, last.change.apply before.table⟩ :=
    attempt_store before last
  by_cases saves : last.change.Saves before.table
  · -- the call has written the table itself
    have wrote : before.written onFile [last] = r.store.table := if_pos ⟨saves, ok⟩
    rw [wrote] at gives
    refine ⟨iff_of_true gives (.inl saves), fun _ => gives, ?_⟩
    rintro key removed
    have gone : r.store.table.get? key = none := by
      rw [memory, Change.get?_apply, removed]
      exact if_pos rfl
    exact ⟨gone, _, gives, iff_of_true gone (.inl saves)⟩
  · -- there was nothing to write, so the file is as the last writing left it
    have unwritten : before.written onFile [last] = onFile := if_neg fun wrote => saves wrote.1
    have same : r.store.table = before.table := by
      rw [memory]
      exact Change.apply_of_not_saves saves
    rw [unwritten] at gives
    rw [same]
    have durable : r.files.Gives f.path before.table ↔ onFile = before.table :=
      ⟨gives.unique, fun held => held ▸ gives⟩
    refine ⟨durable.trans (by simp [saves]), fun settled => durable.2 ?_, ?_⟩
    · exact written_eq_of_settled settled fun _ => rfl
    · intro key removed
      have gone : before.table.get? key = none := by
        rw [removed] at saves
        simpa [Change.Saves] using saves
      exact ⟨gone, _, gives, by simp [saves]⟩

def fresh : PreferenceFile := ⟨"p", .empty⟩

theorem fresh_gives : Files.empty.Gives fresh.path fresh.table := ⟨.noFile "p", rfl⟩

def refusing (fs : Files) : Files := { fs with faults := [some .notDirectory] }

def flagged : Saving PreferenceFile := fresh.change .empty (.set "k" (.flag true))

def unremoved : List Attempt :=
  [⟨.empty, .set "k" (.flag true)⟩, ⟨refusing flagged.files, .remove "k"⟩]

theorem unremoved_sole {last : Attempt} (same : flagged.files.SameAt "p" last.files)
    (ok : ((fresh.afterwards unremoved).attempt last).result = .ok ()) :
    fresh.Sole .empty (unremoved ++ [last]) := by
  refine ⟨⟨rfl, rfl⟩, fun failed => absurd rfl failed, ⟨rfl, rfl⟩, fun _ => ⟨rfl, rfl⟩, ?_⟩
  exact ⟨⟨same.there, same.text⟩, fun failed => absurd ok failed, trivial⟩

theorem unremoved_written :
    let last : Attempt := ⟨flagged.files, .set "j" (.number 1)⟩
    let r := (fresh.afterwards unremoved).attempt last
    Files.empty.Gives fresh.path fresh.table ∧ fresh.Sole .empty (unremoved ++ [last]) ∧
      r.result = .ok () ∧ r.files.Gives "p" (PreferenceTable.empty.insert "j" (.number 1)) := by
  intro last r
  -- setting another key writes the table, the flag is not in it any more
  have sole : fresh.Sole .empty (unremoved ++ [last]) := unremoved_sole ⟨rfl, rfl⟩ rfl
  exact ⟨fresh_gives, sole, rfl, (success_durable_iff fresh_gives sole rfl).1.2 (.inl trivial)⟩

theorem removed_still_there :
    let last : Attempt := ⟨flagged.files, .remove "k"⟩
    let r := (fresh.afterwards unremoved).attempt last
    Files.empty.Gives fresh.path fresh.table ∧ fresh.Sole .empty (unremoved ++ [last]) ∧
      r.result = .ok () ∧ r.store.table.get? "k" = none ∧
      r.files.Gives "p" (PreferenceTable.empty.insert "k" (.flag true)) ∧
      ¬ r.files.Gives "p" r.store.table := by
  intro last r
  have sole : fresh.Sole .empty (unremoved ++ [last]) := unremoved_sole ⟨rfl, rfl⟩ rfl
  have gives : r.files.Gives "p" (PreferenceTable.empty.insert "k" (.flag true)) :=
    leaves_gives fresh_gives sole
  refine ⟨fresh_gives, sole, rfl, rfl, gives, fun durable => ?_⟩
  have lost : some (Preference.flag true) = none :=
    congrArg (PreferenceTable.get? · "k") (gives.unique durable)
  cases lost

theorem change_failed {e : PreferenceError} (failed : (f.change fs c).result = .error e) :
    c.Saves f.table ∧ ∃ cause, e = .access cause := by
  by_cases saves : c.Saves f.table
  · refine ⟨saves, ?_⟩
    rw [change_saves saves, saved] at failed
    split at failed
    · cases failed
    · cases failed
      exact ⟨_, rfl⟩
  · rw [change_idle saves] at failed
    cases failed

theorem afterwards_get? {attempts : List Attempt} {key : String}
    (others : ∀ a ∈ attempts, a.change.key ≠ key) :
    (f.afterwards attempts).table.get? key = f.table.get? key := by
  induction attempts generalizing f with
  | nil => rfl
  | cons a rest ih =>
      obtain ⟨other, others⟩ := List.forall_mem_cons.1 others
      calc (f.afterwards (a :: rest)).table.get? key
        _ = (f.attempt a).store.table.get? key := ih others
        _ = f.table.get? key := by rw [attempt_store, Change.get?_apply, if_neg other.symm]

theorem get_congr {lookup lookup' : Lookup} {key : String} (same : lookup key = lookup' key)
    (kind : Option PreferenceKind) : Scene.get lookup key kind = Scene.get lookup' key kind := by
  cases kind with
  | none => exact same
  | some kind =>
      cases kind <;>
        simp only [Scene.get, Lookup.flag, Lookup.number, Lookup.text, Lookup.typed, same]

/-- A call fails when the table cannot be written. In memory it has had its effect all the same, and
other keys are read as before. The next writing carries the effect to the file. -/
theorem failure_kept {e : PreferenceError} (failed : (f.change fs c).result = .error e) :
    let kept := (f.change fs c).store
    c.Saves f.table ∧ (∃ cause, e = .access cause) ∧
      (∀ fs', (f.change fs' c).store = kept) ∧ kept.table.get? c.key = c.value? ∧
      (∀ key ≠ c.key, ∀ kind, Scene.get (PreferenceStore.file kept).lookup key kind =
        Scene.get (PreferenceStore.file f).lookup key kind) ∧
      ∀ attempts last, (∀ a ∈ attempts ++ [last], a.change.key ≠ c.key) →
        let before := kept.afterwards attempts
        let r := before.attempt last
        last.change.Saves before.table → r.result = .ok () →
          ∃ t, r.files.Gives f.path t ∧ t.get? c.key = c.value? := by
  intro kept
  obtain ⟨saves, access⟩ := change_failed failed
  have memory : kept = ⟨f.path, c.apply f.table⟩ := change_store f fs c
  have own : kept.table.get? c.key = c.value? := by
    rw [memory, Change.get?_apply, if_pos rfl]
  refine ⟨saves, access, fun fs' => ?_, own, fun key other kind => ?_, ?_⟩
  · rw [change_store, memory]
  · apply get_congr
    simp only [PreferenceStore.lookup, memory, Change.get?_apply, if_neg other]
  · intro attempts last others before r writes ok
    have kept_path : before.path = f.path := by rw [afterwards_path, memory]
    have untouched : (last.change.apply before.table).get? c.key = kept.table.get? c.key := by
      have other : last.change.key ≠ c.key := others last (by simp)
      rw [Change.get?_apply, if_neg other.symm]
      exact afterwards_get? fun a member => others a (List.mem_append_left _ member)
    exact ⟨_, kept_path ▸ change_gives writes ok, untouched.trans own⟩

def refused : Saving PreferenceFile := flagged.store.change (refusing flagged.files) (.remove "k")

def alsoRefused : List Attempt := [⟨refusing flagged.files, .set "j" (.number 1)⟩]

def accepted : Attempt := ⟨flagged.files, .set "i" (.text "v")⟩

theorem accepted_ok : ((refused.store.afterwards alsoRefused).attempt accepted).result = .ok () :=
  rfl

theorem refused_kept :
    refused.result = .error (.access .notDirectory) ∧
      (∀ a ∈ alsoRefused ++ [accepted], a.change.key ≠ "k") ∧
      ∃ t, ((refused.store.afterwards alsoRefused).attempt accepted).files.Gives "p" t ∧
        t.get? "k" = none := by
  have failed : refused.result = .error (.access .notDirectory) := rfl
  have others : ∀ a ∈ alsoRefused ++ [accepted], a.change.key ≠ "k" := by
    simp [alsoRefused, accepted, Change.key]
  have later := (failure_kept failed).2.2.2.2.2 alsoRefused accepted others trivial accepted_ok
  exact ⟨failed, others, later⟩

def unwritten : Saving PreferenceFile := fresh.change (refusing .empty) (.set "k" (.flag true))

theorem unwritten_read :
    let next := unwritten.store.change .empty (.set "j" (.number 1))
    (PreferenceStore.file fresh).lookup "k" = .ok none ∧
      unwritten.result = .error (.access .notDirectory) ∧
      (PreferenceStore.file unwritten.store).lookup "k" = .ok (some (.flag true)) ∧
      next.result = .ok () ∧ ∃ t, next.files.Gives "p" t ∧ t.get? "k" = some (.flag true) := by
  intro next
  have ok : (unwritten.store.change .empty (.set "j" (.number 1))).result = .ok () := rfl
  have gives : next.files.Gives "p" (unwritten.store.table.insert "j" (.number 1)) :=
    change_gives (f := unwritten.store) (c := .set "j" (.number 1)) trivial ok
  refine ⟨rfl, rfl, rfl, ok, _, gives, ?_⟩
  rw [PreferenceTable.get?_insert, if_neg (by decide)]
  rfl

end PreferenceFile
end WalletLoop
