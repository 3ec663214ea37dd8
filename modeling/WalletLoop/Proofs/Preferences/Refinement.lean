import WalletLoop.Proofs.Preferences.FileFormat
import WalletLoop.Proofs.Preferences.Stores
import WalletLoop.Scenario.Run

namespace WalletLoop

inductive Use where
  | get (kind : Option PreferenceKind) (key : String)
  | set (key : String) (value : Preference)
  | remove (key : String)

namespace Use

def call : Use → HandleCall
  | get kind key => .get kind key
  | set key value => .set key value
  | remove key => .remove key

def write? (key : String) : Use → Option (Option Preference)
  | get _ _ => none
  | set k value => if k = key then some (some value) else none
  | remove k => if k = key then some none else none

def lastWritten (past : List Use) (key : String) : Option Preference :=
  (past.reverse.findSome? (write? key)).join

def answer (found : String → Option Preference) : Use → Answer
  | get none key => .preference (found key)
  | get (some kind) key =>
    match found key with
    | none => .preference none
    | some value =>
      if value.kind = kind then .preference (some value)
      else .failure (.preference (.mismatch key kind value.kind))
  | set _ _ | remove _ => .done

def answers (past : List Use) : List Use → List Answer
  | [] => []
  | u :: rest => u.answer (lastWritten past) :: answers (past ++ [u]) rest

def change (t : PreferenceTable) : Use → PreferenceTable
  | get _ _ => t
  | set key value => t.insert key value
  | remove key => t.erase key

theorem lastWritten_concat (past : List Use) (u : Use) (key : String) :
    lastWritten (past ++ [u]) key = ((u.write? key).getD (lastWritten past key)) := by
  simp only [lastWritten, List.reverse_append, List.reverse_singleton, List.singleton_append,
    List.findSome?_cons]
  cases u.write? key <;> rfl

end Use

namespace PreferenceTable

theorem get?_erase (t : PreferenceTable) (key k : String) :
    (t.erase key).get? k = if k = key then none else t.get? k := by
  unfold get? erase
  rw [find?_without]
  split <;> rfl

theorem erase_of_get? {t : PreferenceTable} {key : String} (missing : t.get? key = none) :
    t.erase key = t := by
  obtain ⟨entries, ascending⟩ := t
  simp only [get?, Option.map_eq_none_iff, List.find?_eq_none, beq_iff_eq] at missing
  have same : entries.filter (fun entry => entry.1 != key) = entries :=
    List.filter_eq_self.2 fun entry member => by simpa using missing entry member
  simp only [erase, same]

theorem get?_change {t : PreferenceTable} {past : List Use} (u : Use)
    (agrees : t.get? = Use.lastWritten past) :
    (u.change t).get? = Use.lastWritten (past ++ [u]) := by
  funext key
  rw [Use.lastWritten_concat, ← agrees]
  cases u with
  | get kind k => rfl
  | set k value =>
      rw [Use.change, get?_insert, Use.write?]
      by_cases same : key = k <;> simp [same, Ne.symm]
  | remove k =>
      rw [Use.change, get?_erase, Use.write?]
      by_cases same : key = k <;> simp [same, Ne.symm]

end PreferenceTable

def Files.Keeps (fs : Files) (path : String) (t : PreferenceTable) : Prop :=
  (fs.isThere path = false ∧ t = .empty) ∨
    (fs.isThere path = true ∧ fs.readText path = .ok (Toml.writeTable t))

theorem PreferenceFile.open_keeps {fs : Files} {path : String} {t : PreferenceTable}
    (keeps : fs.Keeps path t) : ∃ notice, PreferenceFile.open fs path = .ok (⟨path, t⟩, notice) := by
  obtain ⟨missing, rfl⟩ | ⟨there, written⟩ := keeps
  · exact ⟨_, by rw [PreferenceFile.open, missing]; rfl⟩
  · exact ⟨_, open_written there written⟩

namespace Scene

theorem place?_setHandle (scene : Scene) (handle : String) (place : Nat) :
    (scene.setHandle handle place).place? handle = some place := by
  have given := find?_without handle handle scene.handles
  rw [if_pos rfl] at given
  rw [place?, setHandle, closeHandle, List.find?_append, given]
  simp

theorem get_answer {lookup : Lookup} {found : String → Option Preference}
    (same : ∀ key, lookup key = .ok (found key)) (kind : Option PreferenceKind) (key : String) :
    get lookup key kind = .ok (found key) ∧ Use.answer found (.get kind key) = .preference (found key) ∨
      ∃ e, get lookup key kind = .error e ∧
        Use.answer found (.get kind key) = .failure (.preference e) := by
  cases kind with
  | none => exact .inl ⟨same key, rfl⟩
  | some kind =>
      cases value : found key with
      | none =>
          left
          cases kind <;> simp [get, Lookup.flag, Lookup.number, Lookup.text, Lookup.typed, same,
            value, Use.answer, Except.bind, Except.map]
      | some v =>
          cases kind <;> cases v <;> simp [get, Lookup.flag, Lookup.number, Lookup.text,
            Lookup.typed, same, value, Use.answer, Except.bind, Except.map, Preference.kind]

theorem callHandle_use {scene : Scene} {handle : String} {p : PreferenceStore} {place : Nat}
    (named : scene.place? handle = some place)
    (there : scene.surroundings.stores[place]? = some p) (u : Use) :
    scene.callHandle handle u.call = scene.callOpen place p u.call := by
  have opened : scene.preferences? handle = some p := by
    rw [preferences?, named]
    exact there
  cases u <;> simp only [Use.call, callHandle, named, opened]

theorem callOpen_get {scene : Scene} {place : Nat} {p : PreferenceStore}
    {found : String → Option Preference} (same : ∀ key, p.lookup key = .ok (found key))
    (kind : Option PreferenceKind) (key : String) :
    scene.callOpen place p (.get kind key) = (scene, Use.answer found (.get kind key), []) := by
  obtain ⟨read, answer⟩ | ⟨e, read, answer⟩ := get_answer same kind key <;>
    simp only [callOpen, read, answer]

theorem update_place {scene : Scene} {place : Nat} {p : PreferenceStore}
    (there : scene.surroundings.stores[place]? = some p)
    (call : PreferenceStore → Saving PreferenceStore) :
    let r := scene.update place call
    r.1.place? = scene.place? ∧ r.1.surroundings.stores[place]? = some (call p).store ∧
      r.1.files = (call p).files ∧
      r.2.1 = match (call p).result with
        | .ok () => .done
        | .error e => .failure (.preference e) := by
  have inside := (List.getElem?_eq_some_iff.1 there).1
  have stored : (scene.surroundings.stores.set place (call p).store)[place]? =
      some (call p).store := List.getElem?_set_self inside
  have updated : scene.surroundings.update place call = ⟨(call p).result,
      { scene.surroundings with
        files := (call p).files
        stores := scene.surroundings.stores.set place (call p).store },
      (call p).notices⟩ := by
    rw [Surroundings.update, there]
  rw [update, updated]
  exact ⟨rfl, stored, rfl, rfl⟩

theorem memory_use {scene : Scene} {handle : String} {place : Nat} {t : PreferenceTable}
    (named : scene.place? handle = some place)
    (there : scene.surroundings.stores[place]? = some (.memory t)) (u : Use) :
    let r := scene.callHandle handle u.call
    r.2.1 = u.answer t.get? ∧ r.1.place? = scene.place? ∧
      r.1.surroundings.stores[place]? = some (.memory (u.change t)) := by
  rw [callHandle_use named there]
  cases u with
  | get kind key =>
      rw [Use.call, callOpen_get fun _ => rfl]
      exact ⟨rfl, rfl, there⟩
  | set key value =>
      obtain ⟨names, stored, -, answer⟩ :=
        update_place there fun p => p.set scene.files key value
      exact ⟨answer, names, stored⟩
  | remove key =>
      obtain ⟨names, stored, -, answer⟩ := update_place there fun p => p.remove scene.files key
      exact ⟨answer, names, stored⟩

/-- A handle stands for a preference file with a table, and the file keeps that table. -/
structure Filed (scene : Scene) (handle path : String) (t : PreferenceTable) : Prop where
  opened : ∃ place, scene.place? handle = some place ∧
    scene.surroundings.stores[place]? = some (.file ⟨path, t⟩)
  keeps : scene.files.Keeps path t

theorem filed_update {scene : Scene} {handle path : String} {place : Nat} {t t' : PreferenceTable}
    (named : scene.place? handle = some place)
    (there : scene.surroundings.stores[place]? = some (.file ⟨path, t⟩))
    {call : PreferenceStore → Saving PreferenceStore}
    (saves : call (.file ⟨path, t⟩) =
      PreferenceStore.ofFile (PreferenceFile.saved ⟨path, t'⟩ scene.files))
    (passed : ∀ e, (scene.update place call).2.1 ≠ .failure (.preference (.access e))) :
    (scene.update place call).2.1 = .done ∧ (scene.update place call).1.Filed handle path t' := by
  obtain ⟨names, stored, files, answer⟩ := update_place there call
  have still := (congrFun names handle).trans named
  rw [saves, PreferenceFile.saved] at stored files answer
  cases save : PreferenceFile.save ⟨path, t'⟩ scene.files with
  | mk result fs =>
      simp only [save] at stored files answer
      cases result with
      | error e => exact absurd answer (passed e)
      | ok _ =>
          simp only [PreferenceStore.ofFile] at stored files answer
          have written := PreferenceFile.readText_save save
          exact ⟨answer, ⟨place, still, stored⟩, .inr (files ▸ written)⟩

theorem file_use {scene : Scene} {handle path : String} {t : PreferenceTable}
    (filed : scene.Filed handle path t) {u : Use}
    (passed : ∀ e, (scene.callHandle handle u.call).2.1 ≠ .failure (.preference (.access e))) :
    let r := scene.callHandle handle u.call
    r.2.1 = u.answer t.get? ∧ r.1.Filed handle path (u.change t) := by
  obtain ⟨⟨place, named, there⟩, keeps⟩ := filed
  rw [callHandle_use named there] at passed ⊢
  cases u with
  | get kind key =>
      rw [Use.call, callOpen_get fun _ => rfl]
      exact ⟨rfl, ⟨place, named, there⟩, keeps⟩
  | set key value => exact filed_update named there rfl passed
  | remove key =>
      cases found : t.get? key with
      | some value =>
          refine filed_update named there ?_ passed
          simp [PreferenceStore.remove, PreferenceFile.remove, found, Use.change]
      | none =>
          -- Nothing is written: the file keeps what it kept, perhaps nothing.
          have unchanged : PreferenceStore.remove scene.files key (.file ⟨path, t⟩) =
              ⟨.file ⟨path, t⟩, scene.files, .ok (), []⟩ := by
            simp [PreferenceStore.remove, PreferenceFile.remove, found, PreferenceStore.ofFile]
          obtain ⟨names, stored, files, answer⟩ :=
            update_place there fun p => p.remove scene.files key
          simp only [unchanged] at stored files answer
          rw [Use.change, PreferenceTable.erase_of_get? found]
          exact ⟨answer, ⟨place, (congrFun names handle).trans named, stored⟩, files ▸ keeps⟩

theorem file_open {scene : Scene} {path : String} {t : PreferenceTable}
    (keeps : scene.files.Keeps path t) (handle : String) :
    let r := scene.callHandle handle (.openFile path)
    r.2.1 = .done ∧ r.1.Filed handle path t := by
  obtain ⟨notice, opened⟩ := PreferenceFile.open_keeps keeps
  simp only [callHandle, opened]
  refine ⟨trivial, ⟨scene.surroundings.stores.length, ?_, ?_⟩, keeps⟩
  · exact place?_setHandle _ _ _
  · simp [openHandle, setHandle, closeHandle, Surroundings.keep]

end Scene

inductive Deed where
  | use (clone : String) (u : Use)
  | reopen

namespace Deed

def use? : Deed → Option Use
  | use _ u => some u
  | reopen => none

def inFile (handle path : String) : Deed → Step
  | use _ u => .handle handle u.call
  | reopen => .handle handle (.openFile path)

def inMemory? : Deed → Option Step
  | use clone u => some (.handle clone u.call)
  | reopen => none

def results (deeds : List Deed) (answers : List Answer) : List Answer :=
  (deeds.zip answers).filterMap fun (d, a) => d.use?.map fun _ => a

end Deed

namespace Scenario

def answers (level : Option Level) (scene : Scene) (steps : List Step) : List Answer :=
  (run level scene steps).1.map Report.answer

theorem answers_cons (level : Option Level) (scene : Scene) (s : Step) (steps : List Step) :
    answers level scene (s :: steps) =
      (scene.step s).2.1 :: answers level (scene.step s).1 steps := rfl

theorem memory_answers (level : Option Level) {place : Nat} {deeds : List Deed} {scene : Scene}
    {t : PreferenceTable} {past : List Use} (agrees : t.get? = Use.lastWritten past)
    (shared : ∀ clone u, .use clone u ∈ deeds → scene.place? clone = some place)
    (there : scene.surroundings.stores[place]? = some (.memory t)) :
    answers level scene (deeds.filterMap Deed.inMemory?) =
      Use.answers past (deeds.filterMap Deed.use?) := by
  induction deeds generalizing scene t past with
  | nil => rfl
  | cons d deeds ih =>
      cases d with
      | reopen => exact ih agrees (fun clone u member => shared clone u (by simp [member])) there
      | use clone u =>
          obtain ⟨answer, names, stored⟩ :=
            Scene.memory_use (shared clone u (by simp)) there u
          have still : ∀ clone' u', .use clone' u' ∈ deeds →
              (scene.callHandle clone u.call).1.place? clone' = some place := by
            intro clone' u' member
            rw [names]
            exact shared clone' u' (by simp [member])
          have rest := ih (PreferenceTable.get?_change u agrees) still stored
          calc answers level scene ((Deed.use clone u :: deeds).filterMap Deed.inMemory?)
            _ = (scene.callHandle clone u.call).2.1 ::
                  answers level (scene.callHandle clone u.call).1
                    (deeds.filterMap Deed.inMemory?) := rfl
            _ = Use.answers past ((Deed.use clone u :: deeds).filterMap Deed.use?) := by
              rw [answer, rest, agrees]
              rfl

theorem file_answers (level : Option Level) {handle path : String} {deeds : List Deed}
    {scene : Scene} {t : PreferenceTable} {past : List Use}
    (agrees : t.get? = Use.lastWritten past) (filed : scene.Filed handle path t)
    (passed : ∀ e, .failure (.preference (.access e)) ∉
      answers level scene (deeds.map (Deed.inFile handle path))) :
    let file := answers level scene (deeds.map (Deed.inFile handle path))
    Deed.results deeds file = Use.answers past (deeds.filterMap Deed.use?) ∧
      ∀ a, (.reopen, a) ∈ deeds.zip file → a = .done := by
  induction deeds generalizing scene t past with
  | nil => exact ⟨rfl, fun a member => by cases member⟩
  | cons d deeds ih =>
      rw [List.map_cons, answers_cons] at passed ⊢
      simp only [List.mem_cons, not_or] at passed
      cases d with
      -- The table that is given up stands in the file, or it was never written because it is empty.
      | reopen =>
          obtain ⟨answer, filed⟩ := Scene.file_open filed.keeps handle
          obtain ⟨results, opened⟩ := ih agrees filed fun e => (passed e).2
          refine ⟨results, fun a member => ?_⟩
          obtain first | later := List.mem_cons.1 member
          · exact (congrArg Prod.snd first).trans answer
          · exact opened a later
      | use clone u =>
          obtain ⟨answer, filed⟩ := Scene.file_use filed fun e same => (passed e).1 same.symm
          obtain ⟨results, opened⟩ :=
            ih (PreferenceTable.get?_change u agrees) filed fun e => (passed e).2
          refine ⟨?_, fun a member => ?_⟩
          · change (scene.callHandle handle u.call).2.1 :: Deed.results deeds _ = _
            rw [answer, agrees]
            exact congrArg (_ :: ·) results
          · obtain first | later := List.mem_cons.1 member
            · cases first
            · exact opened a later

/-- From a path where nothing is, and as long as no access fails, a preference file answers like a
table in memory that is empty at first, and both answer by the last writes. -/
theorem file_as_memory {level level' : Option Level} {scene scene' : Scene} {handle path : String}
    {place : Nat} {deeds : List Deed} (missing : scene.files.isThere path = false)
    (passed : ∀ e, .failure (.preference (.access e)) ∉
      answers level scene ((.reopen :: deeds).map (Deed.inFile handle path)))
    (there : scene'.surroundings.stores[place]? = some (.memory .empty))
    (shared : ∀ clone u, .use clone u ∈ deeds → scene'.place? clone = some place) :
    let file := answers level scene ((.reopen :: deeds).map (Deed.inFile handle path))
    let memory := answers level' scene' (deeds.filterMap Deed.inMemory?)
    Deed.results (.reopen :: deeds) file = memory ∧
      memory = Use.answers [] (deeds.filterMap Deed.use?) ∧
      ∀ a, (.reopen, a) ∈ (.reopen :: deeds).zip file → a = .done := by
  intro file memory
  have agrees : PreferenceTable.empty.get? = Use.lastWritten [] := rfl
  have keeps : scene.files.Keeps path .empty := .inl ⟨missing, rfl⟩
  obtain ⟨answer, filed⟩ := Scene.file_open keeps handle
  rw [List.map_cons, answers_cons] at passed
  obtain ⟨results, opened⟩ :=
    file_answers level agrees filed fun e member => passed e (List.mem_cons_of_mem _ member)
  have memorized := memory_answers level' agrees shared there
  refine ⟨results.trans memorized.symm, memorized, fun a member => ?_⟩
  obtain first | later := List.mem_cons.1 member
  · exact (congrArg Prod.snd first).trans answer
  · exact opened a later

def reread : List Deed :=
  [.use "m" (.set "k" (.text "v")), .reopen, .use "n" (.get (some .flag) "k"),
    .use "n" (.get none "k")]

def bare : Scene := .start ⟨none, none, none⟩ .empty

def cloned : Scene := ((bare.callHandle "m" .openMemory).1.callHandle "n" (.share "m")).1

def single : PreferenceFile := ⟨"p", PreferenceTable.empty.insert "k" (.text "v")⟩

theorem reread_answers : answers none bare ((.reopen :: reread).map (Deed.inFile "f" "p")) =
    [.done, .done, .done, .failure (.preference (.mismatch "k" .flag .text)),
      .preference (some (.text "v"))] := by
  have saved : single.save .empty = (.ok (), (single.save .empty).2) := rfl
  obtain ⟨there, written⟩ := PreferenceFile.readText_save saved
  have opens : PreferenceFile.open (single.save .empty).2 "p" = .ok (single, .loaded 1 "p") :=
    PreferenceFile.open_written there written
  have reopens (scene : Scene) (same : scene.files = (single.save .empty).2) :
      answers none scene ((reread.drop 1).map (Deed.inFile "f" "p")) =
        .done :: answers none (scene.openHandle "f" (.file single))
          ((reread.drop 2).map (Deed.inFile "f" "p")) := by
    change answers none scene (.handle "f" (.openFile "p") :: _) = _
    simp only [answers_cons, Scene.step, Scene.callHandle, same, opens]
    rfl
  calc answers none bare ((.reopen :: reread).map (Deed.inFile "f" "p"))
    _ = .done :: .done :: answers none _ ((reread.drop 1).map (Deed.inFile "f" "p")) := rfl
    _ = _ := by
      rw [reopens _ rfl]
      rfl

theorem reread_as_memory :
    let file := answers none bare ((.reopen :: reread).map (Deed.inFile "f" "p"))
    let memory := answers none cloned (reread.filterMap Deed.inMemory?)
    bare.files.isThere "p" = false ∧
      (∀ e, .failure (.preference (.access e)) ∉ file) ∧
      cloned.surroundings.stores[0]? = some (.memory .empty) ∧
      Deed.results (.reopen :: reread) file = memory ∧
      memory = [.done, .failure (.preference (.mismatch "k" .flag .text)),
        .preference (some (.text "v"))] := by
  intro file memory
  have missing : bare.files.isThere "p" = false := rfl
  have passed : ∀ e, .failure (.preference (.access e)) ∉ file := by
    intro e
    simp [file, reread_answers]
  have there : cloned.surroundings.stores[0]? = some (.memory .empty) := rfl
  have shared : ∀ clone u, .use clone u ∈ reread → cloned.place? clone = some 0 := by
    intro clone u member
    simp only [reread, List.mem_cons, Deed.use.injEq, List.not_mem_nil, or_false,
      reduceCtorEq, false_or] at member
    obtain ⟨rfl, -⟩ | ⟨rfl, -⟩ | ⟨rfl, -⟩ := member <;> rfl
  have same : Deed.results (.reopen :: reread) file = memory :=
    (file_as_memory missing passed there shared).1
  exact ⟨missing, passed, there, same, rfl⟩

end Scenario
end WalletLoop
