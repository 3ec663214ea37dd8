import WalletLoop.Watcher.Surroundings

namespace WalletLoop

def Lookup.after (get : Lookup) : Option Entry → Lookup
  | none => get
  | some entry => fun key => if key = entry.1 then .ok (some entry.2) else get key

theorem Lookup.after_after (get : Lookup) (e : Option Entry) :
    (get.after e).after e = get.after e := by
  cases e with
  | none => rfl
  | some entry =>
      funext key
      by_cases same : key = entry.1 <;> simp [after, same]

namespace PreferenceTable

theorem find?_insertEntry (key k : String) (value : Preference) (entries : List Entry) :
    (insertEntry key value entries).find? (fun entry => entry.1 == k) =
      if k = key then some (key, value) else entries.find? fun entry => entry.1 == k := by
  by_cases same : k = key
  · subst same
    rw [if_pos rfl]
    induction entries with
    | nil => simp [insertEntry]
    | cons entry rest ih =>
        unfold insertEntry
        split
        · simp
        · split
          · simp
          · rename_i elsewhere
            rw [List.find?_cons, beq_false_of_ne (Ne.symm elsewhere), ih]
  · have other : (key == k) = false := beq_false_of_ne (Ne.symm same)
    rw [if_neg same]
    induction entries with
    | nil => simp [insertEntry, other]
    | cons entry rest ih =>
        unfold insertEntry
        split
        · rw [List.find?_cons, other]
        · split
          · rename_i here
            rw [List.find?_cons, List.find?_cons, ← here, other]
          · rw [List.find?_cons, List.find?_cons, ih]

theorem get?_insert (t : PreferenceTable) (key k : String) (value : Preference) :
    (t.insert key value).get? k = if k = key then some value else t.get? k := by
  unfold get? insert
  rw [find?_insertEntry]
  split <;> rfl

end PreferenceTable

namespace PreferenceStore

def Works : PreferenceStore → Prop
  | memory _ | file _ => True
  | guarded denied _ => .get ∉ denied ∧ .set ∉ denied

theorem lookup_set {p : PreferenceStore} (works : p.Works) (fs : Files) (entry : Entry) :
    (p.set fs entry.1 entry.2).store.Works ∧
      (p.set fs entry.1 entry.2).store.lookup = p.lookup.after (some entry) := by
  have read (t : PreferenceTable) (key : String) :
      (Except.ok ((t.insert entry.1 entry.2).get? key) : Except PreferenceError _) =
        if key = entry.1 then .ok (some entry.2) else .ok (t.get? key) := by
    rw [PreferenceTable.get?_insert]
    split <;> rfl
  cases p with
  | memory t => exact ⟨trivial, funext (read t)⟩
  | file f =>
      have kept : ((f.set fs entry.1 entry.2).store).table = f.table.insert entry.1 entry.2 := by
        unfold PreferenceFile.set PreferenceFile.saved
        split <;> rfl
      refine ⟨trivial, ?_⟩
      funext key
      simp only [set, ofFile, lookup, kept, read, Lookup.after]
  | guarded denied t =>
      obtain ⟨reads, sets⟩ := works
      refine ⟨?_, ?_⟩
      · rw [set, if_neg sets]
        exact ⟨reads, sets⟩
      · funext key
        simp only [set, if_neg sets, lookup, if_neg reads, read, Lookup.after]

end PreferenceStore

/-- A preference store among services, in the worlds in which it works: what is set is read again,
and nobody else writes there. -/
structure Services.Reliable (S : Services) (store : S.Store) (works : S.World → Prop) : Prop where
  set : ∀ w entry, works w → works (S.save store entry w).world ∧
    S.lookup store (S.save store entry w).world = (S.lookup store w).after (some entry)
  others : ∀ other w entry, other ≠ store → works w → works (S.save other entry w).world ∧
    S.lookup store (S.save other entry w).world = S.lookup store w
  reports : ∀ sink event w, works w → works (S.report sink event w).world ∧
    S.lookup store (S.report sink event w).world = S.lookup store w

namespace Surroundings

def Works (store : Nat) (w : Surroundings) : Prop := ∃ p, w.stores[store]? = some p ∧ p.Works

theorem lookup_eq {store : Nat} {w w' : Surroundings} (same : w'.stores[store]? = w.stores[store]?) :
    w'.lookup store = w.lookup store := by
  unfold lookup
  rw [same]

theorem reliable (store : Nat) : services.Reliable store (Works store) where
  set w entry := by
    rintro ⟨p, there, works⟩
    obtain ⟨still, reads⟩ := p.lookup_set works w.files entry
    have inside := (List.getElem?_eq_some_iff.1 there).1
    have now : (save store entry w).world.stores[store]? =
        some (p.set w.files entry.1 entry.2).store := by
      simp [save, update, there, List.getElem?_set_self inside]
    refine ⟨⟨_, now, still⟩, ?_⟩
    have before : lookup store w = p.lookup := by
      unfold lookup
      rw [there]
    calc lookup store (save store entry w).world
      _ = (p.set w.files entry.1 entry.2).store.lookup := by
        unfold lookup
        rw [now]
      _ = (lookup store w).after (some entry) := by rw [reads, before]
  others other w entry apart := by
    rintro ⟨p, there, works⟩
    have same : (save other entry w).world.stores[store]? = w.stores[store]? := by
      unfold save update
      split
      · exact List.getElem?_set_ne apart
      · rfl
    exact ⟨⟨p, same.trans there, works⟩, lookup_eq same⟩
  reports sink event w := by
    rintro ⟨p, there, works⟩
    have same : (report sink event w).world.stores[store]? = w.stores[store]? := by
      cases sink <;> rfl
    exact ⟨⟨p, same.trans there, works⟩, lookup_eq same⟩

def blank : Surroundings := ⟨.empty, [.memory .empty], []⟩

theorem blank_works : Works 0 blank := ⟨.memory .empty, rfl, trivial⟩

end Surroundings
end WalletLoop
