import WalletLoop.Files.Change

namespace WalletLoop

theorem find?_without {α β : Type} [BEq α] [LawfulBEq α] [DecidableEq α] (key k : α)
    (entries : List (α × β)) :
    (entries.filter fun entry => entry.1 != key).find? (fun entry => entry.1 == k) =
      if k = key then none else entries.find? fun entry => entry.1 == k := by
  split
  · subst k
    simp
  · rename_i apart
    rw [List.find?_filter]
    congr 1
    funext entry
    by_cases there : entry.1 = k <;> simp [there, apart]

namespace Files
variable {fs fs' : Files} {l : Location}

theorem node?_put (fs : Files) (l l' : Location) (n : Node) :
    (fs.put l n).node? l' =
      if l' = [] then some .directory else if l' = l then some n else fs.node? l' := by
  unfold node? put
  split
  · rfl
  · rw [List.find?_append, find?_without]
    split
    · subst l'
      simp
    · rename_i apart
      simp [Ne.symm apart]

structure Directories (fs fs' : Files) : Prop where
  current : fs'.current = fs.current
  kept : ∀ l, fs.node? l = some .directory → fs'.node? l = some .directory

theorem directories_put (notDirectory : fs.node? l ≠ some .directory) (n : Node) :
    Directories fs (fs.put l n) := by
  refine ⟨rfl, fun l' directory => ?_⟩
  rw [node?_put]
  split
  · rfl
  · rw [if_neg, directory]
    rintro rfl
    exact notDirectory directory

theorem entry_ok {d : Place} {name : String} {l' : Location} {found : Option Node}
    (entered : fs.entry d name = .ok (l', found)) :
    found = fs.node? l' ∧ l' ≠ [] ∧
      ∀ fs' : Files, fs'.entry d name = .ok (l', fs'.node? l') := by
  unfold entry at entered
  split at entered
  · cases entered
  split at entered
  · cases entered
  · rename_i inTree short
    cases entered
    exact ⟨rfl, by simp, fun fs' => by rw [entry, if_neg inTree, if_neg short]⟩

theorem enter_kept (directories : Directories fs fs') {d d' : Place} {name : String}
    (entered : fs.enter d name = .ok d') : fs'.enter d name = .ok d' := by
  unfold enter at entered ⊢
  split at entered
  · rw [if_pos ‹_›, entered]
  · rw [if_neg ‹_›]
    cases found : fs.entry d name with
    | error e =>
        rw [found] at entered
        cases entered
    | ok place =>
        obtain ⟨l', found'⟩ := place
        obtain ⟨rfl, -, always⟩ := entry_ok found
        rw [found] at entered
        cases there : fs.node? l' with
        | none => simp [Except.bind, there] at entered
        | some node =>
            cases node with
            | file c => simp [Except.bind, there] at entered
            | directory =>
                rw [always, directories.kept l' there]
                simpa [Except.bind, there] using entered

theorem follow_kept (directories : Directories fs fs') {d d' : Place} {names : List String}
    (followed : fs.follow d names = .ok d') : fs'.follow d names = .ok d' := by
  induction names generalizing d with
  | nil => exact followed
  | cons name names ih =>
      rw [follow] at followed ⊢
      cases entered : fs.enter d name with
      | error e =>
          rw [entered] at followed
          cases followed
      | ok inner =>
          rw [entered] at followed
          rw [enter_kept directories entered]
          exact ih followed

theorem resolve_kept (directories : Directories fs fs') {p : String} {d : Place} {name : String}
    (resolved : fs.resolve p = .ok (.entry d name)) : fs'.resolve p = .ok (.entry d name) := by
  unfold resolve at resolved ⊢
  have same : fs'.start p = fs.start p := by simp only [start, directories.current]
  rw [same]
  cases started : fs.start p with
  | error e =>
      rw [started] at resolved
      cases resolved
  | ok first =>
      rw [started] at resolved
      simp only [Except.bind] at resolved ⊢
      cases last : (Path.names p).getLast? with
      | none => simp [last] at resolved
      | some final =>
          simp only [last] at resolved ⊢
          split at resolved
          · cases followed : fs.follow first (Path.names p) <;> simp [followed, Except.map] at resolved
          · rw [if_neg ‹_›]
            cases followed : fs.follow first (Path.names p).dropLast with
            | error e => simp [followed, Except.map] at resolved
            | ok inner =>
                rw [follow_kept directories followed]
                simpa [followed, Except.map] using resolved

theorem guarded_ok {call : Files → Except FileError Unit × Files}
    (passed : fs.guarded call = (.ok (), fs')) : ∃ fs₁, call fs₁ = (.ok (), fs') := by
  unfold guarded at passed
  split at passed
  · exact ⟨_, passed⟩
  · exact ⟨_, passed⟩
  · cases passed

theorem look_write {p : String} {c : Content} (written : fs.write p c = (.ok (), fs')) :
    fs'.look p = .ok (.file c) := by
  obtain ⟨fs₁, written⟩ := guarded_ok written
  split at written
  · cases written
  · cases written
  · rename_i d name resolved
    split at written
    · cases written
    · rename_i noSlash
      cases entered : fs₁.entry d name with
      | error e => simp [entered] at written
      | ok place =>
          obtain ⟨l, found⟩ := place
          obtain ⟨rfl, inside, always⟩ := entry_ok entered
          rw [entered] at written
          -- The path is followed through directories only, and the file does not hide one of them.
          have notDirectory : fs₁.node? l ≠ some .directory := by
            intro directory
            simp [directory] at written
          have put : fs' = fs₁.put l (.file c) := by
            simp only at written
            cases written
            rfl
          have there : fs'.node? l = some (.file c) := by
            rw [put, node?_put, if_neg inside, if_pos rfl]
          have led : fs'.resolve p = .ok (.entry d name) :=
            put ▸ resolve_kept (directories_put notDirectory _) resolved
          simp [look, led, Except.bind, always, there, noSlash]

theorem look_place {p : String} {c : Content} (placed : fs.place p c = (.ok (), fs')) :
    fs'.look p = .ok (.file c) := by
  unfold place at placed
  split at placed
  · cases placed
  · exact look_write placed

theorem isThere_of_look {p : String} {n : Node} (found : fs.look p = .ok n) :
    fs.isThere p = true := by
  rw [isThere, found]

theorem readText_of_look {p s : String} (found : fs.look p = .ok (.file (.text s))) :
    fs.readText p = .ok s := by
  rw [readText, read, found]
  rfl

theorem isThere_of_readText {p s : String} (read : fs.readText p = .ok s) :
    fs.isThere p = true := by
  cases found : fs.look p with
  | ok n => exact isThere_of_look found
  | error e =>
      rw [readText, Files.read, found] at read
      cases read

/-- A tree that has grown: whatever stood somewhere stands there still. -/
structure Grown (fs fs' : Files) : Prop where
  current : fs'.current = fs.current
  kept : ∀ l n, fs.node? l = some n → fs'.node? l = some n

theorem Grown.refl (fs : Files) : Grown fs fs := ⟨rfl, fun _ _ here => here⟩

theorem Grown.trans {fs'' : Files} (first : Grown fs fs') (second : Grown fs' fs'') :
    Grown fs fs'' :=
  ⟨second.current.trans first.current, fun l n here => second.kept l n (first.kept l n here)⟩

theorem Grown.read (grown : Grown fs fs') {p : String} {c : Content} (read : fs.read p = .ok c) :
    fs'.read p = .ok c := by
  have directories : Directories fs fs' := ⟨grown.current, fun l => grown.kept l .directory⟩
  unfold Files.read look at read ⊢
  cases resolved : fs.resolve p with
  | error e => simp [resolved, Except.bind] at read
  | ok target =>
      cases target with
      | directory d => simp [resolved, Except.bind] at read
      | entry d name =>
          rw [resolve_kept directories resolved]
          rw [resolved] at read
          simp only [Except.bind] at read ⊢
          cases entered : fs.entry d name with
          | error e => simp [entered] at read
          | ok place =>
              obtain ⟨l, found⟩ := place
              obtain ⟨rfl, -, always⟩ := entry_ok entered
              cases there : fs.node? l with
              | none => simp [entered, there] at read
              | some n =>
                  simp only [entered, there] at read
                  rw [always, grown.kept l n there]
                  exact read

theorem grown_makeDirectory (fs : Files) (p : String) : Grown fs (fs.makeDirectory p).2 := by
  unfold makeDirectory
  split
  · exact .refl fs
  · exact .refl fs
  · rename_i d name resolved
    cases entered : fs.entry d name with
    | error e => exact .refl fs
    | ok place =>
        obtain ⟨l, found⟩ := place
        obtain ⟨rfl, inside, -⟩ := entry_ok entered
        cases there : fs.node? l with
        | some n => cases n <;> exact .refl fs
        | none =>
            dsimp only
            refine ⟨rfl, fun l' n here => ?_⟩
            have apart : l' ≠ l := by
              rintro rfl
              rw [there] at here
              cases here
            rw [node?_put, if_neg apart]
            split
            · subst l'
              simpa [node?] using here
            · exact here

theorem grown_makeFirst (fs : Files) (ps : List String) : Grown fs (fs.makeFirst ps).2 := by
  induction ps generalizing fs with
  | nil => exact .refl fs
  | cons p above ih =>
      have made := grown_makeDirectory fs p
      rw [makeFirst]
      split
      · rename_i fs₁ missing
        rw [missing] at made
        have outer := ih fs₁
        split
        · rename_i fs₂ there
          rw [there] at outer
          exact made.trans (outer.trans (grown_makeDirectory fs₂ p))
        · exact made.trans outer
      · exact made

theorem grown_makeDirectories (fs : Files) (p : String) : Grown fs (fs.makeDirectories p).2 := by
  have spent (later : List (Option FileError)) : Grown fs { fs with faults := later } :=
    ⟨rfl, fun _ _ here => here⟩
  unfold makeDirectories
  split
  · exact .refl fs
  · unfold guarded
    split
    · exact grown_makeFirst fs _
    · exact (spent _).trans (grown_makeFirst _ _)
    · exact spent _

end Files
end WalletLoop
