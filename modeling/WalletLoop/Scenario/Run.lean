import WalletLoop.Json.Records
import WalletLoop.Scenario.Step
import WalletLoop.Session.Operation
import WalletLoop.Simulation

namespace WalletLoop

structure Scene where
  environment : Environment
  surroundings : Surroundings
  bench : Bench
  handles : List (String × Nat)
  snapshots : List (String × Snapshot)
  store : Option (Store (Script.clients.watched Surroundings.services))

namespace Scene

abbrev clients : Clients := Script.clients.watched Surroundings.services

def start (environment : Environment) (files : Files) : Scene where
  environment := environment
  surroundings := ⟨files, [], []⟩
  bench := ⟨[], 0⟩
  handles := []
  snapshots := []
  store := none

def withFiles (scene : Scene) (files : Files) : Scene :=
  { scene with surroundings := { scene.surroundings with files := files } }

def files (scene : Scene) : Files := scene.surroundings.files

/-! ## Files and configuration -/

def ofFileCall (scene : Scene) (r : Except FileError Unit × Files) : Scene × Answer :=
  (scene.withFiles r.2, .done)

def removeAll (scene : Scene) (path : String) : Scene × Answer :=
  match scene.files.locate path with
  | .ok ⟨l, 0⟩ => (scene.withFiles (scene.files.remove l), .done)
  | _ => (scene, .done)

def list (scene : Scene) (path : String) : Answer :=
  match scene.files.locate path with
  | .ok ⟨l, 0⟩ =>
    .names ((scene.files.below l).map fun (names, node) =>
      String.intercalate "/" names ++ (if node = .directory then "/" else ""))
  | _ => .names []

def moveTo (scene : Scene) (path : String) : Scene :=
  match scene.files.makeDirectories path with
  | (.error _, fs) => scene.withFiles fs
  | (.ok (), fs) =>
    match fs.locate path with
    | .error _ => scene.withFiles fs
    | .ok d => scene.withFiles { fs with current := d }

def changeEnvironment (scene : Scene) (home configHome : Option (Option String))
    (directory : Option String) : Scene × Answer :=
  let env := scene.environment
  let scene := { scene with environment := { env with
    home := home.getD env.home
    configHome := configHome.getD env.configHome } }
  (directory.elim scene scene.moveTo, .done)

def ofDirectory (scene : Scene) : Except DirectoryError String × Files → Scene × Answer
  | (.ok path, fs) => (scene.withFiles fs, .text path)
  | (.error e, fs) => (scene.withFiles fs, .failure (.directory e))

/-! ## Preferences -/

def place? (scene : Scene) (handle : String) : Option Nat :=
  (scene.handles.find? fun h => h.1 == handle).map Prod.snd

def preferences? (scene : Scene) (handle : String) : Option PreferenceStore :=
  (scene.place? handle).bind fun place => scene.surroundings.stores[place]?

def closeHandle (scene : Scene) (handle : String) : Scene :=
  { scene with handles := scene.handles.filter fun h => h.1 != handle }

def setHandle (scene : Scene) (handle : String) (place : Nat) : Scene :=
  { scene with handles := (scene.closeHandle handle).handles ++ [(handle, place)] }

def openHandle (scene : Scene) (handle : String) (p : PreferenceStore) : Scene :=
  { scene with surroundings := scene.surroundings.keep p }.setHandle handle
    scene.surroundings.stores.length

def logged (notices : List Notice) : List Output := notices.map .noticed

def get (lookup : Lookup) (key : String) :
    Option PreferenceKind → Except PreferenceError (Option Preference)
  | none => lookup key
  | some .flag => (lookup.flag key).map fun v => v.map .flag
  | some .number => (lookup.number key).map fun v => v.map .number
  | some .text => (lookup.text key).map fun v => v.map .text

def update (scene : Scene) (place : Nat) (call : PreferenceStore → Saving PreferenceStore) :
    Scene × Answer × List Output :=
  let o := scene.surroundings.update place call
  ({ scene with surroundings := o.world },
   match o.result with
   | .ok () => .done
   | .error e => .failure (.preference e),
   logged o.notices)

def callOpen (scene : Scene) (place : Nat) (p : PreferenceStore) :
    HandleCall → Scene × Answer × List Output
  | .get kind key =>
    match get p.lookup key kind with
    | .ok value => (scene, .preference value, [])
    | .error e => (scene, .failure (.preference e), [])
  | .set key value => scene.update place fun p => p.set scene.files key value
  | .remove key => scene.update place fun p => p.remove scene.files key
  | .size =>
    match p with
    | .memory t => (scene, .number t.size, [])
    | _ => (scene, .failure .noHandle, [])
  | .isEmpty =>
    match p with
    | .memory t => (scene, .flag (t.size == 0), [])
    | _ => (scene, .failure .noHandle, [])
  | .path =>
    match p with
    | .file f => (scene, .text f.path, [])
    | _ => (scene, .failure .noHandle, [])
  | .load =>
    let (settings, notices) := Persisted.load p.lookup
    (scene, .settings settings, logged notices)
  | _ => (scene, .done, [])

def callHandle (scene : Scene) (handle : String) (call : HandleCall) :
    Scene × Answer × List Output :=
  match call with
  | .openMemory => (scene.openHandle handle (.memory .empty), .done, [])
  | .share other =>
    match scene.place? other with
    | some place => (scene.setHandle handle place, .done, [])
    | none => (scene, .failure .noHandle, [])
  | .openFile path =>
    match PreferenceFile.open scene.files path with
    | .ok (f, notice) => (scene.openHandle handle (.file f), .done, logged [notice])
    | .error e => (scene.closeHandle handle, .failure (.preference e), [])
  | .restrict denied =>
    match scene.place? handle, scene.preferences? handle with
    | some place, some (.guarded _ t) =>
      scene.update place fun _ => ⟨.guarded denied t, scene.files, .ok (), []⟩
    | _, _ => (scene.openHandle handle (.guarded denied .empty), .done, [])
  | call =>
    match scene.place? handle, scene.preferences? handle with
    | some place, some p => scene.callOpen place p call
    | _, _ => (scene, .failure .noHandle, [])

/-! ## The store -/

def show? : Event clients → Option Output
  | .observed _ o s => some (.observed o.label (o.shown.map fun f => (f, f.value s)))
  | .heard _ l t => some (.heard l.label t)
  | .consulted (.inr m) a s _ => some (.consulted m.label a (m.shown.map fun f => (f, f.value s)))
  | .noticed n => some (.noticed n)
  | _ => none

/-- More pieces of work than an operation on the store can lead to, when the client of the operation
itself can send so many commands. -/
def bound (s : Store clients) (client : Nat) : Nat :=
  let middleware := s.middleware.map fun
    | .inl _ => 0
    | .inr m => m.budget
  let observers := s.observers.map fun o => o.client.budget
  let listeners := s.listeners.map fun l => l.client.budget
  s.pending.length + s.channel.length + 1 + client +
    (middleware ++ observers ++ listeners).foldr (· + ·) 0

def work (scene : Scene) (answer : Session clients → Answer)
    (operation : Session clients → Session clients) : Scene × Answer × List Output :=
  match scene.store with
  | none => (scene, .failure .noStore, [])
  | some store =>
    let s := operation (Session.start store (scene.surroundings, scene.bench))
    ({ scene with store := some s.toStore, surroundings := s.world.1, bench := s.world.2 },
     answer s, s.journal.filterMap show?)

def workOff (scene : Scene) (client : Nat) (operation : Operation clients) :
    Scene × Answer × List Output :=
  scene.work (fun _ => .done) fun s => s.operate (bound s.toStore client) operation

def look (scene : Scene) (answer : Store clients → Answer) : Scene × Answer × List Output :=
  match scene.store with
  | none => (scene, .failure .noStore, [])
  | some store => (scene, answer store, [])

def startStore (scene : Scene) (settings : Persisted) (adjust : Snapshot → Snapshot)
    (loading : List Notice) : Scene × Answer × List Output :=
  let snapshot := adjust (.initial settings)
  ({ scene with
      store := some (.new clients snapshot)
      bench := { scene.bench with store := scene.bench.store + 1 } },
   .snapshot snapshot, logged (loading ++ settings.notices))

def makeStore (scene : Scene) (settings : Persisted ⊕ String) (adjust : Snapshot → Snapshot) :
    Scene × Answer × List Output :=
  match settings with
  | .inl settings => scene.startStore settings adjust []
  | .inr handle =>
    match scene.preferences? handle with
    | none => (scene, .failure .noHandle, [])
    | some p =>
      let (settings, notices) := Persisted.load p.lookup
      scene.startStore settings adjust notices

def middleware? (scene : Scene) : MiddlewareSpec → Option clients.Middleware
  | .log => some (.inl (.log 0))
  | .preferences handle => (scene.place? handle).map fun place => .inl (.preferences place)
  | .telemetry sink => some (.inl (.telemetry sink))
  | .script s => some (.inr s)

/-! ## Orders from outside the store -/

def unsent : Command → Notice
  | .dispatch _ => .actionNotSent
  | .trigger _ => .triggerNotSent
  | .unsubscribe id => .storeGone id

def carryOut (scene : Scene) (o : Order) : Scene × List Output :=
  let (bench, sent, notices) := o.carryOut scene.bench
  let scene := { scene with bench := bench }
  match scene.store with
  | some store =>
    ({ scene with store := some { store with channel := store.channel ++ sent } }, logged notices)
  | none => (scene, logged (sent.map unsent ++ notices))

def carryOutAll (scene : Scene) : List Order → Scene × List Output
  | [] => (scene, [])
  | o :: os =>
    let (scene, outputs) := scene.carryOut o
    let (scene, later) := scene.carryOutAll os
    (scene, outputs ++ later)

def hasStarted (scene : Scene) : Bool := decide (0 < scene.bench.store)

def makeGuard (scene : Scene) (name : String) (id : SubscriberId) : Scene × Answer × List Output :=
  if scene.hasStarted then
    let (scene, outputs) := scene.carryOut (.release name)
    ({ scene with bench := scene.bench.insert name ⟨id, scene.bench.store⟩ }, .flag true, outputs)
  else (scene, .failure .noStore, [])

/-! ## Steps -/

def quiet (r : Scene × Answer) : Scene × Answer × List Output := (r.1, r.2, [])

def step (scene : Scene) : Step → Scene × Answer × List Output
  | .write path c => quiet (scene.ofFileCall (scene.files.place path c))
  | .read path => (scene, .content (scene.files.read path).toOption, [])
  | .makeDirectory path => quiet (scene.ofFileCall (scene.files.makeDirectories path))
  | .removeAll path => quiet (scene.removeAll path)
  | .list path => (scene, scene.list path, [])
  | .environment home configHome directory =>
    quiet (scene.changeEnvironment home configHome directory)
  | .loadConfiguration =>
    let (c, notices) := Configuration.load scene.environment scene.files
    (scene, .configuration c, logged notices)
  | .standardConfiguration => (scene, .configuration .standard, [])
  | .directory => quiet (scene.ofDirectory (scene.environment.directory scene.files))
  | .usualPath => quiet (scene.ofDirectory (scene.environment.preferencesPath scene.files))
  | .preferencesPath file =>
    let c := { Configuration.standard with preferencesFile := file }
    quiet (scene.ofDirectory (c.preferencesPath scene.environment scene.files))
  | .simulate requested =>
    let r := Simulation.run .atOnce scene.environment requested scene.files
    (scene.withFiles r.files, .simulated r.exitCode r.output r.log, [])
  | .handle name call => scene.callHandle name call
  | .makeStore settings adjust => scene.makeStore settings adjust
  | .dropStore => ({ scene with store := none }, .done, [])
  | .addMiddleware m =>
    match scene.middleware? m with
    | some m => scene.workOff 0 (.addMiddleware m)
    | none => (scene, .failure .noHandle, [])
  | .subscribe id c client => scene.workOff client.budget (.subscribe id c.selector client)
  | .subscribeTrigger id t client => scene.workOff 0 (.subscribeTrigger id t client)
  | .unsubscribe id => scene.workOff 0 (.unsubscribe id)
  | .isSubscribed id => scene.work (fun s => .flag (s.isSubscribed id)) fun s => s
  | .dispatch a => scene.workOff 0 (.dispatch a)
  | .trigger t => scene.workOff 0 (.trigger t)
  | .processPending => scene.workOff 0 .processPending
  | .carryOut orders =>
    if scene.hasStarted then
      let (scene, outputs) := scene.carryOutAll orders
      (scene, .done, outputs)
    else (scene, .failure .noStore, [])
  | .guard name id => scene.makeGuard name id
  | .release name =>
    let held := (scene.bench.guard? name).isSome
    let (scene, outputs) := scene.carryOut (.release name)
    (scene, .flag held, outputs)
  | .events recorder => (scene, .events (scene.surroundings.events recorder), [])
  | .keep name =>
    match scene.store with
    | none => (scene, .failure .noStore, [])
    | some store =>
      ({ scene with snapshots := (name, store.snapshot) :: scene.snapshots }, .done, [])
  | .compare name =>
    match scene.snapshots.find? fun entry => entry.1 == name with
    | none => (scene, .failure .noStore, [])
    | some kept => scene.look fun s => .comparison (kept.2.unequal s.snapshot) kept.2
  | .settings => scene.look fun s => .settings s.snapshot.persisted
  | .snapshot => scene.look fun s => .snapshot s.snapshot
  | .json => scene.look fun s => .text s.snapshot.json.pretty

end Scene

def Output.isShown (level : Option Level) : Output → Bool
  | .noticed n => level.any fun l => l.shows n.level
  | _ => true

def Scene.changes (before after : Scene) (s : Step) : List (Field × FieldValue) :=
  match s, before.store, after.store with
  | .makeStore .., _, _ => []
  | _, some a, some b => a.snapshot.changes b.snapshot
  | _, _, _ => []

namespace Scenario

def run (level : Option Level) (scene : Scene) : List Step → List Report × Scene
  | [] => ([], scene)
  | s :: rest =>
    let (next, answer, outputs) := scene.step s
    let report := ⟨answer, outputs.filter (Output.isShown level), scene.changes next s⟩
    let (reports, last) := run level next rest
    (report :: reports, last)

end Scenario
end WalletLoop
