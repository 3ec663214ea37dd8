import WalletLoop.Configuration.Directory
import WalletLoop.Field
import WalletLoop.Json.Records
import WalletLoop.Session.Store
import WalletLoop.Watcher.Surroundings

/-!
A synchronisation from start to lock: views attach to the store, the user logs in, a sync engine
reports from a thread of its own while the owner of the store works off what it sent, and at last the
wallet is locked. The result is the text of the final snapshot and the log, unless the program cannot
set up its log or write the snapshot out.
-/

namespace WalletLoop

inductive View where
  | header
  | balance
  | syncState
  | modal
deriving DecidableEq

namespace View

def aspect : View → Aspect
  | header => .field .syncProgress
  | balance => .field .balance
  | syncState => .field .syncState
  | modal => .field .rootModal

def subscriber : View → SubscriberId
  | header => ⟨"1"⟩
  | balance | syncState => ⟨"2"⟩
  | modal => ⟨"3"⟩

def all : List View := [header, balance, syncState, modal]

def remarks (s : Snapshot) : View → List String
  | header =>
    ["Header: sync " ++ (s.wallet.syncProgress.mul Binary64.hundred).wholeText ++ "% (block time " ++
      decimalText s.wallet.lastBlockTimestamp.toNat ++ ")"]
  | balance =>
    match s.wallet.balance with
    | some amount => ["Balance: " ++ decimalText amount.toNat ++ " sat"]
    | none => ["Balance: unknown"]
  | syncState => []
  | modal => if s.rootModal.isPresented then ["Modal: presenting " ++ s.rootModal.name] else []

def commands (s : Snapshot) : View → List Command
  | syncState =>
    if s.wallet.syncState = .success ∧ s.wallet.balance.isSome then
      [.dispatch (.alert (.show .resolvedSuccess))]
    else []
  | _ => []

def said (text : String) : Notice := .remark .info text

def clients : Clients where
  World := Unit
  Middleware := Empty
  Observer := View
  Listener := Unit
  consult m := nomatch m
  observe v s world := ⟨v, world, v.commands s, (v.remarks s).map said⟩
  hear l _ world := ⟨l, world, [.dispatch (.startup .requireLogin)], [said "Locking wallet"]⟩

end View

namespace Simulation

abbrev clients : Clients := View.clients.watched Surroundings.services

/-! ## The sync engine -/

def firstTimestamp : UInt32 := 1500000000

def progress (step : Nat) : WalletAction :=
  .setSyncProgress
    ((Binary64.ofUInt64 (UInt64.ofNat step)).div (Binary64.ofUInt64 10))
    (firstTimestamp + UInt32.ofNat (step * 600))

def transaction : Transaction where
  hash := "5e1f0c2a"
  direction := .received
  amount := 250000
  fee := 0
  timestamp := firstTimestamp + 1200
  blockHeight := some 1024

def reports : List WalletAction :=
  [.setSyncState .connecting, .setIsConnected true, .setSyncState .syncing] ++
    (List.range 10).map (fun n => progress (n + 1)) ++
    [.setTransactions [transaction], .setBalance 250000, .setSyncState .success]

def engine : List Command := reports.map fun a => .dispatch (.wallet a)

/-- How the engine's commands come in: portion by portion, one whenever the channel is used, while
the owner of the store works off what is there so many times. -/
structure Schedule where
  portions : List (List Command)
  rounds : Nat

def Schedule.atOnce : Schedule := ⟨[engine], 1⟩

/-! ## The run -/

def bound : Nat := 64

def lockId : SubscriberId := ⟨"4"⟩

def attach (s : Session clients) : Session clients :=
  (View.all.foldl (fun s v => s.subscribe bound v.subscriber v.aspect.differs v) s).subscribeTrigger
    lockId .lock ()

def watchers (c : Configuration) : List (Watcher Surroundings.services) :=
  [.log 0, .preferences (0 : Nat)] ++ (if c.telemetryEnabled then [.telemetry Sink.log] else [])

def synchronise (schedule : Schedule) (s : Session clients) : Session clients :=
  let s := schedule.rounds.repeat (Session.processPending bound)
    { s with arrivals := schedule.portions }
  s.join.processPending bound

def openPreferences (c : Configuration) (env : Environment) (fs : Files) :
    PreferenceStore × Files × List Notice :=
  let fallBack (fs : Files) (reason : String) : PreferenceStore × Files × List Notice :=
    (.memory .empty, fs,
      [.remark .warn ("Falling back to in-memory preferences: " ++ reason)])
  match c.preferencesPath env fs with
  | (.error e, fs) => fallBack fs e.summary
  | (.ok path, fs) =>
    match PreferenceFile.open fs path with
    | .error e => fallBack fs e.message
    | .ok (f, notice) =>
      (.file f, fs, [notice, View.said ("Using preference file " ++ Text.quoted path)])

def level (c : Configuration) (requested : Option String) : Level :=
  ((requested.bind Level.ofName?).or (Level.ofName? c.logLevel)).getD .info

inductive Fault where
  | logSet
  | unprintable

def Fault.message : Fault → String
  | logSet => "attempted to set a logger after the logging system was already initialized"
  | unprintable => "key must be a string"

structure Result where
  ended : Except Fault Unit
  output : String
  log : List Notice
  files : Files

def Result.exitCode (r : Result) : Nat :=
  match r.ended with
  | .ok () => 0
  | .error _ => 1

def finish (schedule : Schedule) (c : Configuration) (p : PreferenceStore) (fs : Files) :
    Session clients :=
  let loaded := Persisted.load p.lookup
  let store := Store.new clients (.initial loaded.1)
  let s := Session.start store (⟨fs, [p], []⟩, ())
  let s := (loaded.2 ++ loaded.1.notices).foldl Session.notice s
  let s := (watchers c).foldl (fun s w => s.addMiddleware (.inl w)) s
  let s := (attach s).dispatch bound (.startup .loginSuccess)
  (synchronise schedule s).trigger bound .lock

/-- Runs the program in a process whose log, if it has one, shows a level. -/
def execute (log : Option Level) (schedule : Schedule) (env : Environment)
    (requested : Option String) (fs : Files) : Result :=
  let (c, found) := Configuration.load env fs
  match log with
  | some l =>
    { ended := .error .logSet
      output := ""
      log := found.filter fun n => l.shows n.level
      files := fs }
  | none =>
    let opened := openPreferences c env fs
    let s := finish schedule c opened.1 opened.2.1
    -- what is said about the configuration comes before the log is set up
    let notices := [View.said "Starting wallet-sync-sim"] ++ opened.2.2 ++ s.notices
    let shown := List.filter fun n : Notice => (level c requested).shows n.level
    match s.snapshot.json.printed? with
    | some text =>
      { ended := .ok ()
        output := text ++ "\n"
        log := shown (notices ++ [View.said "Exiting wallet-sync-sim"])
        files := s.world.1.files }
    | none =>
      { ended := .error .unprintable
        output := ""
        log := shown notices
        files := s.world.1.files }

def run : Schedule → Environment → Option String → Files → Result := execute none

end Simulation
end WalletLoop
