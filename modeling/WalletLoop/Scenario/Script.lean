import WalletLoop.Field
import WalletLoop.Session.Store

namespace WalletLoop

inductive Criterion where
  | always
  | never
  | changed (a : Aspect)
  /-- A field has a written value afterwards; no field has the value `none`. -/
  | becomes (f : Field) (value : Option FieldValue)
  | was (f : Field) (value : Option FieldValue)
  | both (cs : List Criterion)
  | either (cs : List Criterion)
  | negated (c : Criterion)

mutual

def Criterion.holds (before after : Snapshot) : Criterion → Bool
  | .always => true
  | .never => false
  | .changed a => a.differs before after
  | .becomes f value => value == some (f.value after)
  | .was f value => value == some (f.value before)
  | .both cs => Criterion.allHold before after cs
  | .either cs => Criterion.anyHolds before after cs
  | .negated c => !c.holds before after

def Criterion.allHold (before after : Snapshot) : List Criterion → Bool
  | [] => true
  | c :: cs => c.holds before after && Criterion.allHold before after cs

def Criterion.anyHolds (before after : Snapshot) : List Criterion → Bool
  | [] => false
  | c :: cs => c.holds before after || Criterion.anyHolds before after cs

end

def Criterion.selector (c : Criterion) : Selector := fun before after => c.holds before after

def Action.isNamed (a : Action) (pattern : String) : Bool :=
  pattern == "*" || pattern == a.domain || pattern == a.name

inductive Stimulus where
  | snapshot (s : Snapshot)
  | trigger (t : Trigger)
  | action (a : Action) (s : Snapshot)

/-- A test looks at one part of what a client is called with, and holds if that part is missing. -/
inductive Test where
  | field (f : Field) (value : Option FieldValue)
  | trigger (t : Trigger)
  | action (pattern : String)

def Test.holds : Test → Stimulus → Bool
  | .field f value, .snapshot s => value == some (f.value s)
  | .field f value, .action _ s => value == some (f.value s)
  | .trigger t, .trigger u => t == u
  | .action pattern, .action a _ => a.isNamed pattern
  | _, _ => true

inductive Order where
  | send (c : Command)
  | release (guard : String)

structure Rule where
  call : Option Nat
  times : Nat
  tests : List Test
  orders : List Order
  consumes : Bool
  fired : Nat

structure Script where
  label : String
  shown : List Field
  rules : List Rule
  calls : Nat

structure Guard where
  id : SubscriberId
  store : Nat

/-- What scripted clients share: the guards by name, and the number of the store at work. -/
structure Bench where
  guards : List (String × Guard)
  store : Nat

namespace Bench

def guard? (b : Bench) (name : String) : Option Guard :=
  (b.guards.find? fun g => g.1 == name).map Prod.snd

def erase (b : Bench) (name : String) : Bench :=
  { b with guards := b.guards.filter fun g => g.1 != name }

def insert (b : Bench) (name : String) (g : Guard) : Bench :=
  { b with guards := (b.erase name).guards ++ [(name, g)] }

end Bench

def Order.carryOut (b : Bench) : Order → Bench × List Command × List Notice
  | .send c => (b, [c], [])
  | .release name =>
    match b.guard? name with
    | none => (b, [], [])
    | some g =>
      if g.store = b.store then (b.erase name, [.unsubscribe g.id], [])
      else (b.erase name, [], [.storeGone g.id])

def Order.carryOutAll (b : Bench) : List Order → Bench × List Command × List Notice
  | [] => (b, [], [])
  | o :: os =>
    let (b, sent, notices) := o.carryOut b
    let (b, later, laterNotices) := carryOutAll b os
    (b, sent ++ later, notices ++ laterNotices)

def Rule.applies (r : Rule) (call : Nat) (x : Stimulus) : Bool :=
  (r.call == none || r.call == some call) && decide (r.fired < r.times) &&
    r.tests.all fun test => test.holds x

def Rule.budget (r : Rule) : Nat := (r.times - r.fired) * r.orders.length

def Script.budget (s : Script) : Nat := (s.rules.map Rule.budget).foldr (· + ·) 0

def Rule.run (call : Nat) (x : Stimulus) : List Rule → Bench → Verdict (List Rule) Bench
  | [], b => ⟨⟨[], b, [], []⟩, true⟩
  | r :: rs, b =>
    if r.applies call x then
      let (b, sent, notices) := Order.carryOutAll b r.orders
      let later := run call x rs b
      { client := { r with fired := r.fired + 1 } :: later.client
        world := later.world
        sent := sent ++ later.sent
        notices := notices ++ later.notices
        passes := !r.consumes && later.passes }
    else
      let later := run call x rs b
      { later with client := r :: later.client }

def Script.play (s : Script) (x : Stimulus) (b : Bench) : Verdict Script Bench :=
  let v := Rule.run (s.calls + 1) x s.rules b
  { v with client := { s with rules := v.client, calls := s.calls + 1 } }

def Script.clients : Clients where
  World := Bench
  Middleware := Script
  Observer := Script
  Listener := Script
  consult m a s b := m.play (.action a s) b
  observe o s b := (o.play (.snapshot s) b).toReply
  hear l t b := (l.play (.trigger t) b).toReply

end WalletLoop
