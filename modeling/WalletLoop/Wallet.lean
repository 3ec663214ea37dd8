import WalletLoop.Binary64.Basic
import WalletLoop.Instant.Text

namespace WalletLoop

inductive SyncState where
  | syncing
  | connecting
  | success
deriving DecidableEq

inductive Direction where
  | sent
  | received
  | moved
deriving DecidableEq

/-- Amounts are in satoshis; a transaction without a block height is unconfirmed. -/
structure Transaction where
  hash : String
  direction : Direction
  amount : UInt64
  fee : UInt64
  timestamp : UInt32
  blockHeight : Option UInt32
deriving DecidableEq

structure Wallet where
  connected : Bool
  syncProgress : Binary64
  syncState : SyncState
  balance : Option UInt64
  transactions : List Transaction
  lastBlockTimestamp : UInt32
  name : String
  creationDate : Instant
  rescanning : Bool
deriving DecidableEq

structure Rate where
  code : String
  name : String
  rate : Binary64
deriving DecidableEq

structure Fees where
  regular : UInt64
  economy : UInt64
deriving DecidableEq

def SyncState.name : SyncState → String
  | .syncing => "Syncing"
  | .connecting => "Connecting"
  | .success => "Success"

def Direction.name : Direction → String
  | .sent => "Sent"
  | .received => "Received"
  | .moved => "Moved"

def Wallet.initial : Wallet where
  connected := false
  syncProgress := .zero
  syncState := .success
  balance := none
  transactions := []
  lastBlockTimestamp := 0
  name := "My Wallet"
  creationDate := .epoch
  rescanning := false

def Fees.standard : Fees := ⟨10000, 5000⟩

def Rate.same (a b : Rate) : Bool := a.code == b.code && a.name == b.name && a.rate.same b.rate

def Rate.sameList : List Rate → List Rate → Bool
  | [], [] => true
  | a :: as, b :: bs => a.same b && sameList as bs
  | _, _ => false

def Rate.sameOptional : Option Rate → Option Rate → Bool
  | none, none => true
  | some a, some b => a.same b
  | _, _ => false

def Rate.canonical (r : Rate) : Rate := { r with rate := r.rate.canonical }

end WalletLoop
