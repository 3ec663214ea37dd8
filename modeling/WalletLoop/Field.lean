import WalletLoop.Snapshot

/-!
The fields of a snapshot one by one, and the two ways in which they can change.

`Field.value` is what would be written down for a field: it tells the two zeros apart, all NaNs are
one value, and instants go by their texts. `Aspect.differs` compares as numbers instead: the zeros are alike, and a NaN differs
from itself, so an aspect that holds one always counts as changed.
-/

namespace WalletLoop

inductive Field where
  | startFlowVisible
  | loginRequired
  | rootModal
  | connected
  | syncProgress
  | syncState
  | balance
  | transactions
  | lastBlockTimestamp
  | walletName
  | creationDate
  | rescanning
  | altCurrencyDisplayed
  | alert
  | touchIdEnabled
  | promptingTouchId
  | pushNotificationsEnabled
  | recommendRescan
  | loadingTransactions
  | maxDisplayDigits
  | pinLength
  | fees
  | defaultCurrencyCode
  | currentRate
  | rates
deriving DecidableEq

inductive FieldValue where
  | absent
  | flag (b : Bool)
  | number (n : Nat)
  | word (s : String)
  | real (x : Binary64)
  | fees (f : Fees)
  | rate (r : Rate)
  | rates (rs : List Rate)
  | transactions (ts : List Transaction)
deriving DecidableEq

namespace Field

def leading : List Field := [startFlowVisible, loginRequired, rootModal]

def ofWallet : List Field :=
  [connected, syncProgress, syncState, balance, transactions, lastBlockTimestamp, walletName,
    creationDate, rescanning]

def trailing : List Field :=
  [altCurrencyDisplayed, alert, touchIdEnabled, promptingTouchId, pushNotificationsEnabled,
    recommendRescan, loadingTransactions, maxDisplayDigits, pinLength, fees, defaultCurrencyCode,
    currentRate, rates]

def all : List Field := leading ++ ofWallet ++ trailing

def name : Field → String
  | startFlowVisible => "start_flow_visible"
  | loginRequired => "login_required"
  | rootModal => "root_modal"
  | connected => "wallet.connected"
  | syncProgress => "wallet.sync_progress"
  | syncState => "wallet.sync_state"
  | balance => "wallet.balance"
  | transactions => "wallet.transactions"
  | lastBlockTimestamp => "wallet.last_block_timestamp"
  | walletName => "wallet.name"
  | creationDate => "wallet.creation_date"
  | rescanning => "wallet.rescanning"
  | altCurrencyDisplayed => "alt_currency_displayed"
  | alert => "alert"
  | touchIdEnabled => "touch_id_enabled"
  | promptingTouchId => "prompting_touch_id"
  | pushNotificationsEnabled => "push_notifications_enabled"
  | recommendRescan => "recommend_rescan"
  | loadingTransactions => "loading_transactions"
  | maxDisplayDigits => "max_display_digits"
  | pinLength => "pin_length"
  | fees => "fees"
  | defaultCurrencyCode => "default_currency_code"
  | currentRate => "current_rate"
  | rates => "rates"

def ofName? (s : String) : Option Field := all.find? fun f => f.name == s

def value (s : Snapshot) : Field → FieldValue
  | startFlowVisible => .flag s.startFlowVisible
  | loginRequired => .flag s.loginRequired
  | rootModal => .word s.rootModal.name
  | connected => .flag s.wallet.connected
  | syncProgress => .real s.wallet.syncProgress.canonical
  | syncState => .word s.wallet.syncState.name
  | balance => s.wallet.balance.elim .absent fun n => .number n.toNat
  | transactions => .transactions s.wallet.transactions
  | lastBlockTimestamp => .number s.wallet.lastBlockTimestamp.toNat
  | walletName => .word s.wallet.name
  | creationDate => .word s.wallet.creationDate.text
  | rescanning => .flag s.wallet.rescanning
  | altCurrencyDisplayed => .flag s.altCurrencyDisplayed
  | alert => s.alert.elim .absent fun kind => .word kind.name
  | touchIdEnabled => .flag s.touchIdEnabled
  | promptingTouchId => .flag s.promptingTouchId
  | pushNotificationsEnabled => .flag s.pushNotificationsEnabled
  | recommendRescan => .flag s.recommendRescan
  | loadingTransactions => .flag s.loadingTransactions
  | maxDisplayDigits => .number s.maxDisplayDigits.toNat
  | pinLength => .number s.pinLength.toNat
  | fees => .fees s.fees
  | defaultCurrencyCode => .word s.defaultCurrencyCode
  | currentRate => s.currentRate.elim .absent fun r => .rate r.canonical
  | rates => .rates (s.rates.map Rate.canonical)

def same (a b : Snapshot) : Field → Bool
  | startFlowVisible => a.startFlowVisible == b.startFlowVisible
  | loginRequired => a.loginRequired == b.loginRequired
  | rootModal => a.rootModal == b.rootModal
  | connected => a.wallet.connected == b.wallet.connected
  | syncProgress => a.wallet.syncProgress.same b.wallet.syncProgress
  | syncState => a.wallet.syncState == b.wallet.syncState
  | balance => a.wallet.balance == b.wallet.balance
  | transactions => a.wallet.transactions == b.wallet.transactions
  | lastBlockTimestamp => a.wallet.lastBlockTimestamp == b.wallet.lastBlockTimestamp
  | walletName => a.wallet.name == b.wallet.name
  | creationDate => a.wallet.creationDate == b.wallet.creationDate
  | rescanning => a.wallet.rescanning == b.wallet.rescanning
  | altCurrencyDisplayed => a.altCurrencyDisplayed == b.altCurrencyDisplayed
  | alert => a.alert == b.alert
  | touchIdEnabled => a.touchIdEnabled == b.touchIdEnabled
  | promptingTouchId => a.promptingTouchId == b.promptingTouchId
  | pushNotificationsEnabled => a.pushNotificationsEnabled == b.pushNotificationsEnabled
  | recommendRescan => a.recommendRescan == b.recommendRescan
  | loadingTransactions => a.loadingTransactions == b.loadingTransactions
  | maxDisplayDigits => a.maxDisplayDigits == b.maxDisplayDigits
  | pinLength => a.pinLength == b.pinLength
  | fees => a.fees == b.fees
  | defaultCurrencyCode => a.defaultCurrencyCode == b.defaultCurrencyCode
  | currentRate => Rate.sameOptional a.currentRate b.currentRate
  | rates => Rate.sameList a.rates b.rates

end Field

inductive Aspect where
  | field (f : Field)
  | wallet
  | snapshot
deriving DecidableEq

namespace Aspect

def fields : Aspect → List Field
  | field f => [f]
  | wallet => Field.ofWallet
  | snapshot => Field.all

def name : Aspect → String
  | field f => f.name
  | wallet => "wallet"
  | snapshot => "state"

def ofName? (s : String) : Option Aspect :=
  if s = "wallet" then some wallet
  else if s = "state" then some snapshot
  else (Field.ofName? s).map field

def differs (aspect : Aspect) (a b : Snapshot) : Bool :=
  !aspect.fields.all (Field.same a b)

def parts : List Aspect :=
  Field.leading.map field ++ Field.ofWallet.map field ++ [wallet] ++ Field.trailing.map field

end Aspect

namespace Snapshot

def same (a b : Snapshot) : Bool := !Aspect.snapshot.differs a b

def values (s : Snapshot) : List (Field × FieldValue) := Field.all.map fun f => (f, f.value s)

def changes (before after : Snapshot) : List (Field × FieldValue) :=
  after.values.filter fun entry => entry.2 != entry.1.value before

def unequal (a b : Snapshot) : List Aspect := Aspect.parts.filter fun part => part.differs a b

end Snapshot
end WalletLoop
