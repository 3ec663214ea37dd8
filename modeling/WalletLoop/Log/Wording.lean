import WalletLoop.Action
import WalletLoop.Binary64.Shortest
import WalletLoop.Describe
import WalletLoop.Trigger

namespace WalletLoop

open Describe

/-- Log messages write out values from 0.0001 up to 10^16, and powers of ten without a plus. -/
def logLayout : Binary64.Layout where
  leastPlain := -4
  plainEnd := 16
  tiesUp := true
  plus := false

def Binary64.describe (x : Binary64) : String := x.text logLayout

def Transaction.describe (t : Transaction) : String :=
  record "Transaction" [
    ("hash", Text.quoted t.hash),
    ("direction", t.direction.name),
    ("amount", number t.amount.toNat),
    ("fee", number t.fee.toNat),
    ("timestamp", number t.timestamp.toNat),
    ("block_height", optional (t.blockHeight.map fun n => number n.toNat))]

def Rate.describe (r : Rate) : String :=
  record "Rate" [
    ("code", Text.quoted r.code), ("name", Text.quoted r.name), ("rate", r.rate.describe)]

def Fees.describe (f : Fees) : String :=
  record "Fees" [("regular", number f.regular.toNat), ("economy", number f.economy.toNat)]

def Wallet.describe (w : Wallet) : String :=
  record "WalletState" [
    ("connected", flag w.connected),
    ("sync_progress", w.syncProgress.describe),
    ("sync_state", w.syncState.name),
    ("balance", optional (w.balance.map fun n => number n.toNat)),
    ("transactions", list (w.transactions.map Transaction.describe)),
    ("last_block_timestamp", number w.lastBlockTimestamp.toNat),
    ("name", Text.quoted w.name),
    ("creation_date", w.creationDate.text),
    ("rescanning", flag w.rescanning)]

def Snapshot.describe (s : Snapshot) : String :=
  record "AppState" [
    ("start_flow_visible", flag s.startFlowVisible),
    ("login_required", flag s.loginRequired),
    ("root_modal", s.rootModal.name),
    ("wallet", s.wallet.describe),
    ("alt_currency_displayed", flag s.altCurrencyDisplayed),
    ("alert", optional (s.alert.map AlertKind.name)),
    ("touch_id_enabled", flag s.touchIdEnabled),
    ("prompting_touch_id", flag s.promptingTouchId),
    ("push_notifications_enabled", flag s.pushNotificationsEnabled),
    ("recommend_rescan", flag s.recommendRescan),
    ("loading_transactions", flag s.loadingTransactions),
    ("max_display_digits", number s.maxDisplayDigits.toNat),
    ("pin_length", number s.pinLength.toNat),
    ("fees", s.fees.describe),
    ("default_currency_code", Text.quoted s.defaultCurrencyCode),
    ("current_rate", optional (s.currentRate.map Rate.describe)),
    ("rates", list (s.rates.map Rate.describe))]

def Action.describeVariant (a : Action) : String :=
  match a with
  | .modal (.present m) => applied a.variant [m.name]
  | .wallet (.setSyncProgress progress timestamp) =>
    record a.variant [("progress", progress.describe), ("timestamp", number timestamp.toNat)]
  | .wallet (.setSyncState state) => applied a.variant [state.name]
  | .wallet (.setBalance n) => applied a.variant [number n.toNat]
  | .wallet (.setTransactions ts) => applied a.variant [list (ts.map Transaction.describe)]
  | .wallet (.setName name) => applied a.variant [Text.quoted name]
  | .wallet (.setCreationDate date) => applied a.variant [date.text]
  | .wallet (.setIsRescanning b) => applied a.variant [flag b]
  | .wallet (.setIsConnected b) => applied a.variant [flag b]
  | .currency (.setDefault code) => applied a.variant [Text.quoted code]
  | .currency (.setExchangeRates current rates) =>
    record a.variant [("current", current.describe), ("rates", list (rates.map Rate.describe))]
  | .currency (.setCurrentRate rate) => applied a.variant [rate.describe]
  | .alert (.show kind) => applied a.variant [kind.name]
  | .settings (.setTouchIdEnabled b) => applied a.variant [flag b]
  | .settings (.setPromptingTouchId b) => applied a.variant [flag b]
  | .settings (.setPushNotificationsEnabled b) => applied a.variant [flag b]
  | .settings (.setPinLength n) => applied a.variant [number n.toNat]
  | .settings (.setMaxDisplayDigits n) => applied a.variant [number n.toNat]
  | .settings (.setRecommendRescan b) => applied a.variant [flag b]
  | .settings (.setLoadingTransactions b) => applied a.variant [flag b]
  | .settings (.setFees f) => applied a.variant [f.describe]
  | _ => a.variant

def Action.describe : Action → String
  | .idle => "None"
  | a => applied a.domain [a.describeVariant]

def Trigger.describe : Trigger → String
  | .presentFaq article => applied "PresentFaq" [Text.quoted article]
  | t => t.name

end WalletLoop
