import WalletLoop.Snapshot

/-!
Actions: every change of the snapshot as plain data, by the part of the program it belongs to, and
`Snapshot.reduce`, the snapshot that follows. An action overwrites its own fields and leaves the
others alone; only a reset builds the snapshot anew, from the persisted settings it holds.
-/

namespace WalletLoop

inductive StartupAction where
  | showStartFlow
  | hideStartFlow
  | reset
  | requireLogin
  | loginSuccess
deriving DecidableEq

inductive ModalAction where
  | present (modal : RootModal)
deriving DecidableEq

inductive WalletAction where
  | setSyncProgress (progress : Binary64) (timestamp : UInt32)
  | setSyncState (state : SyncState)
  | setBalance (balance : UInt64)
  | setTransactions (transactions : List Transaction)
  | setName (name : String)
  | setCreationDate (date : Instant)
  | setIsRescanning (rescanning : Bool)
  | setIsConnected (connected : Bool)
deriving DecidableEq

inductive CurrencyAction where
  | toggleDisplay
  | setDefault (code : String)
  | setExchangeRates (current : Rate) (rates : List Rate)
  | setCurrentRate (rate : Rate)
deriving DecidableEq

inductive AlertAction where
  | «show» (kind : AlertKind)
  | hide
deriving DecidableEq

inductive SettingsAction where
  | setTouchIdEnabled (enabled : Bool)
  | setPromptingTouchId (prompting : Bool)
  | setPushNotificationsEnabled (enabled : Bool)
  | setPinLength (length : UInt64)
  | setMaxDisplayDigits (digits : UInt32)
  | setRecommendRescan (recommend : Bool)
  | setLoadingTransactions (loading : Bool)
  | setFees (fees : Fees)
deriving DecidableEq

inductive Action where
  | startup (action : StartupAction)
  | modal (action : ModalAction)
  | wallet (action : WalletAction)
  | currency (action : CurrencyAction)
  | alert (action : AlertAction)
  | settings (action : SettingsAction)
  | idle
deriving DecidableEq

def AlertAction.set : Option AlertKind → AlertAction
  | some kind => .show kind
  | none => .hide

namespace Snapshot

def reduceStartup (s : Snapshot) : StartupAction → Snapshot
  | .showStartFlow => { s with startFlowVisible := true }
  | .hideStartFlow => { s with startFlowVisible := false, rootModal := .none }
  | .reset => { initial s.persisted with loginRequired := false }
  | .requireLogin => { s with loginRequired := true }
  | .loginSuccess => { s with loginRequired := false }

def reduceModal (s : Snapshot) : ModalAction → Snapshot
  | .present modal => { s with startFlowVisible := false, rootModal := modal }

def reduceCurrency (s : Snapshot) : CurrencyAction → Snapshot
  | .toggleDisplay => { s with altCurrencyDisplayed := !s.altCurrencyDisplayed }
  | .setDefault code => { s with defaultCurrencyCode := code }
  | .setExchangeRates current rates => { s with currentRate := some current, rates := rates }
  | .setCurrentRate rate => { s with currentRate := some rate }

def reduceAlert (s : Snapshot) : AlertAction → Snapshot
  | .show kind => { s with alert := some kind }
  | .hide => { s with alert := none }

def reduceSettings (s : Snapshot) : SettingsAction → Snapshot
  | .setTouchIdEnabled enabled => { s with touchIdEnabled := enabled }
  | .setPromptingTouchId prompting => { s with promptingTouchId := prompting }
  | .setPushNotificationsEnabled enabled => { s with pushNotificationsEnabled := enabled }
  | .setPinLength length => { s with pinLength := length }
  | .setMaxDisplayDigits digits => { s with maxDisplayDigits := digits }
  | .setRecommendRescan recommend => { s with recommendRescan := recommend }
  | .setLoadingTransactions loading => { s with loadingTransactions := loading }
  | .setFees fees => { s with fees := fees }

end Snapshot

def Wallet.reduce (w : Wallet) : WalletAction → Wallet
  | .setSyncProgress progress timestamp =>
    { w with syncProgress := progress, lastBlockTimestamp := timestamp }
  | .setSyncState state => { w with syncState := state }
  | .setBalance balance => { w with balance := some balance }
  | .setTransactions transactions => { w with transactions := transactions }
  | .setName name => { w with name := name }
  | .setCreationDate date => { w with creationDate := date }
  | .setIsRescanning rescanning => { w with rescanning := rescanning }
  | .setIsConnected connected => { w with connected := connected }

def Snapshot.reduce (s : Snapshot) : Action → Snapshot
  | .startup action => s.reduceStartup action
  | .modal action => s.reduceModal action
  | .wallet action => { s with wallet := s.wallet.reduce action }
  | .currency action => s.reduceCurrency action
  | .alert action => s.reduceAlert action
  | .settings action => s.reduceSettings action
  | .idle => s

def Action.domain : Action → String
  | .startup _ => "Startup"
  | .modal _ => "Modal"
  | .wallet _ => "Wallet"
  | .currency _ => "Currency"
  | .alert _ => "Alert"
  | .settings _ => "Settings"
  | .idle => "None"

def Action.variant : Action → String
  | .startup .showStartFlow => "ShowStartFlow"
  | .startup .hideStartFlow => "HideStartFlow"
  | .startup .reset => "Reset"
  | .startup .requireLogin => "RequireLogin"
  | .startup .loginSuccess => "LoginSuccess"
  | .modal (.present _) => "Present"
  | .wallet (.setSyncProgress ..) => "SetSyncProgress"
  | .wallet (.setSyncState _) => "SetSyncState"
  | .wallet (.setBalance _) => "SetBalance"
  | .wallet (.setTransactions _) => "SetTransactions"
  | .wallet (.setName _) => "SetName"
  | .wallet (.setCreationDate _) => "SetCreationDate"
  | .wallet (.setIsRescanning _) => "SetIsRescanning"
  | .wallet (.setIsConnected _) => "SetIsConnected"
  | .currency .toggleDisplay => "ToggleDisplay"
  | .currency (.setDefault _) => "SetDefault"
  | .currency (.setExchangeRates ..) => "SetExchangeRates"
  | .currency (.setCurrentRate _) => "SetCurrentRate"
  | .alert (.show _) => "Show"
  | .alert .hide => "Hide"
  | .settings (.setTouchIdEnabled _) => "SetTouchIdEnabled"
  | .settings (.setPromptingTouchId _) => "SetPromptingTouchId"
  | .settings (.setPushNotificationsEnabled _) => "SetPushNotificationsEnabled"
  | .settings (.setPinLength _) => "SetPinLength"
  | .settings (.setMaxDisplayDigits _) => "SetMaxDisplayDigits"
  | .settings (.setRecommendRescan _) => "SetRecommendRescan"
  | .settings (.setLoadingTransactions _) => "SetLoadingTransactions"
  | .settings (.setFees _) => "SetFees"
  | .idle => "None"

def Action.name : Action → String
  | .idle => "None"
  | a => a.domain ++ "." ++ a.variant

end WalletLoop
