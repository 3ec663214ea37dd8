import WalletLoop.Wallet

namespace WalletLoop

inductive RootModal where
  | none
  | send
  | receive
  | menu
  | loginAddress
  | loginScan
  | manageWallet
  | requestAmount
deriving DecidableEq

inductive AlertKind where
  | pinSet
  | paperKeySet
  | sendSuccess
  | resolvedSuccess
  | addressesCopied
  | sweepSuccess
deriving DecidableEq

structure Persisted where
  altCurrencyDisplayed : Bool
  touchIdEnabled : Bool
  maxDisplayDigits : Int64
  pushNotificationsEnabled : Bool
  defaultCurrencyCode : String
deriving DecidableEq

structure Snapshot where
  startFlowVisible : Bool
  loginRequired : Bool
  rootModal : RootModal
  wallet : Wallet
  altCurrencyDisplayed : Bool
  alert : Option AlertKind
  touchIdEnabled : Bool
  promptingTouchId : Bool
  pushNotificationsEnabled : Bool
  recommendRescan : Bool
  loadingTransactions : Bool
  maxDisplayDigits : UInt32
  pinLength : UInt64
  fees : Fees
  defaultCurrencyCode : String
  currentRate : Option Rate
  rates : List Rate
deriving DecidableEq

namespace RootModal

def all : List RootModal :=
  [.none, .send, .receive, .menu, .loginAddress, .loginScan, .manageWallet, .requestAmount]

def name : RootModal → String
  | .none => "None"
  | .send => "Send"
  | .receive => "Receive"
  | .menu => "Menu"
  | .loginAddress => "LoginAddress"
  | .loginScan => "LoginScan"
  | .manageWallet => "ManageWallet"
  | .requestAmount => "RequestAmount"

def isPresented (m : RootModal) : Bool := decide (m ≠ .none)

end RootModal

namespace AlertKind

def all : List AlertKind :=
  [.pinSet, .paperKeySet, .sendSuccess, .resolvedSuccess, .addressesCopied, .sweepSuccess]

def name : AlertKind → String
  | .pinSet => "PinSet"
  | .paperKeySet => "PaperKeySet"
  | .sendSuccess => "SendSuccess"
  | .resolvedSuccess => "ResolvedSuccess"
  | .addressesCopied => "AddressesCopied"
  | .sweepSuccess => "SweepSuccess"

end AlertKind

namespace Persisted

def standard : Persisted where
  altCurrencyDisplayed := false
  touchIdEnabled := false
  maxDisplayDigits := 2
  pushNotificationsEnabled := false
  defaultCurrencyCode := "USD"

def digits? (p : Persisted) : Option UInt32 :=
  if 0 ≤ p.maxDisplayDigits.toInt ∧ p.maxDisplayDigits.toInt < UInt32.size then
    some (UInt32.ofNat p.maxDisplayDigits.toInt.toNat)
  else none

end Persisted

namespace Snapshot

/-- The snapshot at the start of the program. A number of digits out of range counts as two. -/
def initial (p : Persisted) : Snapshot where
  startFlowVisible := false
  loginRequired := true
  rootModal := .none
  wallet := .initial
  altCurrencyDisplayed := p.altCurrencyDisplayed
  alert := none
  touchIdEnabled := p.touchIdEnabled
  promptingTouchId := false
  pushNotificationsEnabled := p.pushNotificationsEnabled
  recommendRescan := false
  loadingTransactions := false
  maxDisplayDigits := p.digits?.getD 2
  pinLength := 6
  fees := .standard
  defaultCurrencyCode := p.defaultCurrencyCode
  currentRate := none
  rates := []

def persisted (s : Snapshot) : Persisted where
  altCurrencyDisplayed := s.altCurrencyDisplayed
  touchIdEnabled := s.touchIdEnabled
  maxDisplayDigits := Int64.ofInt s.maxDisplayDigits.toNat
  pushNotificationsEnabled := s.pushNotificationsEnabled
  defaultCurrencyCode := s.defaultCurrencyCode

end Snapshot
end WalletLoop
