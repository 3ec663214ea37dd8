namespace WalletLoop

inductive Trigger where
  | lock
  | rescan
  | retrySync
  | blockModalDismissal
  | unblockModalDismissal
  | presentFaq (article : String)
  | showStatusBar
  | hideStatusBar
deriving DecidableEq

namespace Trigger

def name : Trigger → String
  | .lock => "Lock"
  | .rescan => "Rescan"
  | .retrySync => "RetrySync"
  | .blockModalDismissal => "BlockModalDismissal"
  | .unblockModalDismissal => "UnblockModalDismissal"
  | .presentFaq _ => "PresentFaq"
  | .showStatusBar => "ShowStatusBar"
  | .hideStatusBar => "HideStatusBar"

/-- Two triggers match when they are of the same kind, whatever they carry. -/
def isSameKind : Trigger → Trigger → Bool
  | .presentFaq _, .presentFaq _ => true
  | .presentFaq _, _ => false
  | _, .presentFaq _ => false
  | a, b => a == b

end Trigger
end WalletLoop
