import WalletLoop.Action

namespace WalletLoop

structure TelemetryEvent where
  name : String
  attributes : List (String × String)
deriving DecidableEq

def Action.event? : Action → Option TelemetryEvent
  | .settings (.setTouchIdEnabled enabled) =>
    some ⟨"event.enableTouchId", [("isEnabled", if enabled then "true" else "false")]⟩
  | .settings (.setRecommendRescan _) => some ⟨"event.recommendRescan", []⟩
  | .settings (.setMaxDisplayDigits digits) =>
    some ⟨"maxDigits.set", [("maxDigits", decimalText digits.toNat)]⟩
  | _ => none

end WalletLoop
