import WalletLoop.Binary64.Shortest
import WalletLoop.Json.Reading
import WalletLoop.Preferences.Table
import WalletLoop.Snapshot

namespace WalletLoop

def jsonLayout : Binary64.Layout where
  leastPlain := -5
  plainEnd := 16
  tiesUp := false
  plus := true

namespace Json

def ofBinary64 (x : Binary64) : Json :=
  if x.isFinite then .number (x.numeral jsonLayout) else .null

def optional {α : Type} (write : α → Json) : Option α → Json
  | none => .null
  | some a => write a

end Json

def Transaction.json (t : Transaction) : Json :=
  .record [
    ("hash", .ofString t.hash),
    ("direction", .ofString t.direction.name),
    ("amount", .ofNat t.amount.toNat),
    ("fee", .ofNat t.fee.toNat),
    ("timestamp", .ofNat t.timestamp.toNat),
    ("block_height", .optional (fun n => .ofNat n.toNat) t.blockHeight)]

def Wallet.json (w : Wallet) : Json :=
  .record [
    ("connected", .flag w.connected),
    ("sync_progress", .ofBinary64 w.syncProgress),
    ("sync_state", .ofString w.syncState.name),
    ("balance", .optional (fun n => .ofNat n.toNat) w.balance),
    ("transactions", .array (w.transactions.map Transaction.json)),
    ("last_block_timestamp", .ofNat w.lastBlockTimestamp.toNat),
    ("name", .ofString w.name),
    ("creation_date", .ofString w.creationDate.text),
    ("rescanning", .flag w.rescanning)]

def Rate.json (r : Rate) : Json :=
  .record [("code", .ofString r.code), ("name", .ofString r.name), ("rate", .ofBinary64 r.rate)]

def Fees.json (f : Fees) : Json :=
  .record [("regular", .ofNat f.regular.toNat), ("economy", .ofNat f.economy.toNat)]

def Snapshot.json (s : Snapshot) : Json :=
  .record [
    ("start_flow_visible", .flag s.startFlowVisible),
    ("login_required", .flag s.loginRequired),
    ("root_modal", .ofString s.rootModal.name),
    ("wallet", s.wallet.json),
    ("alt_currency_displayed", .flag s.altCurrencyDisplayed),
    ("alert", .optional (fun kind => .ofString kind.name) s.alert),
    ("touch_id_enabled", .flag s.touchIdEnabled),
    ("prompting_touch_id", .flag s.promptingTouchId),
    ("push_notifications_enabled", .flag s.pushNotificationsEnabled),
    ("recommend_rescan", .flag s.recommendRescan),
    ("loading_transactions", .flag s.loadingTransactions),
    ("max_display_digits", .ofNat s.maxDisplayDigits.toNat),
    ("pin_length", .ofNat s.pinLength.toNat),
    ("fees", s.fees.json),
    ("default_currency_code", .ofString s.defaultCurrencyCode),
    ("current_rate", .optional Rate.json s.currentRate),
    ("rates", .array (s.rates.map Rate.json))]

namespace Json

/-- The values of a record with these names: from an object the value of each, which has to occur
exactly once, from an array the items. -/
def values? (names : List String) : Json → Option (List Json)
  | .object members =>
    if members.all fun m => m.1.isSome then
      names.mapM fun name =>
        match members.filter fun m => m.1 == some name with
        | [m] => some m.2
        | _ => none
    else none
  | .array items => if items.length = names.length then some items else none
  | _ => none

def asString? : Json → Option String
  | .text s => s
  | _ => none

def asUInt64? : Json → Option UInt64
  | .number n =>
    n.toInt?.bind fun i => if 0 ≤ i ∧ i < UInt64.size then some (UInt64.ofNat i.toNat) else none
  | _ => none

def asBinary64? : Json → Option Binary64
  | .number n => Binary64.ofNumeral? n
  | _ => none

end Json

def Fees.ofJson? (j : Json) : Option Fees :=
  match j.values? ["regular", "economy"] with
  | some [regular, economy] =>
    regular.asUInt64?.bind fun regular => economy.asUInt64?.map fun economy => ⟨regular, economy⟩
  | _ => none

def Rate.ofJson? (j : Json) : Option Rate :=
  match j.values? ["code", "name", "rate"] with
  | some [code, name, rate] =>
    code.asString?.bind fun code => name.asString?.bind fun name =>
      rate.asBinary64?.map fun rate => ⟨code, name, rate⟩
  | _ => none

def Preference.ofJson? : Json → Option Preference
  | .flag b => some (.flag b)
  | .number n =>
    n.toInt?.bind fun i =>
      if Int64.minValue.toInt ≤ i ∧ i ≤ Int64.maxValue.toInt then some (.number (Int64.ofInt i)) else none
  | .text (some s) => some (.text s)
  | _ => none

end WalletLoop
