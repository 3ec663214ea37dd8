import WalletLoop.Log.Notice

/-!
The settings that outlive the program, as preferences. Each is read from a key of its own: where a
key is missing, cannot be read or holds another kind of value, that setting alone takes its standard
value.
-/

namespace WalletLoop

abbrev Lookup := String → Except PreferenceError (Option Preference)

namespace Lookup

def typed {α : Type} (get : Lookup) (kind : PreferenceKind) (cast : Preference → Option α)
    (key : String) : Except PreferenceError (Option α) :=
  (get key).bind fun
    | none => .ok none
    | some value =>
      match cast value with
      | some a => .ok (some a)
      | none => .error (.mismatch key kind value.kind)

def flag (get : Lookup) : String → Except PreferenceError (Option Bool) :=
  get.typed .flag fun
    | .flag b => some b
    | _ => none

def number (get : Lookup) : String → Except PreferenceError (Option Int64) :=
  get.typed .number fun
    | .number n => some n
    | _ => none

def text (get : Lookup) : String → Except PreferenceError (Option String) :=
  get.typed .text fun
    | .text s => some s
    | _ => none

end Lookup

namespace SettingKey

def altCurrencyDisplayed : String := "isBtcSwapped"

def touchIdEnabled : String := "istouchidenabled"

def maxDisplayDigits : String := "SETTINGS_MAX_DIGITS"

def defaultCurrencyCode : String := "defaultcurrency"

/-- Any text under this key means that the device is registered for push notifications. -/
def pushToken : String := "pushToken"

end SettingKey

namespace Persisted

def orStandard {α : Type} (key : String) (found : Except PreferenceError (Option α))
    (standard : α) : α × List Notice :=
  match found with
  | .ok value => (value.getD standard, [])
  | .error e => (standard, [.unreadable key e])

def load (get : Lookup) : Persisted × List Notice :=
  let alt := orStandard SettingKey.altCurrencyDisplayed
    (get.flag SettingKey.altCurrencyDisplayed) standard.altCurrencyDisplayed
  let touch := orStandard SettingKey.touchIdEnabled
    (get.flag SettingKey.touchIdEnabled) standard.touchIdEnabled
  let digits := orStandard SettingKey.maxDisplayDigits
    (get.number SettingKey.maxDisplayDigits) standard.maxDisplayDigits
  let push := orStandard SettingKey.pushToken
    ((get.text SettingKey.pushToken).map fun token => token.map fun _ => true)
    standard.pushNotificationsEnabled
  let currency := orStandard SettingKey.defaultCurrencyCode
    (get.text SettingKey.defaultCurrencyCode) standard.defaultCurrencyCode
  ({ altCurrencyDisplayed := alt.1
     touchIdEnabled := touch.1
     maxDisplayDigits := digits.1
     pushNotificationsEnabled := push.1
     defaultCurrencyCode := currency.1 },
   alt.2 ++ touch.2 ++ digits.2 ++ push.2 ++ currency.2)

def notices (p : Persisted) : List Notice :=
  if p.digits?.isNone then [.digitsOutOfRange p.maxDisplayDigits] else []

end Persisted

namespace Action

/-- The preference that an action changes, with its new value, given the snapshot before it. -/
def preference? (s : Snapshot) : Action → Option Entry
  | .currency .toggleDisplay =>
    some (SettingKey.altCurrencyDisplayed, .flag (!s.altCurrencyDisplayed))
  | .currency (.setDefault code) => some (SettingKey.defaultCurrencyCode, .text code)
  | .settings (.setTouchIdEnabled enabled) => some (SettingKey.touchIdEnabled, .flag enabled)
  | .settings (.setMaxDisplayDigits digits) =>
    some (SettingKey.maxDisplayDigits, .number (Int64.ofInt digits.toNat))
  | _ => none

end Action
end WalletLoop
