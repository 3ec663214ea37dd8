import WalletLoop.Preferences.Settings
import WalletLoop.Proofs.Snapshot.LastWrite

namespace WalletLoop

def Lookup.found? (get : Lookup) (key : String) : Option Preference :=
  match get key with
  | .ok value => value
  | .error _ => none

namespace Field

def key? : Field → Option String
  | altCurrencyDisplayed => some SettingKey.altCurrencyDisplayed
  | touchIdEnabled => some SettingKey.touchIdEnabled
  | maxDisplayDigits => some SettingKey.maxDisplayDigits
  | pushNotificationsEnabled => some SettingKey.pushToken
  | defaultCurrencyCode => some SettingKey.defaultCurrencyCode
  | _ => none

def accept? : (f : Field) → Preference → Option f.Content
  | altCurrencyDisplayed, .flag b | touchIdEnabled, .flag b => some b
  | maxDisplayDigits, .number n =>
    if 0 ≤ n.toInt ∧ n.toInt ≤ 4294967295 then some (UInt32.ofNat n.toInt.toNat) else none
  | pushNotificationsEnabled, .text _ => some true
  | defaultCurrencyCode, .text s => some s
  | _, _ => none

def atStart (found : String → Option Preference) (f : Field) : f.Content :=
  ((f.key?.bind found).bind f.accept?).getD (f.read (.initial .standard))

end Field

namespace Persisted

variable {α β : Type} {get : Lookup} {kind : PreferenceKind} {cast accept : Preference → Option α}
  {key : String}

theorem orStandard_eq (key : String) (found : Except PreferenceError (Option α)) (standard : α) :
    (orStandard key found standard).1 = (found.toOption.bind id).getD standard := by
  cases found <;> rfl

theorem typed_found (same : ∀ value, cast value = accept value) :
    (get.typed kind cast key).toOption.bind id = (get.found? key).bind accept := by
  unfold Lookup.typed Lookup.found?
  cases get key with
  | error e => rfl
  | ok value =>
      cases value with
      | none => rfl
      | some value =>
          simp only [Except.bind, Option.bind_some, ← same]
          cases cast value <;> rfl

theorem map_found (f : α → β) (found : Except PreferenceError (Option α)) :
    (found.map fun value => value.map f).toOption.bind id = (found.toOption.bind id).map f := by
  cases found <;> rfl

theorem orStandard_typed (same : ∀ value, cast value = accept value) (standard : α) :
    (orStandard key (get.typed kind cast key) standard).1 =
      ((get.found? key).bind accept).getD standard := by
  rw [orStandard_eq, typed_found same]

theorem digits?_getD (p : Persisted) :
    p.digits?.getD 2 = (Field.maxDisplayDigits.accept? (.number p.maxDisplayDigits)).getD
      (Field.maxDisplayDigits.read (.initial .standard)) := by
  have bound : p.maxDisplayDigits.toInt < UInt32.size ↔
      p.maxDisplayDigits.toInt ≤ 4294967295 := by
    unfold UInt32.size
    omega
  simp only [digits?, Field.accept?, bound]
  rfl

theorem load_maxDisplayDigits (get : Lookup) :
    (load get).1.maxDisplayDigits =
      ((get.found? SettingKey.maxDisplayDigits).bind fun
        | .number n => some n
        | _ => none).getD 2 :=
  orStandard_typed (fun _ => rfl) _

end Persisted

open Persisted in
theorem read_initial_load (get : Lookup) (f : Field) :
    f.read (.initial (load get).1) = f.atStart get.found? := by
  cases f with
  | altCurrencyDisplayed | touchIdEnabled | defaultCurrencyCode =>
      exact orStandard_typed (fun value => by cases value <;> rfl) _
  | maxDisplayDigits =>
      refine (digits?_getD _).trans ?_
      rw [load_maxDisplayDigits]
      change _ = ((get.found? SettingKey.maxDisplayDigits).bind _).getD _
      rcases get.found? SettingKey.maxDisplayDigits with _ | ⟨_ | n | _⟩ <;> rfl
  | pushNotificationsEnabled =>
      refine (orStandard_eq _ _ _).trans ?_
      rw [map_found, Lookup.text, typed_found (fun _ => rfl)]
      change _ = ((get.found? SettingKey.pushToken).bind _).getD _
      rcases get.found? SettingKey.pushToken with _ | ⟨_ | _ | s⟩ <;> rfl
  | _ => rfl

theorem atStart_congr {found found' : String → Option Preference} {f : Field}
    (alike : ∀ key ∈ f.key?, found key = found' key) : f.atStart found = f.atStart found' := by
  unfold Field.atStart
  rw [Option.bind_congr alike]

theorem initial_persisted (p : Persisted) :
    Snapshot.initial (Snapshot.initial p).persisted = .initial p := by
  have digits := Snapshot.digits?_persisted (.initial p)
  unfold Snapshot.initial at digits ⊢
  rw [digits]
  rfl

/-- At the start every field is what the preference under its own key makes of it, and has its
standard content if there is none, none that can be read, or one of another kind or out of range.
What stands under other keys makes no difference to it, and a second start, from the settings of the
snapshot, gives the same snapshot. -/
theorem settings_at_start (get : Lookup) :
    let s := Snapshot.initial (Persisted.load get).1
    (∀ f : Field, f.read s = f.atStart get.found?) ∧
      (∀ (other : Lookup) (f : Field), (∀ key ∈ f.key?, get key = other key) →
        f.read s = f.read (.initial (Persisted.load other).1)) ∧
      Snapshot.initial s.persisted = s := by
  refine ⟨read_initial_load get, ?_, initial_persisted _⟩
  intro other f alike
  rw [read_initial_load, read_initial_load]
  refine atStart_congr fun key mine => ?_
  rw [Lookup.found?, Lookup.found?, alike key mine]

end WalletLoop
