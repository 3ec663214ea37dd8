import Mathlib.Data.List.Induction
import Mathlib.Logic.Function.Iterate
import WalletLoop.Proofs.Snapshot.Fields

namespace WalletLoop

/-- What a reset writes into a field. It spares the settings that outlive the program. -/
def Field.fresh? : (f : Field) → Option f.Content
  | .altCurrencyDisplayed | .touchIdEnabled | .pushNotificationsEnabled | .maxDisplayDigits
  | .defaultCurrencyCode => none
  | .startFlowVisible | .loginRequired | .connected | .rescanning | .promptingTouchId
  | .recommendRescan | .loadingTransactions => some false
  | .rootModal => some .none
  | .syncProgress => some ⟨0⟩
  | .syncState => some .success
  | .balance => some none
  | .transactions => some []
  | .lastBlockTimestamp => some 0
  | .walletName => some "My Wallet"
  | .creationDate => some .epoch
  | .alert => some none
  | .pinLength => some 6
  | .fees => some ⟨10000, 5000⟩
  | .currentRate => some none
  | .rates => some []

def StartupAction.write? : StartupAction → (f : Field) → Option f.Content
  | .showStartFlow, .startFlowVisible => some true
  | .hideStartFlow, .startFlowVisible => some false
  | .hideStartFlow, .rootModal => some .none
  | .reset, f => f.fresh?
  | .requireLogin, .loginRequired => some true
  | .loginSuccess, .loginRequired => some false
  | _, _ => none

def ModalAction.write? : ModalAction → (f : Field) → Option f.Content
  | .present _, .startFlowVisible => some false
  | .present modal, .rootModal => some modal
  | _, _ => none

def WalletAction.write? : WalletAction → (f : Field) → Option f.Content
  | .setSyncProgress progress _, .syncProgress => some progress
  | .setSyncProgress _ timestamp, .lastBlockTimestamp => some timestamp
  | .setSyncState state, .syncState => some state
  | .setBalance balance, .balance => some (some balance)
  | .setTransactions transactions, .transactions => some transactions
  | .setName name, .walletName => some name
  | .setCreationDate date, .creationDate => some date
  | .setIsRescanning rescanning, .rescanning => some rescanning
  | .setIsConnected connected, .connected => some connected
  | _, _ => none

def CurrencyAction.write? : CurrencyAction → (f : Field) → Option f.Content
  | .setDefault code, .defaultCurrencyCode => some code
  | .setExchangeRates current _, .currentRate => some (some current)
  | .setExchangeRates _ rates, .rates => some rates
  | .setCurrentRate rate, .currentRate => some (some rate)
  | _, _ => none

def AlertAction.write? : AlertAction → (f : Field) → Option f.Content
  | .show kind, .alert => some (some kind)
  | .hide, .alert => some none
  | _, _ => none

def SettingsAction.write? : SettingsAction → (f : Field) → Option f.Content
  | .setTouchIdEnabled enabled, .touchIdEnabled => some enabled
  | .setPromptingTouchId prompting, .promptingTouchId => some prompting
  | .setPushNotificationsEnabled enabled, .pushNotificationsEnabled => some enabled
  | .setPinLength length, .pinLength => some length
  | .setMaxDisplayDigits digits, .maxDisplayDigits => some digits
  | .setRecommendRescan recommend, .recommendRescan => some recommend
  | .setLoadingTransactions loading, .loadingTransactions => some loading
  | .setFees fees, .fees => some fees
  | _, _ => none

def Action.write? : Action → (f : Field) → Option f.Content
  | .startup action, f => action.write? f
  | .modal action, f => action.write? f
  | .wallet action, f => action.write? f
  | .currency action, f => action.write? f
  | .alert action, f => action.write? f
  | .settings action, f => action.write? f
  | .idle, _ => none

def lastWrite? (as : List Action) (f : Field) : Option f.Content :=
  as.reverse.findSome? (·.write? f)

theorem lastWrite?_concat (as : List Action) (a : Action) (f : Field) :
    lastWrite? (as ++ [a]) f = (a.write? f).or (lastWrite? as f) := by
  cases written : a.write? f <;> simp [lastWrite?, written]

namespace Snapshot

theorem digits?_persisted (s : Snapshot) : s.persisted.digits? = some s.maxDisplayDigits := by
  have below : s.maxDisplayDigits.toNat < UInt32.size := s.maxDisplayDigits.toNat_lt_size
  have small : (s.maxDisplayDigits.toNat : Int) < 2 ^ 63 := by
    have : UInt32.size < 2 ^ 63 := by decide
    omega
  have kept : s.persisted.maxDisplayDigits.toInt = s.maxDisplayDigits.toNat :=
    Int64.toInt_ofInt_of_le (by omega) small
  unfold Persisted.digits?
  rw [kept, if_pos ⟨by omega, by exact_mod_cast below⟩, Int.toNat_natCast, UInt32.ofNat_toNat]

theorem reset_eq (s : Snapshot) :
    s.reduce (.startup .reset) =
      { initial .standard with
        loginRequired := false
        altCurrencyDisplayed := s.altCurrencyDisplayed
        touchIdEnabled := s.touchIdEnabled
        pushNotificationsEnabled := s.pushNotificationsEnabled
        maxDisplayDigits := s.maxDisplayDigits
        defaultCurrencyCode := s.defaultCurrencyCode } := by
  have digits : s.persisted.digits?.getD 2 = s.maxDisplayDigits := by
    rw [digits?_persisted, Option.getD_some]
  simp only [reduce, reduceStartup, initial, digits]
  rfl

theorem read_reset (s : Snapshot) (f : Field) :
    f.read (s.reduce (.startup .reset)) = f.fresh?.getD (f.read s) := by
  rw [reset_eq]
  cases f <;> rfl

theorem read_reduceStartup (s : Snapshot) (action : StartupAction) (f : Field) :
    f.read (s.reduce (.startup action)) = (action.write? f).getD (f.read s) := by
  cases action with
  | reset => exact read_reset s f
  | _ => cases f <;> rfl

theorem read_reduce (s : Snapshot) (a : Action) {f : Field} (set : f ≠ .altCurrencyDisplayed) :
    f.read (s.reduce a) = (a.write? f).getD (f.read s) := by
  cases a with
  | startup action => exact read_reduceStartup s action f
  | modal action => cases action; cases f <;> rfl
  | wallet action => cases action <;> cases f <;> rfl
  | currency action =>
      cases f with
      | altCurrencyDisplayed => exact absurd rfl set
      | _ => cases action <;> rfl
  | alert action => cases action <;> cases f <;> rfl
  | settings action => cases action <;> cases f <;> rfl
  | idle => rfl

theorem altCurrencyDisplayed_reduce (s : Snapshot) (a : Action) :
    (s.reduce a).altCurrencyDisplayed =
      if a = .currency .toggleDisplay then !s.altCurrencyDisplayed else s.altCurrencyDisplayed := by
  cases a with
  | startup action => cases action <;> rfl
  | modal action => cases action; rfl
  | currency action => cases action <;> rfl
  | alert action => cases action <;> rfl
  | settings action => cases action <;> rfl
  | _ => rfl

theorem read_fold (s : Snapshot) (as : List Action) {f : Field}
    (set : f ≠ .altCurrencyDisplayed) :
    f.read (as.foldl reduce s) = (lastWrite? as f).getD (f.read s) := by
  induction as using List.reverseRecOn with
  | nil => rfl
  | append_singleton as a ih =>
      rw [List.foldl_append, List.foldl_cons, List.foldl_nil, read_reduce _ a set, ih,
        lastWrite?_concat]
      cases a.write? f <;> rfl

theorem altCurrencyDisplayed_fold (s : Snapshot) (as : List Action) :
    (as.foldl reduce s).altCurrencyDisplayed =
      not^[as.count (.currency .toggleDisplay)] s.altCurrencyDisplayed := by
  induction as using List.reverseRecOn with
  | nil => rfl
  | append_singleton as a ih =>
      rw [List.foldl_append, List.foldl_cons, List.foldl_nil, altCurrencyDisplayed_reduce, ih,
        List.count_append]
      by_cases toggles : a = .currency .toggleDisplay
      · rw [if_pos toggles, toggles, List.count_singleton_self, Function.iterate_succ_apply']
      · have absent : [a].count (.currency .toggleDisplay) = 0 :=
          List.count_eq_zero.2 (by simpa using Ne.symm toggles)
        rw [if_neg toggles, absent, Nat.add_zero]

/-- After any actions, each field holds, bit for bit, what the last action that writes there wrote,
or what it held at first if none of them does. The display of currencies is flipped by every
toggle. -/
theorem last_write_wins (s : Snapshot) (as : List Action) :
    (∀ f : Field, f ≠ .altCurrencyDisplayed →
      f.read (as.foldl reduce s) = (lastWrite? as f).getD (f.read s)) ∧
      (as.foldl reduce s).altCurrencyDisplayed =
        not^[as.count (.currency .toggleDisplay)] s.altCurrencyDisplayed :=
  ⟨fun _ set => read_fold s as set, altCurrencyDisplayed_fold s as⟩

end Snapshot
end WalletLoop
