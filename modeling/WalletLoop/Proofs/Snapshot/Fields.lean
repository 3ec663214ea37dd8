import WalletLoop.Action
import WalletLoop.Field

namespace WalletLoop

namespace Field

abbrev Content : Field → Type
  | startFlowVisible | loginRequired | connected | rescanning | altCurrencyDisplayed
  | touchIdEnabled | promptingTouchId | pushNotificationsEnabled | recommendRescan
  | loadingTransactions => Bool
  | rootModal => RootModal
  | syncProgress => Binary64
  | syncState => SyncState
  | balance => Option UInt64
  | transactions => List Transaction
  | lastBlockTimestamp | maxDisplayDigits => UInt32
  | walletName | defaultCurrencyCode => String
  | creationDate => Instant
  | alert => Option AlertKind
  | pinLength => UInt64
  | fees => Fees
  | currentRate => Option Rate
  | rates => List Rate

def read (s : Snapshot) : (f : Field) → f.Content
  | startFlowVisible => s.startFlowVisible
  | loginRequired => s.loginRequired
  | rootModal => s.rootModal
  | connected => s.wallet.connected
  | syncProgress => s.wallet.syncProgress
  | syncState => s.wallet.syncState
  | balance => s.wallet.balance
  | transactions => s.wallet.transactions
  | lastBlockTimestamp => s.wallet.lastBlockTimestamp
  | walletName => s.wallet.name
  | creationDate => s.wallet.creationDate
  | rescanning => s.wallet.rescanning
  | altCurrencyDisplayed => s.altCurrencyDisplayed
  | alert => s.alert
  | touchIdEnabled => s.touchIdEnabled
  | promptingTouchId => s.promptingTouchId
  | pushNotificationsEnabled => s.pushNotificationsEnabled
  | recommendRescan => s.recommendRescan
  | loadingTransactions => s.loadingTransactions
  | maxDisplayDigits => s.maxDisplayDigits
  | pinLength => s.pinLength
  | fees => s.fees
  | defaultCurrencyCode => s.defaultCurrencyCode
  | currentRate => s.currentRate
  | rates => s.rates

theorem ext_read {s s' : Snapshot} (same : ∀ f, read s f = read s' f) : s = s' := by
  obtain ⟨_, _, _, ⟨_, _, _, _, _, _, _, _, _⟩, _, _, _, _, _, _, _, _, _, _, _, _, _⟩ := s
  obtain ⟨_, _, _, ⟨_, _, _, _, _, _, _, _, _⟩, _, _, _, _, _, _, _, _, _, _, _, _, _⟩ := s'
  simp only [Snapshot.mk.injEq, Wallet.mk.injEq]
  exact ⟨same .startFlowVisible, same .loginRequired, same .rootModal,
    ⟨same .connected, same .syncProgress, same .syncState, same .balance, same .transactions,
      same .lastBlockTimestamp, same .walletName, same .creationDate, same .rescanning⟩,
    same .altCurrencyDisplayed, same .alert, same .touchIdEnabled, same .promptingTouchId,
    same .pushNotificationsEnabled, same .recommendRescan, same .loadingTransactions,
    same .maxDisplayDigits, same .pinLength, same .fees, same .defaultCurrencyCode,
    same .currentRate, same .rates⟩

end Field
end WalletLoop
