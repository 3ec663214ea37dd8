import WalletLoop.Proofs.Snapshot.LastWrite

namespace WalletLoop

namespace Snapshot

theorem reduce_reduce (s : Snapshot) {a : Action} (other : a ≠ .currency .toggleDisplay) :
    (s.reduce a).reduce a = s.reduce a := by
  refine Field.ext_read fun f => ?_
  by_cases set : f = .altCurrencyDisplayed
  · subst set
    change ((s.reduce a).reduce a).altCurrencyDisplayed = (s.reduce a).altCurrencyDisplayed
    rw [altCurrencyDisplayed_reduce, if_neg other]
  · rw [read_reduce _ a set, read_reduce s a set]
    cases a.write? f <;> rfl

end Snapshot

namespace Field

def holdsNaN (s : Snapshot) : Field → Bool
  | syncProgress => s.wallet.syncProgress.isNaN
  | currentRate => s.currentRate.any fun r => r.rate.isNaN
  | rates => s.rates.any fun r => r.rate.isNaN
  | _ => false

end Field

def Aspect.holdsNaN (s : Snapshot) (aspect : Aspect) : Bool :=
  aspect.fields.any (Field.holdsNaN s)

theorem Binary64.same_self (x : Binary64) : x.same x = !x.isNaN := by
  simp [Binary64.same]

namespace Rate

theorem same_self (r : Rate) : r.same r = !r.rate.isNaN := by
  simp [same, Binary64.same_self]

theorem sameList_self (rs : List Rate) : sameList rs rs = !rs.any fun r => r.rate.isNaN := by
  induction rs with
  | nil => rfl
  | cons r rs ih => rw [sameList, same_self, ih, List.any_cons, Bool.not_or]

theorem sameOptional_self (r : Option Rate) :
    sameOptional r r = !r.any fun r => r.rate.isNaN := by
  cases r with
  | none => rfl
  | some r => exact same_self r

end Rate

theorem Field.same_self (s : Snapshot) (f : Field) : f.same s s = !f.holdsNaN s := by
  cases f with
  | syncProgress => exact Binary64.same_self _
  | currentRate => exact Rate.sameOptional_self _
  | rates => exact Rate.sameList_self _
  | _ => exact beq_self_eq_true _

theorem Aspect.differs_self (aspect : Aspect) (s : Snapshot) :
    aspect.differs s s = aspect.holdsNaN s := by
  rw [differs, holdsNaN, List.not_all_eq_any_not]
  simp only [Field.same_self, Bool.not_not]

end WalletLoop
