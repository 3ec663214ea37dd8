import Mathlib.Algebra.Group.Nat.Defs
import WalletLoop.Decimal.Numeral

namespace WalletLoop.Digit

theorem ofNat_of_lt {n : Nat} (small : n < 10) : ofNat n = [⟨n, small⟩] := by
  rw [ofNat, dif_pos small]

theorem ofNat_of_le {n : Nat} (large : 10 ≤ n) :
    ofNat n = ofNat (n / 10) ++ [⟨n % 10, Nat.mod_lt n (by decide)⟩] := by
  rw [ofNat, dif_neg (Nat.not_lt.2 large)]

theorem toNat_concat (digits : List Digit) (d : Digit) :
    toNat (digits ++ [d]) = 10 * toNat digits + d.val := by
  simp [toNat]

theorem toNat_ofNat (n : Nat) : toNat (ofNat n) = n := by
  induction n using Nat.strongRecOn with
  | ind n ih =>
      by_cases small : n < 10
      · simp [ofNat_of_lt small, toNat]
      · rw [ofNat_of_le (by omega), toNat_concat, ih (n / 10) (by omega)]
        exact Nat.div_add_mod n 10

theorem ofNat_ne_nil (n : Nat) : ofNat n ≠ [] := by
  by_cases small : n < 10
  · simp [ofNat_of_lt small]
  · simp [ofNat_of_le (Nat.not_lt.1 small)]

theorem head_ofNat {n : Nat} (large : 10 ≤ n) : ∃ d digits, ofNat n = d :: digits ∧ d ≠ zero := by
  induction n using Nat.strongRecOn with
  | ind n ih =>
      rw [ofNat_of_le large]
      by_cases small : n / 10 < 10
      · refine ⟨⟨n / 10, small⟩, _, by rw [ofNat_of_lt small]; rfl, ?_⟩
        intro zero
        have none : n / 10 = 0 := congrArg Fin.val zero
        omega
      · obtain ⟨d, digits, same, nonzero⟩ := ih (n / 10) (by omega) (Nat.not_lt.1 small)
        exact ⟨d, _, by rw [same]; rfl, nonzero⟩

theorem toNat_zeros (count : Nat) (digits : List Digit) :
    toNat (List.replicate count zero ++ digits) = toNat digits := by
  have zeros : ∀ count, (List.replicate count zero).foldl (fun n d => 10 * n + d.val) 0 = 0 := by
    intro count
    induction count with
    | zero => rfl
    | succ count ih => exact ih
  rw [toNat, List.foldl_append, zeros]
  rfl

theorem length_ofNat_le {n width : Nat} (fits : n < 10 ^ (width + 1)) :
    (ofNat n).length ≤ width + 1 := by
  induction width generalizing n with
  | zero => simp [ofNat_of_lt (show n < 10 by simpa using fits)]
  | succ width ih =>
      by_cases small : n < 10
      · simp [ofNat_of_lt small]
      · have shorter := ih (n := n / 10) (Nat.div_lt_of_lt_mul (by rw [← Nat.pow_succ']; exact fits))
        rw [ofNat_of_le (Nat.not_lt.1 small), List.length_append, List.length_singleton]
        omega

end WalletLoop.Digit
