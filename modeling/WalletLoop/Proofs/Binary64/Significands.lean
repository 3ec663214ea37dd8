import Mathlib.Data.Rat.Cast.Order
import Mathlib.Tactic.FieldSimp
import Mathlib.Tactic.Linarith
import Mathlib.Tactic.Positivity
import Mathlib.Tactic.Ring
import WalletLoop.Binary64.Basic
import WalletLoop.Proofs.Decimal.Digits

namespace WalletLoop

def Numeral.magnitude (n : Numeral) : ℚ :=
  (n.whole + Digit.toNat n.places / 10 ^ n.places.length) * 10 ^ n.exponent.getD 0

namespace Digit

theorem foldl_digits (n : Nat) (digits : List Digit) :
    digits.foldl (fun n d => 10 * n + d.val) n = n * 10 ^ digits.length + toNat digits := by
  induction digits generalizing n with
  | nil => simp [toNat]
  | cons d digits ih =>
      rw [toNat, List.foldl_cons, List.foldl_cons, ih, ih (10 * 0 + d.val), List.length_cons]
      ring

theorem toNat_cons (d : Digit) (digits : List Digit) :
    toNat (d :: digits) = d.val * 10 ^ digits.length + toNat digits := by
  rw [toNat, List.foldl_cons, foldl_digits, Nat.mul_zero, Nat.zero_add]

theorem toNat_lt (digits : List Digit) : toNat digits < 10 ^ digits.length := by
  induction digits with
  | nil => simp [toNat]
  | cons d digits ih =>
      rw [toNat_cons, List.length_cons, pow_succ]
      nlinarith [d.isLt]

end Digit

namespace Binary64

/-- What is kept of a number, and how many of its last digits are not. -/
structure Kept (limit n a dropped : Nat) : Prop where
  low : a * 10 ^ dropped ≤ n
  high : n < (a + 1) * 10 ^ dropped
  full : dropped ≠ 0 → ∃ c < 10, limit ≤ 10 * a + c ∧ (10 * a + c) * 10 ^ (dropped - 1) ≤ n

section Gather
variable {limit : Nat}

theorem kept_gather (limit n : Nat) (digits : List Digit) :
    Kept limit (n * 10 ^ digits.length + Digit.toNat digits) (gather limit n digits).1
      (gather limit n digits).2 := by
  induction digits generalizing n with
  | nil => exact ⟨by simp [gather, Digit.toNat], by simp [gather, Digit.toNat], by simp [gather]⟩
  | cons d digits ih =>
      have rest := Digit.toNat_lt digits
      have all : n * 10 ^ (d :: digits).length + Digit.toNat (d :: digits) =
          (10 * n + d.val) * 10 ^ digits.length + Digit.toNat digits := by
        rw [List.length_cons, Digit.toNat_cons]
        ring
      rw [all, gather]
      split
      · exact ih _
      · refine ⟨?_, ?_, fun _ => ⟨d.val, d.isLt, by omega, by simp⟩⟩ <;> simp only [pow_succ]
        · nlinarith
        · nlinarith [d.isLt]

theorem gather_le_length (limit n : Nat) (digits : List Digit) :
    (gather limit n digits).2 ≤ digits.length := by
  induction digits generalizing n with
  | nil => simp [gather]
  | cons d digits ih =>
      rw [gather]
      split
      · exact (ih _).trans (Nat.le_succ _)
      · simp

theorem gather_lt {n : Nat} (small : n < limit) (digits : List Digit) :
    (gather limit n digits).1 < limit := by
  induction digits generalizing n with
  | nil => simpa [gather]
  | cons d digits ih =>
      rw [gather]
      split
      · exact ih ‹_›
      · exact small

end Gather

structure Near (a : Nat) (power : ℤ) (v : ℚ) : Prop where
  low : a * 10 ^ power ≤ v
  high : v < (a + 10) * 10 ^ power
  exact : v = a * 10 ^ power ∨ 1844674407370955161 ≤ a

theorem Near.scale {a : Nat} {power : ℤ} {v : ℚ} (near : Near a power v) (shift : ℤ) :
    Near a (power + shift) (v * 10 ^ shift) := by
  have ten : (10 : ℚ) ≠ 0 := by norm_num
  have positive : (0 : ℚ) < 10 ^ shift := zpow_pos (by norm_num) shift
  refine ⟨?_, ?_, near.exact.imp_left fun exact => ?_⟩ <;> rw [zpow_add₀ ten, ← mul_assoc]
  · exact mul_le_mul_of_nonneg_right near.low positive.le
  · exact mul_lt_mul_of_pos_right near.high positive
  · rw [exact]

theorem Kept.least {n a dropped : Nat} (kept : Kept UInt64.size n a dropped) (some : dropped ≠ 0) :
    1844674407370955161 ≤ a := by
  obtain ⟨c, small, full, -⟩ := kept.full some
  have size : UInt64.size = 18446744073709551616 := rfl
  omega

theorem Kept.near {n a dropped : Nat} (kept : Kept UInt64.size n a dropped) :
    Near a dropped n := by
  have high : n < (a + 10) * 10 ^ dropped :=
    kept.high.trans_le (Nat.mul_le_mul_right _ (by omega))
  refine ⟨?_, ?_, ?_⟩
  · rw [zpow_natCast]
    exact_mod_cast kept.low
  · rw [zpow_natCast]
    exact_mod_cast high
  · by_cases none : dropped = 0
    · obtain ⟨low, high, -⟩ := kept
      subst none
      left
      rw [show n = a by omega]
      simp
    · exact .inr (kept.least none)

theorem places_eq (w : Nat) (places : List Digit) :
    (w + Digit.toNat places / 10 ^ places.length : ℚ) =
      ((w * 10 ^ places.length + Digit.toNat places : ℕ) : ℚ) * 10 ^ (-places.length : ℤ) := by
  rw [zpow_neg, zpow_natCast]
  push_cast
  field_simp

theorem near_of_whole (w : Nat) (places : List Digit) :
    Near (gather UInt64.size w places).1
      ((gather UInt64.size w places).2 - places.length)
      (w + Digit.toNat places / 10 ^ places.length) := by
  rw [places_eq]
  exact (kept_gather UInt64.size w places).near.scale (-places.length)

theorem kept_after {w c a dropped : Nat} {places : List Digit} (small : c < 10)
    (full : UInt64.size ≤ 10 * w + c)
    (kept : Kept UInt64.size (w * 10 ^ places.length + Digit.toNat places) a dropped)
    (fits : a < UInt64.size) (count : dropped ≤ places.length) :
    (dropped = places.length ∧ a = w) ∨
      (dropped + 1 = places.length ∧ 10 * w ≤ a ∧ a < 10 * w + c) := by
  have size : UInt64.size = 18446744073709551616 := rfl
  have rest := Digit.toNat_lt places
  obtain ⟨u, length⟩ := Nat.exists_eq_add_of_le count
  obtain ⟨low, high, -⟩ := kept
  rw [length] at low high rest
  have unit : 0 < 10 ^ dropped := Nat.pow_pos (by decide)
  -- what is kept goes on with the digits of the whole part that were kept
  have next : w * 10 ^ u < a + 1 := by
    refine Nat.lt_of_mul_lt_mul_right (a := 10 ^ dropped) ?_
    rw [Nat.mul_assoc, ← Nat.pow_add, Nat.add_comm u]
    omega
  match u with
  | 0 =>
      have below : a < w + 1 := by
        refine Nat.lt_of_mul_lt_mul_right (a := 10 ^ dropped) ?_
        rw [Nat.add_mul]
        rw [Nat.add_zero] at low rest
        omega
      exact .inl ⟨length.symm, by omega⟩
  | 1 => exact .inr ⟨length.symm, by omega, by omega⟩
  | u + 2 =>
      have more : w * 10 ^ 2 ≤ w * 10 ^ (u + 2) :=
        Nat.mul_le_mul_left w (Nat.pow_le_pow_right (by decide) (by omega))
      omega

theorem near_of_truncated {whole w j : Nat} (kept : Kept UInt64.size whole w j) (some : j ≠ 0)
    (small : w < UInt64.size) (places : List Digit) :
    Near (gather UInt64.size w places).1
      (j + ((gather UInt64.size w places).2 - places.length : ℤ))
      (whole + Digit.toNat places / 10 ^ places.length) := by
  have later := kept_gather UInt64.size w places
  have fits := gather_lt small places
  have count := gather_le_length UInt64.size w places
  have least := kept.least some
  obtain ⟨low, high, full⟩ := kept
  obtain ⟨c, digit, full, low'⟩ := full some
  generalize (gather UInt64.size w places).1 = a at *
  generalize (gather UInt64.size w places).2 = dropped at *
  -- the places are less than a unit of the whole part
  have nonneg : (0 : ℚ) ≤ Digit.toNat places / 10 ^ places.length := by positivity
  have less : (Digit.toNat places / 10 ^ places.length : ℚ) < 1 := by
    rw [div_lt_one (by positivity)]
    exact_mod_cast Digit.toNat_lt places
  have next : (whole + 1 : ℚ) ≤ (w + 1) * 10 ^ j := by exact_mod_cast high
  obtain ⟨same, rfl⟩ | ⟨one, above, below⟩ := kept_after digit full later fits count
  · have power : (j + (dropped - places.length : ℤ)) = j := by omega
    have low : (a * 10 ^ j : ℚ) ≤ whole := by exact_mod_cast low
    rw [power]
    refine ⟨?_, ?_, .inr least⟩ <;> rw [zpow_natCast]
    · linarith
    · nlinarith [show (0 : ℚ) < 10 ^ j by positivity]
  · obtain ⟨i, rfl⟩ := Nat.exists_eq_add_one_of_ne_zero some
    have power : ((i + 1 : ℕ) + (dropped - places.length : ℤ)) = i := by omega
    have low : (a * 10 ^ i : ℚ) ≤ whole := by
      exact_mod_cast (Nat.mul_le_mul_right (10 ^ i) below.le).trans low'
    have high : (w + 1) * 10 ^ (i + 1) ≤ (a + 10 : ℚ) * 10 ^ i := by
      rw [pow_succ', ← mul_assoc]
      refine mul_le_mul_of_nonneg_right ?_ (by positivity)
      exact_mod_cast (show (w + 1) * 10 ≤ a + 10 by omega)
    rw [power]
    refine ⟨?_, ?_, .inr (by omega)⟩ <;> rw [zpow_natCast] <;> linarith

theorem ofNumeral?_eq (n : Numeral) : ∃ (a : UInt64) (power : ℤ),
    Near a.toNat power n.magnitude ∧
      ofNumeral? n = (scaleByTen (ofUInt64 a) (decide (power < 0)) power.natAbs).map fun x =>
        if n.negative then x.negate else x := by
  have small : (gather UInt64.size 0 (Digit.ofNat n.whole)).1 < UInt64.size :=
    gather_lt (by decide) _
  have fits := gather_lt small n.places
  have kept := kept_gather UInt64.size 0 (Digit.ofNat n.whole)
  have count := gather_le_length UInt64.size (gather UInt64.size 0 (Digit.ofNat n.whole)).1 n.places
  rw [Nat.zero_mul, Nat.zero_add, Digit.toNat_ofNat] at kept
  refine ⟨_, _, ?_, rfl⟩
  rw [UInt64.toNat_ofNat_of_lt' fits, Numeral.magnitude]
  refine Near.scale ?_ _
  generalize (gather UInt64.size 0 (Digit.ofNat n.whole)).1 = w at *
  generalize (gather UInt64.size 0 (Digit.ofNat n.whole)).2 = j at *
  by_cases none : j = 0
  · subst none
    obtain ⟨low, high, -⟩ := kept
    rw [show n.whole = w by omega]
    convert near_of_whole w n.places using 1
    omega
  · convert near_of_truncated kept none small n.places using 1
    omega

end Binary64
end WalletLoop
