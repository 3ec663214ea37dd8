import WalletLoop.Proofs.Binary64.Arithmetic
import WalletLoop.Proofs.Binary64.Significands

namespace WalletLoop.Binary64

section Scaling
variable {a b : UInt64} {p q : Nat}

theorem isInfinite_scaled (positive : 0 < a.toNat) (fits : p ≤ 308) :
    ((ofUInt64 a).mul (powerOfTen p)).isInfinite = true ↔
      2 ^ 1024 ≤ rounded (rounded a.toNat * rounded (10 ^ p)) := by
  have first : 1 ≤ rounded a.toNat := one_le_rounded (by exact_mod_cast positive)
  have second : 1 ≤ rounded (10 ^ p) := one_le_rounded (one_le_pow₀ (by norm_num))
  refine isInfinite_mul (holds_ofUInt64 positive) (holds_powerOfTen fits) ?_
  exact (zpow_le_one_of_nonpos₀ (by norm_num) (by norm_num)).trans
    (one_le_mul_of_one_le_of_one_le first second)

theorem isInfinite_mono (positive : 0 < a.toNat) (le : a.toNat ≤ b.toNat) (le' : p ≤ q)
    (fits : q ≤ 308) (infinite : ((ofUInt64 a).mul (powerOfTen p)).isInfinite = true) :
    ((ofUInt64 b).mul (powerOfTen q)).isInfinite = true := by
  rw [isInfinite_scaled positive (le'.trans fits)] at infinite
  rw [isInfinite_scaled (positive.trans_le le) fits]
  have first : 1 ≤ rounded a.toNat := one_le_rounded (by exact_mod_cast positive)
  have second : 1 ≤ rounded (10 ^ p) := one_le_rounded (one_le_pow₀ (by norm_num))
  have more : rounded a.toNat ≤ rounded b.toNat :=
    rounded_mono (by exact_mod_cast positive) (by exact_mod_cast le)
  have more' : rounded (10 ^ p) ≤ rounded (10 ^ q) :=
    rounded_mono (by positivity) (pow_le_pow_right₀ (by norm_num) le')
  refine infinite.trans (rounded_mono ?_ (mul_le_mul more more' ?_ ?_)) <;> nlinarith

end Scaling

/-- Up to here all magnitudes are read: half a unit of the last place below the greatest one. -/
def surelyRead : ℕ := greatest - 2 ^ 970

/-- From here on no magnitude is read: one and a half units above the greatest one. -/
def surelyRefused : ℕ := greatest + 3 * 2 ^ 970

theorem finite_at_bound : ∀ p ≤ 308, 288 ≤ p →
    ((ofUInt64 (UInt64.ofNat (min (UInt64.size - 1) (surelyRead / 10 ^ p)))).mul
      (powerOfTen p)).isInfinite = false := by
  decide +kernel

theorem infinite_at_bound : ∀ p ≤ 308, 289 ≤ p →
    ((ofUInt64 (UInt64.ofNat ((surelyRefused - 10 ^ 290 - 1) / 10 ^ p + 1))).mul
      (powerOfTen p)).isInfinite = true := by
  decide +kernel

section Bounds
variable {a : UInt64} {p : Nat}

theorem not_isInfinite_of_le (positive : 0 < a.toNat) (fits : p ≤ 308)
    (le : a.toNat * 10 ^ p ≤ surelyRead) :
    ((ofUInt64 a).mul (powerOfTen p)).isInfinite = false := by
  have size : a.toNat ≤ UInt64.size - 1 := Nat.le_sub_one_of_lt a.toNat_lt
  -- the smaller powers of ten leave all significands in bounds
  have least : a.toNat ≤ surelyRead / 10 ^ max p 288 := by
    obtain high | low := Nat.le_total 288 p
    · rw [Nat.max_eq_left high]
      exact (Nat.le_div_iff_mul_le (Nat.pow_pos (by decide))).2 le
    · rw [Nat.max_eq_right low]
      exact size.trans (by decide +kernel)
  have bound := finite_at_bound (max p 288) (Nat.max_le.2 ⟨fits, by decide⟩) (Nat.le_max_right _ _)
  by_contra infinite
  rw [Bool.not_eq_false] at infinite
  refine absurd (isInfinite_mono positive ?_ (Nat.le_max_left p 288)
    (Nat.max_le.2 ⟨fits, by decide⟩) infinite) (by rw [bound]; decide)
  rw [UInt64.toNat_ofNat_of_lt' (Nat.lt_of_le_of_lt (Nat.min_le_left _ _) (by decide))]
  exact Nat.le_min.2 ⟨size, least⟩

theorem isInfinite_of_le (fits : p ≤ 308) (le : surelyRefused - 10 ^ 290 ≤ a.toNat * 10 ^ p) :
    ((ofUInt64 a).mul (powerOfTen p)).isInfinite = true := by
  have ten : 0 < 10 ^ p := Nat.pow_pos (by decide)
  have some : 0 < surelyRefused - 10 ^ 290 := by decide +kernel
  have high : 289 ≤ p := by
    by_contra low
    have low : p ≤ 288 := Nat.le_of_lt_succ (Nat.not_le.1 low)
    have most : a.toNat * 10 ^ p ≤ UInt64.size * 10 ^ 288 :=
      Nat.mul_le_mul a.toNat_lt.le (pow_le_pow_right₀ (by decide) low)
    have less : UInt64.size * 10 ^ 288 < surelyRefused - 10 ^ 290 := by decide +kernel
    exact absurd (le.trans most) (Nat.not_le.2 less)
  have least : (surelyRefused - 10 ^ 290 - 1) / 10 ^ p + 1 ≤ a.toNat :=
    Nat.div_lt_of_lt_mul (by rw [Nat.mul_comm]; omega)
  refine isInfinite_mono ?_ ?_ (Nat.le_refl p) fits (infinite_at_bound p fits high) <;>
    rw [UInt64.toNat_ofNat_of_lt' (Nat.lt_of_le_of_lt least a.toNat_lt)]
  · exact Nat.succ_pos _
  · exact least

end Bounds

theorem isSome_scaleByTen_true (x : Binary64) (power : Nat) : (scaleByTen x true power).isSome := by
  induction power using Nat.strongRecOn generalizing x with
  | ind power ih =>
      rw [scaleByTen]
      split
      · rfl
      · split
        · rfl
        · exact ih _ (by omega) _

theorem isSome_scaleByTen_zero (power : Nat) : (scaleByTen (ofUInt64 0) false power).isSome := by
  rw [scaleByTen]
  split
  · rename_i fits
    rw [ofUInt64_zero_mul (holds_powerOfTen fits)]
    rfl
  · rfl

theorem isSome_scaleByTen {a : UInt64} (positive : 0 < a.toNat) (power : Nat) :
    (scaleByTen (ofUInt64 a) false power).isSome = true ↔
      power ≤ 308 ∧ ((ofUInt64 a).mul (powerOfTen power)).isInfinite = false := by
  rw [scaleByTen]
  split
  · rename_i fits
    cases infinite : ((ofUInt64 a).mul (powerOfTen power)).isInfinite <;> simp [infinite, fits]
  · rename_i large
    simp [not_isZero_of_holds (holds_ofUInt64 positive), large]

theorem isSome_ofNumeral? {n : Numeral} (le : n.magnitude ≤ surelyRead) :
    (ofNumeral? n).isSome := by
  obtain ⟨a, power, near, read⟩ := ofNumeral?_eq n
  rw [read, Option.isSome_map]
  obtain down | up := Int.lt_or_le power 0
  · rw [decide_eq_true down]
    exact isSome_scaleByTen_true _ _
  obtain ⟨p, rfl⟩ := Int.eq_ofNat_of_zero_le up
  rw [decide_eq_false (by omega), Int.natAbs_natCast]
  obtain zero | positive := Nat.eq_zero_or_pos a.toNat
  · rw [show a = 0 from UInt64.toNat_inj.1 zero]
    exact isSome_scaleByTen_zero p
  have low : a.toNat * 10 ^ p ≤ surelyRead := by
    have low := near.low.trans le
    rw [zpow_natCast] at low
    exact_mod_cast low
  have fits : p ≤ 308 := by
    by_contra large
    have most : 10 ^ 309 ≤ a.toNat * 10 ^ p :=
      Nat.le_trans (pow_le_pow_right₀ (by decide) (Nat.not_le.1 large))
        (Nat.le_mul_of_pos_left _ positive)
    have less : surelyRead < 10 ^ 309 := by decide +kernel
    exact absurd (most.trans low) (Nat.not_le.2 less)
  exact (isSome_scaleByTen positive p).2 ⟨fits, not_isInfinite_of_le positive fits low⟩

theorem Near.large {a p : Nat} {v : ℚ} (near : Near a p v) (le : surelyRefused ≤ v) :
    surelyRefused - 10 ^ 290 ≤ a * 10 ^ p := by
  obtain exact | full := near.exact
  · rw [exact, zpow_natCast] at le
    exact (Nat.sub_le _ _).trans (by exact_mod_cast le)
  · obtain high | low := le_or_gt 290 p
    · calc surelyRefused - 10 ^ 290 ≤ 1844674407370955161 * 10 ^ 290 := by decide +kernel
        _ ≤ a * 10 ^ p := Nat.mul_le_mul full (pow_le_pow_right₀ (by decide) high)
    · have more := le.trans_lt near.high
      rw [zpow_natCast] at more
      have more : surelyRefused < (a + 10) * 10 ^ p := by exact_mod_cast more
      have left : 10 * 10 ^ p ≤ 10 ^ 290 := by
        rw [← Nat.pow_succ']
        exact pow_le_pow_right₀ (by decide) low
      rw [Nat.sub_le_iff_le_add]
      calc surelyRefused ≤ a * 10 ^ p + 10 * 10 ^ p := by rw [← Nat.add_mul]; exact more.le
        _ ≤ a * 10 ^ p + 10 ^ 290 := Nat.add_le_add_left left _

theorem ofNumeral?_eq_none {n : Numeral} (le : surelyRefused ≤ n.magnitude) :
    ofNumeral? n = none := by
  obtain ⟨a, power, near, read⟩ := ofNumeral?_eq n
  rw [read, Option.map_eq_none_iff]
  obtain down | up := Int.lt_or_le power 0
  · have unit : (10 : ℚ) ^ power ≤ 1 := zpow_le_one_of_nonpos₀ (by norm_num) down.le
    have small : a.toNat + 10 < surelyRefused :=
      Nat.lt_of_le_of_lt (Nat.add_le_add_right a.toNat_lt.le 10) (by decide +kernel)
    have nonneg : (0 : ℚ) ≤ a.toNat + 10 := by exact_mod_cast Nat.zero_le _
    have less : n.magnitude < a.toNat + 10 :=
      near.high.trans_le (mul_le_of_le_one_right nonneg unit)
    exact absurd (le.trans_lt less) (not_lt.2 (by exact_mod_cast small.le))
  obtain ⟨p, rfl⟩ := Int.eq_ofNat_of_zero_le up
  have large := near.large le
  have positive : 0 < a.toNat := by
    by_contra zero
    rw [Nat.eq_zero_of_not_pos zero, Nat.zero_mul] at large
    exact absurd large (by decide +kernel)
  rw [decide_eq_false (by omega), Int.natAbs_natCast, ← Option.not_isSome_iff_eq_none,
    isSome_scaleByTen positive]
  rintro ⟨fits, finite⟩
  rw [isInfinite_of_le fits large] at finite
  cases finite

end WalletLoop.Binary64
