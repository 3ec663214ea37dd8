import Mathlib
import WalletLoop.Binary64.Basic
import WalletLoop.Proofs.Binary64.Rounding

/-!
# Arithmetic by its values

Numbers in the normal range are kept as a significand of 53 bits and a power of two. A whole number
and a product of two such numbers are the exact ones, rounded once; what is rounded to 2^1024 or more
is infinite.
-/

namespace WalletLoop.Binary64
open Float.Model (Format UnpackedFloat totalExponent)
open Float.Model.UnpackedFloat (ExtendedMantissa roundWithAccuracy shiftToExponent
  shiftToTargetExponent pack unpack packComponents packedInfinity unpackExponent unpackMantissa)

/-! ## Dropping bits -/

section Shift
variable (m : Nat)

theorem shiftRight_succ (k : Nat) :
    (ExtendedMantissa.ofMantissaAndAccuracy m .exact >>> (k + 1)) =
      ⟨m / 2 ^ (k + 1), m / 2 ^ k % 2 != 0, m % 2 ^ k != 0⟩ := by
  induction k with
  | zero =>
      change ExtendedMantissa.shiftRightOne ⟨m, false, false⟩ = _
      simp [ExtendedMantissa.shiftRightOne, Nat.mod_one]
  | succ k ih =>
      change ExtendedMantissa.shiftRightOne
        (ExtendedMantissa.ofMantissaAndAccuracy m .exact >>> (k + 1)) = _
      rw [ih, ExtendedMantissa.shiftRightOne, Nat.div_div_eq_div_mul, ← Nat.pow_succ]
      have low : m % 2 ^ k < 2 ^ k := Nat.mod_lt m (Nat.two_pow_pos k)
      have split : m % 2 ^ (k + 1) = m % 2 ^ k + 2 ^ k * (m / 2 ^ k % 2) := Nat.mod_pow_succ
      congr 1
      obtain even | odd := Nat.mod_two_eq_zero_or_one (m / 2 ^ k)
      · simp [split, even]
      · simp [split, odd]

theorem roundedMantissa_shiftRight (k : Nat) :
    ((ExtendedMantissa.ofMantissaAndAccuracy m .exact >>> k).roundedMantissa : Int) =
      nearestEven (m / 2 ^ k) := by
  cases k with
  | zero =>
      rw [pow_zero, div_one]
      exact_mod_cast (nearestEven_intCast m).symm
  | succ k =>
      have low : m % 2 ^ k < 2 ^ k := Nat.mod_lt m (Nat.two_pow_pos k)
      have split : m % 2 ^ (k + 1) = m % 2 ^ k + 2 ^ k * (m / 2 ^ k % 2) := Nat.mod_pow_succ
      have double : 2 ^ (k + 1) = 2 * 2 ^ k := Nat.pow_succ'
      have cast : (2 : ℚ) ^ (k + 1) = ((2 ^ (k + 1) : ℕ) : ℚ) := by norm_cast
      rw [shiftRight_succ, cast, nearestEven_div (Nat.two_pow_pos _)]
      -- whether the dropped bits are less than half, half or more than half of the unit
      obtain zero | one := Nat.mod_two_eq_zero_or_one (m / 2 ^ k)
      · rw [zero, Nat.mul_zero, Nat.add_zero] at split
        rw [if_pos (by omega), zero]
        cases m % 2 ^ k != 0 <;> rfl
      · rw [one, Nat.mul_one] at split
        rw [if_neg (by omega), one]
        by_cases exact : m % 2 ^ k = 0
        · rw [if_neg (by omega), exact]
          rfl
        · rw [if_pos (by omega), bne_iff_ne.2 exact]
          rfl

end Shift

/-! ## Rounding a product -/

def Normal (f : UnpackedFloat) (x : ℚ) : Prop :=
  ∃ m e pos, f = .finite .positive m e pos ∧ 2 ^ 52 ≤ m ∧ m < 2 ^ 53 ∧ -1074 ≤ e ∧
    (m : ℚ) * 2 ^ e = x

theorem targetExponent_of_log2 {m : Nat} {e : Int} {k : Nat} (log : m.log2 = 52 + k)
    (normal : -1074 ≤ e + k) : Format.binary64.targetExponent (totalExponent m e) = e + k := by
  simp only [Format.targetExponent, totalExponent, log, Format.mantissaBits, Format.minExponent]
  omega

theorem shiftToTargetExponent_of_log2 {m : Nat} {e : Int} {k : Nat} (log : m.log2 = 52 + k)
    (normal : -1074 ≤ e + k) :
    shiftToTargetExponent .binary64 m e .exact =
      (ExtendedMantissa.ofMantissaAndAccuracy m .exact >>> k, e + k) := by
  have amount : (e + k - e).toNat = k := by omega
  simp only [shiftToTargetExponent, targetExponent_of_log2 log normal,
    shiftToExponent, amount]

theorem mantissa_shiftRight (m k : Nat) :
    (ExtendedMantissa.ofMantissaAndAccuracy m .exact >>> k).mantissa = m / 2 ^ k := by
  cases k with
  | zero => exact (Nat.div_one m).symm
  | succ k => rw [shiftRight_succ]

theorem roundWithAccuracy_eq {m r : Nat} {e : Int} {k j : Nat}
    (log : m.log2 = 52 + k) (normal : -1074 ≤ e + k)
    (found : (ExtendedMantissa.ofMantissaAndAccuracy m .exact >>> k).roundedMantissa = r)
    (log' : r.log2 = 52 + j) (pos : 0 < r / 2 ^ j) :
    roundWithAccuracy .binary64 .positive m e .exact =
      .finite .positive (r / 2 ^ j) (e + k + j) pos := by
  have first := shiftToTargetExponent_of_log2 log normal
  have second := shiftToTargetExponent_of_log2 log' (show -1074 ≤ e + k + j by omega)
  simp only [roundWithAccuracy, first, found, second,
    mantissa_shiftRight, pos.ne', dite_false]

theorem normal_round {m : Nat} {e : Int} (large : 2 ^ 52 ≤ m)
    (normal : (2 : ℚ) ^ (-1022 : ℤ) ≤ m * 2 ^ e) :
    Normal (roundWithAccuracy .binary64 .positive m e .exact)
      (rounded (m * 2 ^ e)) := by
  have positive : m ≠ 0 := by omega
  have two : (2 : ℚ) ≠ 0 := by norm_num
  obtain ⟨k, log⟩ : ∃ k, m.log2 = 52 + k :=
    Nat.exists_eq_add_of_le ((Nat.le_log2 positive).2 large)
  have logOf : Int.log 2 ((m : ℚ) * 2 ^ e) = 52 + (e + k) := by
    rw [log_mul_two_zpow positive, log]
    push_cast
    ring
  have least : -1074 ≤ e + k := by
    have above := Int.log_mono_right (b := 2) (zpow_pos (by norm_num) _) normal
    have least : Int.log 2 ((2 : ℚ) ^ (-1022 : ℤ)) = -1022 := by
      exact_mod_cast Int.log_zpow (R := ℚ) one_lt_two (-1022)
    rw [least, logOf] at above
    omega
  have unitOf : unit (m * 2 ^ e) = 2 ^ (e + k) := by
    rw [unit, logOf, add_sub_cancel_left]
  have parts : (m * 2 ^ e : ℚ) / unit (m * 2 ^ e) = m / 2 ^ k := by
    rw [unitOf, zpow_add₀ two, zpow_natCast, mul_comm, mul_div_mul_left _ _ (zpow_ne_zero e two)]
  generalize found : (ExtendedMantissa.ofMantissaAndAccuracy m .exact >>> k).roundedMantissa = r
  have nearest : (r : ℤ) = nearestEven (m / 2 ^ k) := by rw [← found, roundedMantissa_shiftRight]
  have low : 2 ^ 52 ≤ r := by
    have := two_pow_le_nearestEven (x := m * 2 ^ e) ((zpow_pos (by norm_num) _).trans_le normal)
    rw [parts, ← nearest] at this
    exact_mod_cast this
  have high : r ≤ 2 ^ 53 := by
    have := nearestEven_le_two_pow (m * 2 ^ e)
    rw [parts, ← nearest] at this
    exact_mod_cast this
  obtain ⟨j, log', whole, small⟩ :
      ∃ j, r.log2 = 52 + j ∧ r / 2 ^ j * 2 ^ j = r ∧ r / 2 ^ j < 2 ^ 53 := by
    obtain small | carry := Nat.lt_or_eq_of_le high
    · exact ⟨0, (Nat.log2_eq_iff (by omega)).2 ⟨low, small⟩, by simp, by simpa using small⟩
    · exact ⟨1, by rw [carry, Nat.log2_two_pow], by omega, by omega⟩
  have large' : 2 ^ 52 ≤ r / 2 ^ j := by
    rw [Nat.le_div_iff_mul_le (Nat.two_pow_pos j), ← Nat.pow_add, ← log']
    exact Nat.log2_self_le (by omega)
  refine ⟨r / 2 ^ j, e + k + j, by omega, ?_, large', small, by omega, ?_⟩
  · exact roundWithAccuracy_eq log least found log' _
  · have value : ((r / 2 ^ j : ℕ) : ℚ) * 2 ^ j = r := by exact_mod_cast whole
    rw [rounded, parts, unitOf, ← nearest, zpow_add₀ two _ (j : ℤ), zpow_natCast, Int.cast_natCast,
      ← value]
    ring

/-! ## Bits -/

def packed (f : UnpackedFloat) : Binary64 := ⟨UInt64.ofBitVec (pack .binary64 f)⟩

/-- A value stands for a number in the normal range. -/
def Holds (x : Binary64) (v : ℚ) : Prop :=
  Normal (unpack .binary64 x.bits.toBitVec) v ∧ v < 2 ^ 1024

theorem pack_normal {m b : Nat} {e : Int} (pos : 0 < m) (low : 2 ^ 52 ≤ m) (high : m < 2 ^ 53)
    (exponent : e + 1075 = b) (fits : b < 2047) : pack .binary64 (.finite .positive m e pos) =
      packComponents .binary64 .positive (BitVec.ofNat 11 b) (BitVec.ofNat 52 m) := by
  have log : m.log2 + 1 = 53 := by rw [(Nat.log2_eq_iff (by omega)).2 ⟨low, high⟩]
  have same : (e + 1023 + 52).toNat = b := by omega
  change (if 2048 ≤ (e + 1023 + 52).toNat + 1 then _ else if m.log2 + 1 = 53 then
    packComponents .binary64 .positive (BitVec.ofNat 11 (e + 1023 + 52).toNat) _ else _) = _
  rw [same, if_neg (by omega), if_pos log]

theorem pack_overflow {m : Nat} {e : Int} (pos : 0 < m) (large : 972 ≤ e) :
    pack .binary64 (.finite .positive m e pos) = packedInfinity .binary64 .positive := by
  change (if 2048 ≤ (e + 1023 + 52).toNat + 1 then _ else _) = _
  rw [if_pos (by omega)]

theorem unpack_pack {m : Nat} {e : Int} (pos : 0 < m) (low : 2 ^ 52 ≤ m) (high : m < 2 ^ 53)
    (least : -1074 ≤ e) (most : e ≤ 971) :
    unpack .binary64 (pack .binary64 (.finite .positive m e pos)) = .finite .positive m e pos := by
  obtain ⟨b, exponent⟩ : ∃ b : ℕ, e + 1075 = b := Int.eq_ofNat_of_zero_le (by omega)
  have field : (BitVec.ofNat 11 b).toNat = b := by
    rw [BitVec.toNat_ofNat, Nat.mod_eq_of_lt (by omega)]
  have notLast : BitVec.ofNat 11 b ≠ -1#11 := fun same => by
    have := field ▸ congrArg BitVec.toNat same
    simp at this
    omega
  have notFirst : BitVec.ofNat 11 b ≠ 0#11 := fun same => by
    have := field ▸ congrArg BitVec.toNat same
    simp at this
    omega
  -- the leading bit is not kept among the others
  have leading : (1#1 ++ BitVec.ofNat 52 m).toNat = m := by
    rw [BitVec.toNat_append, ← Nat.shiftLeft_add_eq_or_of_lt (BitVec.isLt _), BitVec.toNat_ofNat]
    change 2 ^ 52 + m % 2 ^ 52 = m
    omega
  rw [pack_normal pos low high exponent (by omega), unpack]
  simp only [Float.Model.UnpackedFloat.unpackExponent_packComponents,
    Float.Model.UnpackedFloat.unpackMantissa_packComponents,
    Float.Model.UnpackedFloat.unpackSign_packComponents, notLast, notFirst, if_false, leading, field]
  congr 1
  change (b : ℤ) - (1023 + 52) = e
  omega

theorem toNat_unpackExponent (x : Binary64) :
    (@unpackExponent .binary64 x.bits.toBitVec).toNat = x.biased := by
  change (x.bits.toBitVec.extractLsb' 52 11).toNat = x.bits.toNat / 2 ^ 52 % 2 ^ 11
  rw [BitVec.extractLsb'_toNat, Nat.shiftRight_eq_div_pow]
  rfl

theorem biased_of_holds {x : Binary64} {v : ℚ} (holds : Holds x v) :
    x.biased ≠ 0 ∧ x.biased ≠ 2047 := by
  obtain ⟨⟨m, e, pos, parts, low, -⟩, -⟩ := holds
  have field (b : BitVec 11) (same : x.biased = b.toNat) :
      @unpackExponent .binary64 x.bits.toBitVec = b :=
    BitVec.eq_of_toNat_eq ((toNat_unpackExponent x).trans same)
  constructor
  · intro first
    have none := field 0#11 first
    rw [unpack, if_neg (by rw [none]; decide), if_pos none] at parts
    split at parts
    · cases parts
    · injection parts with _ same
      have fewer := (@unpackMantissa .binary64 x.bits.toBitVec).isLt
      rw [same] at fewer
      exact absurd fewer (by simpa using low)
  · intro last
    rw [unpack, if_pos (field (-1#11) last)] at parts
    split at parts <;> cases parts

theorem not_isInfinite_of_holds {x : Binary64} {v : ℚ} (holds : Holds x v) :
    x.isInfinite = false := by
  rw [isInfinite, beq_false_of_ne (biased_of_holds holds).2, Bool.false_and]

theorem not_isZero_of_holds {x : Binary64} {v : ℚ} (holds : Holds x v) : x.isZero = false := by
  rw [isZero, beq_false_of_ne (biased_of_holds holds).1, Bool.false_and]

theorem mul_two_zpow_lt_iff {m : Nat} {e : Int} (low : 2 ^ 52 ≤ m) (high : m < 2 ^ 53) :
    (m : ℚ) * 2 ^ e < 2 ^ 1024 ↔ e ≤ 971 := by
  have positive : (0 : ℚ) < m * 2 ^ e :=
    mul_pos (by exact_mod_cast (show 0 < m by omega)) (zpow_pos (by norm_num) e)
  have log : Int.log 2 ((m : ℚ) * 2 ^ e) = 52 + e := by
    rw [log_mul_two_zpow (by omega), (Nat.log2_eq_iff (by omega)).2 ⟨low, high⟩]
    rfl
  have below := Int.lt_zpow_iff_log_lt (b := 2) (by norm_num) (x := 1024) positive
  rw [log] at below
  exact_mod_cast below.trans (by omega)

theorem holds_packed {f : UnpackedFloat} {v : ℚ} (normal : Normal f v) (fits : v < 2 ^ 1024) :
    Holds (packed f) v := by
  obtain ⟨m, e, pos, rfl, low, high, least, rfl⟩ := normal
  have most := (mul_two_zpow_lt_iff low high).1 fits
  exact ⟨⟨m, e, pos, unpack_pack pos low high least most, low, high, least, rfl⟩, fits⟩

theorem isInfinite_packed {f : UnpackedFloat} {v : ℚ} (normal : Normal f v) :
    (packed f).isInfinite = true ↔ 2 ^ 1024 ≤ v := by
  constructor
  · intro infinite
    by_contra fits
    rw [not_isInfinite_of_holds (holds_packed normal (not_le.1 fits))] at infinite
    cases infinite
  · intro large
    obtain ⟨m, e, pos, rfl, low, high, -, rfl⟩ := normal
    have most : ¬ e ≤ 971 := by rwa [← mul_two_zpow_lt_iff low high, not_lt]
    rw [packed, pack_overflow pos (by omega)]
    decide

/-! ## Operations -/

theorem normal_round_nat {n : Nat} (positive : 0 < n) :
    Normal (Float.Model.UnpackedFloat.round .binary64 .positive n 0) (rounded n) := by
  have target : Format.binary64.targetExponent (totalExponent n 0) = (n.log2 : ℤ) - 52 := by
    simp only [Format.targetExponent, totalExponent, Format.mantissaBits, Format.minExponent]
    omega
  have amount : (0 - ((n.log2 : ℤ) - 52)).toNat = 52 - n.log2 := by omega
  -- a number with few bits is given zeros at its end
  generalize missing : 52 - n.log2 = j at amount
  have large : 2 ^ 52 ≤ n * 2 ^ j :=
    calc 2 ^ 52 ≤ 2 ^ (n.log2 + j) := Nat.pow_le_pow_right (by decide) (by omega)
      _ = 2 ^ n.log2 * 2 ^ j := Nat.pow_add ..
      _ ≤ n * 2 ^ j := Nat.mul_le_mul_right _ (Nat.log2_self_le (by omega))
  have value : ((n * 2 ^ j : ℕ) : ℚ) * 2 ^ (-(j : ℤ)) = n := by
    rw [Nat.cast_mul, mul_assoc, zpow_neg, zpow_natCast, Nat.cast_pow, Nat.cast_ofNat,
      mul_inv_cancel₀ (by positivity), mul_one]
  have normal : (2 : ℚ) ^ (-1022 : ℤ) ≤ ((n * 2 ^ j : ℕ) : ℚ) * 2 ^ (-(j : ℤ)) := by
    have one : (1 : ℚ) ≤ n := by exact_mod_cast positive
    rw [value]
    exact (zpow_le_one_of_nonpos₀ (by norm_num) (by norm_num)).trans one
  have rounds := normal_round large normal
  rw [value] at rounds
  rw [Float.Model.UnpackedFloat.round, target, Float.Model.UnpackedFloat.decreaseExponent, amount,
    Nat.shiftLeft_eq]
  simpa using rounds

theorem holds_ofUInt64 {n : UInt64} (positive : 0 < n.toNat) :
    Holds (ofUInt64 n) (rounded n.toNat) := by
  have gt : compare (n.toNat : ℤ) 0 = .gt := Int.compare_eq_gt.2 (by omega)
  have parts : ofUInt64 n =
      packed (Float.Model.UnpackedFloat.round .binary64 .positive n.toNat 0) := by
    change packed (Float.Model.UnpackedFloat.normalize .binary64 n.toNat 0 .positive) = _
    rw [Float.Model.UnpackedFloat.normalize, gt]
    rfl
  have small : n.toNat ≤ greatest := Nat.le_trans n.toNat_lt.le (by decide +kernel)
  rw [parts]
  exact holds_packed (normal_round_nat positive)
    (rounded_lt (by exact_mod_cast positive) (by exact_mod_cast small))

theorem powerOfTen_eq {p : Nat} (fits : p ≤ 308) :
    powerOfTen p = packed (roundWithAccuracy .binary64 .positive (2 ^ 53 * 10 ^ p) (-53) .exact) := by
  by_cases small : p ≤ 22
  · revert p
    decide +kernel
  · have slow : powerOfTen p =
        packed (Float.Model.UnpackedFloat.ofScientific .binary64 1 (Int.ofNat p)) := by
      rw [powerOfTen, Float.ofScientific, dif_neg (by omega)]
      rfl
    have nonneg : ¬ Int.ofNat p < -((2 ^ 11 : ℤ) + (Nat.log2 1 : ℕ)) := by
      simp only [Int.ofNat_eq_natCast]
      omega
    have small : ¬ Int.ofNat p > 2 ^ 11 := by
      simp only [Int.ofNat_eq_natCast]
      omega
    rw [slow, Float.Model.UnpackedFloat.ofScientific, dif_neg (by decide), if_neg small,
      if_neg nonneg, if_pos (show 0 ≤ Int.ofNat p from Int.natCast_nonneg p)]
    rfl

theorem holds_powerOfTen {p : Nat} (fits : p ≤ 308) : Holds (powerOfTen p) (rounded (10 ^ p)) := by
  have value : ((2 ^ 53 * 10 ^ p : ℕ) : ℚ) * 2 ^ (-53 : ℤ) = 10 ^ p := by
    push_cast
    norm_num
    ring
  have large : 2 ^ 52 ≤ 2 ^ 53 * 10 ^ p :=
    Nat.le_trans (by decide) (Nat.le_mul_of_pos_right _ (Nat.pow_pos (by decide)))
  have one : (1 : ℚ) ≤ 10 ^ p := one_le_pow₀ (by norm_num)
  have normal := normal_round (e := -53) large <| by
    rw [value]
    exact (zpow_le_one_of_nonpos₀ (by norm_num) (by norm_num)).trans one
  have most : 10 ^ p ≤ greatest :=
    Nat.le_trans (Nat.pow_le_pow_right (by decide) fits) (by decide +kernel)
  rw [value] at normal
  rw [powerOfTen_eq fits]
  exact holds_packed normal (rounded_lt (by positivity) (by exact_mod_cast most))

theorem mul_packed (x y : Binary64) : x.mul y = packed (Float.Model.UnpackedFloat.mul .binary64
    (unpack .binary64 (pack .binary64 (unpack .binary64 x.bits.toBitVec)))
    (unpack .binary64 (pack .binary64 (unpack .binary64 y.bits.toBitVec)))) := rfl

theorem normal_repacked {x : Binary64} {v : ℚ} (holds : Holds x v) :
    Normal (unpack .binary64 (pack .binary64 (unpack .binary64 x.bits.toBitVec))) v := by
  obtain ⟨normal, fits⟩ := holds
  exact (holds_packed normal fits).1

theorem mul_eq {x y : Binary64} {v w : ℚ} (left : Holds x v) (right : Holds y w)
    (normal : (2 : ℚ) ^ (-1022 : ℤ) ≤ v * w) :
    ∃ f, x.mul y = packed f ∧ Normal f (rounded (v * w)) := by
  obtain ⟨m, e, pos, parts, low, -, -, rfl⟩ := normal_repacked left
  obtain ⟨m', e', pos', parts', -, -, -, rfl⟩ := normal_repacked right
  have product : (m * 2 ^ e * (m' * 2 ^ e') : ℚ) = ((m * m' : ℕ) : ℚ) * 2 ^ (e + e') := by
    rw [zpow_add₀ (by norm_num)]
    push_cast
    ring
  have large : 2 ^ 52 ≤ m * m' := Nat.le_trans low (Nat.le_mul_of_pos_right m pos')
  rw [product] at normal ⊢
  refine ⟨_, ?_, normal_round large normal⟩
  rw [mul_packed, parts, parts']
  rfl

theorem isInfinite_mul {x y : Binary64} {v w : ℚ} (left : Holds x v) (right : Holds y w)
    (normal : (2 : ℚ) ^ (-1022 : ℤ) ≤ v * w) :
    (x.mul y).isInfinite = true ↔ 2 ^ 1024 ≤ rounded (v * w) := by
  obtain ⟨f, same, rounds⟩ := mul_eq left right normal
  rw [same, isInfinite_packed rounds]

theorem ofUInt64_zero_mul {y : Binary64} {w : ℚ} (right : Holds y w) :
    (ofUInt64 0).mul y = zero := by
  obtain ⟨m, e, pos, parts, -⟩ := normal_repacked right
  rw [mul_packed, parts]
  rfl

end WalletLoop.Binary64
