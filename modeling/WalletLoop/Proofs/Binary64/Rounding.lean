import Mathlib.Data.Int.Log
import Mathlib.Data.Rat.Floor
import Mathlib.Tactic.Linarith
import Mathlib.Tactic.Ring

namespace WalletLoop

def nearestEven (x : ℚ) : ℤ :=
  if Int.fract x < 1 / 2 then ⌊x⌋
  else if 1 / 2 < Int.fract x then ⌊x⌋ + 1
  else ⌊x⌋ + ⌊x⌋ % 2

section Whole
variable {x y : ℚ}

theorem floor_le_nearestEven (x : ℚ) : ⌊x⌋ ≤ nearestEven x := by
  unfold nearestEven
  split_ifs <;> omega

theorem nearestEven_le_floor_add_one (x : ℚ) : nearestEven x ≤ ⌊x⌋ + 1 := by
  unfold nearestEven
  split_ifs <;> omega

theorem nearestEven_mono (le : x ≤ y) : nearestEven x ≤ nearestEven y := by
  obtain less | same := lt_or_eq_of_le (Int.floor_mono le)
  · calc nearestEven x ≤ ⌊x⌋ + 1 := nearestEven_le_floor_add_one x
      _ ≤ ⌊y⌋ := less
      _ ≤ nearestEven y := floor_le_nearestEven y
  · have fract : Int.fract x ≤ Int.fract y := by
      rw [Int.fract, Int.fract, same]
      linarith
    unfold nearestEven
    rw [same]
    split_ifs <;> first | omega | linarith

@[simp] theorem nearestEven_intCast (n : ℤ) : nearestEven n = n := by
  rw [nearestEven, Int.fract_intCast, if_pos (by norm_num), Int.floor_intCast]

theorem nearestEven_div {m d : ℕ} (pos : 0 < d) : nearestEven (m / d) =
    if 2 * (m % d) < d then ((m / d : ℕ) : ℤ)
    else if d < 2 * (m % d) then ((m / d + 1 : ℕ) : ℤ)
    else ((m / d + m / d % 2 : ℕ) : ℤ) := by
  have denominator : (0 : ℚ) < d := by exact_mod_cast pos
  have below : ((m % d : ℕ) : ℚ) / d < 1 / 2 ↔ 2 * (m % d) < d := by
    rw [div_lt_div_iff₀ denominator (by norm_num), one_mul, mul_comm]
    exact_mod_cast Iff.rfl
  have above : 1 / 2 < ((m % d : ℕ) : ℚ) / d ↔ d < 2 * (m % d) := by
    rw [div_lt_div_iff₀ (by norm_num) denominator, one_mul, mul_comm]
    exact_mod_cast Iff.rfl
  simp only [nearestEven, Int.fract_div_natCast_eq_div_natCast_mod, below, above,
    Rat.floor_natCast_div_natCast]
  push_cast
  rfl

theorem le_nearestEven {n : ℤ} (le : (n : ℚ) ≤ x) : n ≤ nearestEven x := by
  simpa using nearestEven_mono le

theorem nearestEven_le {n : ℤ} (le : x ≤ n) : nearestEven x ≤ n := by
  simpa using nearestEven_mono le

end Whole

namespace Binary64

/-- The unit in the last of 53 places of a positive number. -/
def unit (x : ℚ) : ℚ := 2 ^ (Int.log 2 x - 52)

def rounded (x : ℚ) : ℚ := nearestEven (x / unit x) * unit x

variable {x y : ℚ}

theorem unit_pos (x : ℚ) : 0 < unit x := zpow_pos (by norm_num) _

theorem log_of_bounds {n : ℤ} (low : 2 ^ n ≤ x) (high : x < 2 ^ (n + 1)) : Int.log 2 x = n := by
  have pos : 0 < x := (zpow_pos (by norm_num) n).trans_le low
  refine le_antisymm (Int.lt_add_one_iff.1 ?_) ?_
  · exact (Int.lt_zpow_iff_log_lt (b := 2) (by norm_num) pos).1 (by exact_mod_cast high)
  · exact (Int.zpow_le_iff_le_log (b := 2) (by norm_num) pos).1 (by exact_mod_cast low)

theorem log_mul_two_zpow {m : ℕ} (positive : m ≠ 0) (e : ℤ) :
    Int.log 2 ((m : ℚ) * 2 ^ e) = m.log2 + e := by
  have low : (2 : ℚ) ^ m.log2 ≤ m := by exact_mod_cast Nat.log2_self_le positive
  have high : (m : ℚ) < 2 ^ (m.log2 + 1) := by exact_mod_cast Nat.lt_log2_self (n := m)
  have scale : (0 : ℚ) < 2 ^ e := zpow_pos (by norm_num) e
  have next : (m.log2 + e + 1 : ℤ) = (m.log2 + 1 : ℕ) + e := by push_cast; ring
  refine log_of_bounds ?_ ?_
  · rw [zpow_add₀ (by norm_num), zpow_natCast]
    exact mul_le_mul_of_nonneg_right low scale.le
  · rw [next, zpow_add₀ (by norm_num), zpow_natCast]
    exact mul_lt_mul_of_pos_right high scale

theorem unit_mul_two_pow (x : ℚ) (n : ℕ) : 2 ^ n * unit x = 2 ^ (Int.log 2 x - 52 + n) := by
  rw [unit, zpow_add₀ (by norm_num), zpow_natCast, mul_comm]

theorem two_pow_le_div_unit (pos : 0 < x) : 2 ^ 52 ≤ x / unit x := by
  rw [le_div_iff₀ (unit_pos x), unit_mul_two_pow]
  have low := Int.zpow_log_le_self (b := 2) (by norm_num) pos
  simpa using low

theorem div_unit_lt (x : ℚ) : x / unit x < 2 ^ 53 := by
  rw [div_lt_iff₀ (unit_pos x), unit_mul_two_pow]
  have high := Int.lt_zpow_succ_log_self (b := 2) (by norm_num) x
  have places : Int.log 2 x - 52 + (53 : ℕ) = Int.log 2 x + 1 := by omega
  rw [places]
  simpa using high

theorem two_pow_le_nearestEven (pos : 0 < x) : 2 ^ 52 ≤ nearestEven (x / unit x) :=
  le_nearestEven (by exact_mod_cast two_pow_le_div_unit pos)

theorem nearestEven_le_two_pow (x : ℚ) : nearestEven (x / unit x) ≤ 2 ^ 53 :=
  nearestEven_le (by exact_mod_cast (div_unit_lt x).le)

theorem rounded_mono (pos : 0 < x) (le : x ≤ y) : rounded x ≤ rounded y := by
  have later : 0 < y := pos.trans_le le
  obtain less | same := lt_or_eq_of_le (Int.log_mono_right (b := 2) pos le)
  · -- the power of two between the numbers is not passed by either of them
    have high := nearestEven_le_two_pow x
    have low := two_pow_le_nearestEven later
    calc rounded x ≤ 2 ^ 53 * unit x :=
          mul_le_mul_of_nonneg_right (by exact_mod_cast high) (unit_pos x).le
      _ ≤ 2 ^ 52 * unit y := by
          rw [unit_mul_two_pow, unit_mul_two_pow]
          exact zpow_le_zpow_right₀ (by norm_num) (by push_cast; omega)
      _ ≤ rounded y := mul_le_mul_of_nonneg_right (by exact_mod_cast low) (unit_pos y).le
  · have units : unit x = unit y := by rw [unit, unit, same]
    have whole : nearestEven (x / unit x) ≤ nearestEven (y / unit y) := by
      rw [units]
      exact nearestEven_mono (div_le_div_of_nonneg_right le (unit_pos y).le)
    rw [rounded, rounded, units]
    rw [units] at whole
    exact mul_le_mul_of_nonneg_right (by exact_mod_cast whole) (unit_pos y).le

theorem rounded_of_bits {m : ℕ} (low : 2 ^ 52 ≤ m) (high : m < 2 ^ 53) (e : ℤ) :
    rounded (m * 2 ^ e) = m * 2 ^ e := by
  have log : Int.log 2 ((m : ℚ) * 2 ^ e) = 52 + e := by
    rw [log_mul_two_zpow (by omega), (Nat.log2_eq_iff (by omega)).2 ⟨low, high⟩]
    rfl
  have unitOf : unit ((m : ℚ) * 2 ^ e) = 2 ^ e := by
    rw [unit, log, add_sub_cancel_left]
  have whole : (m : ℚ) * 2 ^ e / 2 ^ e = (m : ℤ) := by
    rw [mul_div_cancel_right₀ _ (zpow_ne_zero e (by norm_num)), Int.cast_natCast]
  rw [rounded, unitOf, whole, nearestEven_intCast, Int.cast_natCast]

theorem rounded_two_zpow (n : ℤ) : rounded (2 ^ n) = 2 ^ n := by
  have bits := rounded_of_bits (m := 2 ^ 52) (le_refl _) (by decide) (n - 52)
  have value : ((2 ^ 52 : ℕ) : ℚ) * 2 ^ (n - 52) = 2 ^ n := by
    rw [Nat.cast_pow, Nat.cast_ofNat, ← zpow_natCast, ← zpow_add₀ (by norm_num)]
    congr 1
    omega
  rwa [value] at bits

def greatest : ℕ := (2 ^ 53 - 1) * 2 ^ 971

theorem rounded_lt (pos : 0 < x) (le : x ≤ greatest) : rounded x < 2 ^ 1024 := by
  have bits := rounded_of_bits (m := 2 ^ 53 - 1) (by decide) (by decide) 971
  have parts : (greatest : ℚ) = ((2 ^ 53 - 1 : ℕ) : ℚ) * 2 ^ 971 := by
    rw [greatest, Nat.cast_mul, Nat.cast_pow 2 971, Nat.cast_ofNat]
  rw [zpow_ofNat, ← parts] at bits
  calc rounded x ≤ greatest := bits ▸ rounded_mono pos le
    _ < 2 ^ 53 * 2 ^ 971 := by
      rw [parts]
      exact mul_lt_mul_of_pos_right (by norm_num) (by positivity)
    _ = 2 ^ 1024 := (pow_add 2 53 971).symm

theorem two_zpow_le_rounded {n : ℤ} (le : 2 ^ n ≤ x) : 2 ^ n ≤ rounded x := by
  rw [← rounded_two_zpow n]
  exact rounded_mono (zpow_pos (by norm_num) n) le

theorem one_le_rounded (le : 1 ≤ x) : 1 ≤ rounded x := by
  simpa using two_zpow_le_rounded (x := x) (n := 0) (by simpa using le)

end Binary64
end WalletLoop
