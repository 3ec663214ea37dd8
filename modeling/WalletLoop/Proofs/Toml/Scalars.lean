import Mathlib.Data.List.TakeWhile
import WalletLoop.Proofs.Decimal.Digits
import WalletLoop.Toml.Scalar

namespace WalletLoop.Toml.Scalar

theorem isDigit_char (d : Digit) : isDigit d.char = true := by
  revert d
  decide

theorem digit?_char (d : Digit) : digit? 10 d.char = some d.val := by
  revert d
  decide

theorem isDigit_of_mem_decimal {n : Nat} {c : Char} (member : c ∈ decimal n) :
    isDigit c = true := by
  obtain ⟨d, -, rfl⟩ := List.mem_map.1 member
  exact isDigit_char d

theorem decimal_ne_nil (n : Nat) : decimal n ≠ [] := by
  simpa [decimal] using Digit.ofNat_ne_nil n

theorem value?_decimal (n : Nat) : value? 10 (decimal n) = some n := by
  have digits (ds : List Digit) :
      (ds.map Digit.char).mapM (digit? 10) = some (ds.map Fin.val) := by
    induction ds with
    | nil => rfl
    | cons d ds ih => simp [List.mapM_cons, digit?_char, ih]
  rw [value?, if_neg (decimal_ne_nil n), decimal, digits, Option.map_some, List.foldl_map]
  exact congrArg some (Digit.toNat_ofNat n)

theorem decimal_head (n : Nat) :
    ((decimal n).head? == some '0' && (decimal n).length != 1) = false := by
  by_cases small : n < 10
  · simp [decimal, Digit.ofNat_of_lt small]
  · obtain ⟨d, digits, same, nonzero⟩ := Digit.head_ofNat (Nat.not_lt.1 small)
    have apart : ∀ d : Digit, d ≠ .zero → d.char ≠ '0' := by decide
    simp [decimal, same, apart d nonzero]

theorem ofDigits_decimal (w : List Char) (n : Nat) :
    ofDigits w (decimal n) = some (.number (whole w)) := by
  have only : (decimal n).dropWhile isDigit = [] :=
    List.dropWhile_eq_nil_iff.2 fun c => isDigit_of_mem_decimal
  simp only [ofDigits, only, decimal_head, Bool.false_eq_true, if_false]

theorem decimal_cons (n : Nat) : ∃ c s, decimal n = c :: s ∧ ∀ d ∈ c :: s, isDigit d = true := by
  cases digits : decimal n with
  | nil => exact absurd digits (decimal_ne_nil n)
  | cons c s => exact ⟨c, s, rfl, fun d member => isDigit_of_mem_decimal (digits ▸ member)⟩

theorem sign_decimal (n : Nat) : sign (decimal n) = (false, decimal n) := by
  obtain ⟨c, s, same, digits⟩ := decimal_cons n
  have first := digits c (by simp)
  rw [same, sign]
  · rintro t ⟨⟩
    cases first
  · rintro t ⟨⟩
    cases first

theorem sign_decimalInt (n : Int) :
    sign (decimalInt n) = (decide (n < 0), decimal n.natAbs) := by
  unfold decimalInt
  split
  · rename_i negative
    simp [sign, negative]
  · rename_i positive
    simp [sign_decimal, positive]

theorem whole_decimalInt {n : Int} (fits : inRange n = true) : whole (decimalInt n) = some n := by
  have signs : signed (decide (n < 0)) n.natAbs = n := by
    unfold signed
    split
    · rename_i negative
      have := of_decide_eq_true negative
      omega
    · rename_i positive
      have := of_decide_eq_false (eq_false_of_ne_true positive)
      omega
  simp [whole, sign_decimalInt, value?_decimal, signs, fits]

theorem decimalInt_cons (n : Int) :
    ∃ c s, decimalInt n = c :: s ∧ (c = '-' ∨ isDigit c = true) ∧ ∀ d ∈ s, isDigit d = true := by
  obtain ⟨c, s, same, digits⟩ := decimal_cons n.natAbs
  unfold decimalInt
  rw [same]
  split
  · exact ⟨'-', c :: s, rfl, .inl rfl, digits⟩
  · exact ⟨c, s, rfl, .inr (digits c (by simp)), fun d member => digits d (by simp [member])⟩

theorem special?_decimal (n : Nat) : special? (decimal n) = none := by
  obtain ⟨c, s, same, digits⟩ := decimal_cons n
  have first := digits c (by simp)
  rw [same, special?, if_neg, if_neg]
  · rintro ⟨⟩
    cases first
  · rintro ⟨⟩
    cases first

theorem item?_decimalInt {n : Int} (fits : inRange n = true) :
    item? (decimalInt n) = some (.number (some n)) := by
  obtain ⟨c, s, same, first, later⟩ := decimalInt_cons n
  have unmarked (mark : Char) (t : List Char) (letter : isDigit mark = false) :
      decimalInt n ≠ '0' :: mark :: t := by
    intro marked
    obtain ⟨rfl, rfl⟩ := List.cons.inj (same.symm.trans marked)
    rw [later mark (by simp)] at letter
    cases letter
  unfold item?
  rw [if_neg, if_neg, sign_decimalInt]
  · dsimp only
    rw [special?_decimal]
    dsimp only
    split
    · rename_i t marked
      exact absurd marked (unmarked 'x' t (by decide))
    · rename_i t marked
      exact absurd marked (unmarked 'o' t (by decide))
    · rename_i t marked
      exact absurd marked (unmarked 'b' t (by decide))
    · rename_i d t digits _ _ _
      have digit : isDigit d = true := isDigit_of_mem_decimal (digits ▸ List.mem_cons_self)
      rw [if_pos (.inl digit), ofDigits_decimal, whole_decimalInt fits]
    · rename_i none _ _ _
      exact absurd none (decimal_ne_nil _)
  · rw [same]
    rintro ⟨⟩
    revert first
    decide
  · rw [same]
    rintro ⟨⟩
    revert first
    decide

end WalletLoop.Toml.Scalar
