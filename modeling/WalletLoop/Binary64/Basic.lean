import WalletLoop.Decimal.Numeral

namespace WalletLoop

structure Binary64 where
  bits : UInt64
deriving DecidableEq, Inhabited

namespace Binary64

def zero : Binary64 := ⟨0⟩
def one : Binary64 := ⟨0x3ff0000000000000⟩
def hundred : Binary64 := ⟨0x4059000000000000⟩
def notANumber : Binary64 := ⟨0x7ff8000000000000⟩

def isNegative (x : Binary64) : Bool := decide (Nat.pow 2 63 ≤ x.bits.toNat)

def biased (x : Binary64) : Nat := x.bits.toNat / Nat.pow 2 52 % Nat.pow 2 11

def trailing (x : Binary64) : Nat := x.bits.toNat % Nat.pow 2 52

def isNaN (x : Binary64) : Bool := x.biased == 2047 && x.trailing != 0
def isInfinite (x : Binary64) : Bool := x.biased == 2047 && x.trailing == 0
def isFinite (x : Binary64) : Bool := x.biased != 2047
def isZero (x : Binary64) : Bool := x.biased == 0 && x.trailing == 0

def same (x y : Binary64) : Bool :=
  !x.isNaN && !y.isNaN && (x == y || (x.isZero && y.isZero))

/-- One representative for all NaNs; every other value stands for itself. -/
def canonical (x : Binary64) : Binary64 := if x.isNaN then notANumber else x

def negate (x : Binary64) : Binary64 := ⟨x.bits ^^^ 0x8000000000000000⟩

def significand (x : Binary64) : Nat :=
  if x.biased = 0 then x.trailing else Nat.pow 2 52 + x.trailing

def scale (x : Binary64) : Int :=
  if x.biased = 0 then -1074 else (x.biased : Int) - 1075

def ofFloat (x : Float) : Binary64 := ⟨x.toBits⟩
def toFloat (x : Binary64) : Float := Float.ofBits x.bits

def ofUInt64 (n : UInt64) : Binary64 := ofFloat n.toFloat

def mul (x y : Binary64) : Binary64 := ofFloat (x.toFloat * y.toFloat)
def div (x y : Binary64) : Binary64 := ofFloat (x.toFloat / y.toFloat)

def powerOfTen (n : Nat) : Binary64 := ofFloat (Float.ofScientific 1 false n)

/-- Scales by a power of ten: one multiplication or division when the power is at most 308, and for
smaller values repeated division until nothing is left. `none` when the result is too large. -/
def scaleByTen (x : Binary64) (negative : Bool) (power : Nat) : Option Binary64 :=
  if h : power ≤ 308 then
    if negative then some (x.div (powerOfTen power))
    else
      let product := x.mul (powerOfTen power)
      if product.isInfinite then none else some product
  else if x.isZero then some x
  else if negative then scaleByTen (x.div (powerOfTen 308)) true (power - 308)
  else none
termination_by power

/-- The digits of a numeral that fit into 64 bits, read from the left. The first digit that does not
fit ends the reading. The result counts the digits that were left out. -/
def gather (limit : Nat) : Nat → List Digit → Nat × Nat
  | n, [] => (n, 0)
  | n, d :: ds =>
    if 10 * n + d.val < limit then gather limit (10 * n + d.val) ds else (n, ds.length + 1)

/-- The value that a numeral is read as. As many leading digits as fit into 64 bits are kept, and
the rest only counts for the power of ten. `none` when the value is too large. -/
def ofNumeral? (n : Numeral) : Option Binary64 :=
  let whole := gather UInt64.size 0 (Digit.ofNat n.whole)
  let all := gather UInt64.size whole.1 n.places
  let used := n.places.length - all.2
  let power : Int := (whole.2 : Int) - used + n.exponent.getD 0
  (scaleByTen (ofUInt64 (UInt64.ofNat all.1)) (decide (power < 0)) power.natAbs).map fun x =>
    if n.negative then x.negate else x

end Binary64
end WalletLoop
