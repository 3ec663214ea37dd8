import WalletLoop.Binary64.Basic

/-!
The shortest decimal numeral that reads back as a given binary floating point number.

The reals that round to a positive value form an interval around it, with its ends exactly when the
significand is even. For one, two, … seventeen digits the two neighbours of the value on the grid of
that many digits are tried; the first grid with a neighbour inside the interval wins, and the nearer
of two. A `Layout` fixes the rest: which powers are written out, and where an exact tie goes.
-/

namespace WalletLoop.Binary64

structure Ratio where
  num : Nat
  den : Nat

def Ratio.ofScale (n : Nat) (e : Int) : Ratio :=
  if e < 0 then ⟨n, Nat.pow 2 e.natAbs⟩ else ⟨n * Nat.pow 2 e.natAbs, 1⟩

def Ratio.ofPower (n : Nat) (e : Int) : Ratio :=
  if e < 0 then ⟨n, Nat.pow 10 e.natAbs⟩ else ⟨n * Nat.pow 10 e.natAbs, 1⟩

def Ratio.lt (a b : Ratio) : Bool := decide (a.num * b.den < b.num * a.den)
def Ratio.le (a b : Ratio) : Bool := decide (a.num * b.den ≤ b.num * a.den)

def Ratio.firstPower (r : Ratio) : Int :=
  if r.den ≤ r.num then ((Digit.ofNat (r.num / r.den)).length : Int) - 1
  else
    match (List.range 400).find? fun j => decide (r.den ≤ r.num * Nat.pow 10 j) with
    | some j => -(j : Int)
    | none => -400

/-- The reals that round to a value, scaled so that its quarter units are whole. -/
structure Rounding where
  low : Ratio
  value : Ratio
  high : Ratio
  closed : Bool

def rounding (x : Binary64) : Rounding where
  low := .ofScale (4 * x.significand - (if x.trailing = 0 ∧ 1 < x.biased then 1 else 2)) (x.scale - 2)
  value := .ofScale (4 * x.significand) (x.scale - 2)
  high := .ofScale (4 * x.significand + 2) (x.scale - 2)
  closed := x.significand % 2 == 0

def Rounding.holds (r : Rounding) (a : Ratio) : Bool :=
  if r.closed then r.low.le a && a.le r.high else r.low.lt a && a.lt r.high

def Rounding.pick (r : Rounding) (tiesUp : Bool) (power : Int) : Option Nat :=
  let unit := Ratio.ofPower 1 power
  let n := r.value.num * unit.den / (r.value.den * unit.num)
  let middle := Ratio.ofPower (10 * n + 5) (power - 1)
  let down := r.holds (.ofPower n power) && n != 0
  let up := r.holds (.ofPower (n + 1) power)
  let nearerUp := middle.lt r.value || (middle.le r.value && (tiesUp || n % 2 == 1))
  if down && up then some (if nearerUp then n + 1 else n)
  else if down then some n
  else if up then some (n + 1)
  else none

def stripZeros (digits : List Digit) : List Digit :=
  (digits.reverse.dropWhile (·.val == 0)).reverse

def shortest (tiesUp : Bool) (x : Binary64) : List Digit × Int :=
  let r := x.rounding
  let first := r.value.firstPower
  let found := (List.range 17).findSome? fun (count : Nat) =>
    (r.pick tiesUp (first - (count : Int))).map fun n => (n, first - (count : Int))
  match found with
  | some (n, power) =>
    let digits := Digit.ofNat n
    (stripZeros digits, power + digits.length - 1)
  | none => ([], 0)

/-- How significant digits are laid out as a numeral. -/
structure Layout where
  leastPlain : Int
  plainEnd : Int
  tiesUp : Bool
  plus : Bool

def Layout.place (l : Layout) (negative : Bool) (digits : List Digit) (first : Int) : Numeral :=
  if l.leastPlain ≤ first ∧ first < l.plainEnd then
    if first < 0 then ⟨negative, 0, List.replicate (first.natAbs - 1) Digit.zero ++ digits, none⟩
    else
      let count := first.natAbs + 1
      let padded := digits ++ List.replicate (count - digits.length) Digit.zero
      let places := padded.drop count
      ⟨negative, Digit.toNat (padded.take count), if places = [] then [.zero] else places, none⟩
  else ⟨negative, Digit.toNat (digits.take 1), digits.drop 1, some first⟩

def numeral (l : Layout) (x : Binary64) : Numeral :=
  if x.isZero then ⟨x.isNegative, 0, [.zero], none⟩
  else
    let s := x.shortest l.tiesUp
    l.place x.isNegative s.1 s.2

def text (l : Layout) (x : Binary64) : String :=
  if x.isNaN then "NaN"
  else if x.isInfinite then if x.isNegative then "-inf" else "inf"
  else String.ofList ((x.numeral l).text l.plus)

/-- A value rounded to a whole number, a half to the even neighbour. -/
def wholeText (x : Binary64) : String :=
  if x.isFinite then
    let r := Ratio.ofScale x.significand x.scale
    let n := r.num / r.den
    let rest := 2 * (r.num % r.den)
    let rounded := if r.den < rest || (r.den == rest && n % 2 == 1) then n + 1 else n
    (if x.isNegative then "-" else "") ++ decimalText rounded
  else x.text ⟨0, 0, false, false⟩

end WalletLoop.Binary64
