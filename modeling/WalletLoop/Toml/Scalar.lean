import WalletLoop.Toml.Document
import WalletLoop.Toml.Moment

/-!
Values without quotes: truth values, numbers, dates and times. The characters at the start decide
which kind a word is, and the word then has to have the form of that kind.

The form of a number is not all: it may denote none because it is too large, because nothing comes
after the mark of its base, or because letters stand between its underscores as in `1_a`.
-/

namespace WalletLoop.Toml.Scalar

def isDigit (c : Char) : Bool := '0' ≤ c && c ≤ '9'

def digit? (base : Nat) (c : Char) : Option Nat :=
  let n :=
    if isDigit c then some (c.toNat - 48)
    else if 'a' ≤ c ∧ c ≤ 'f' then some (c.toNat - 87)
    else if 'A' ≤ c ∧ c ≤ 'F' then some (c.toNat - 55)
    else none
  n.filter (· < base)

def isDigitOf (base : Nat) (c : Char) : Bool := (digit? base c).isSome

def value? (base : Nat) (s : List Char) : Option Nat :=
  if s = [] then none else (s.mapM (digit? base)).map fun ds => ds.foldl (fun n d => base * n + d) 0

def sign : List Char → Bool × List Char
  | '-' :: s => (true, s)
  | '+' :: s => (false, s)
  | s => (false, s)

def signed (negative : Bool) (n : Nat) : Int := if negative then -(n : Int) else n

def parts : List Char → List (List Char)
  | [] => [[]]
  | c :: rest =>
    if c = '_' then [] :: parts rest
    else
      match parts rest with
      | [] => [[c]]
      | part :: later => (c :: part) :: later

def continues (base : Nat) : List (List Char) → Bool
  | [] => true
  | [part] => part.head?.any (isDigitOf base)
  | part :: later =>
    part.head?.any (isDigitOf base) && part.getLast?.any (isDigitOf base) && continues base later

/-- Whether underscores stand between digits only. A first part of one character may be a sign. -/
def isSpaced (base : Nat) (s : List Char) : Bool :=
  match parts s with
  | [] | [_] => true
  | first :: later =>
    (first.length == 1 || first.getLast?.any (isDigitOf base)) && continues base later

def withoutUnderscores (s : List Char) : List Char := s.filter (· != '_')

def nearest (negative : Bool) (n : Nat) (power : Int) : Option Binary64 :=
  let size := (Digit.ofNat n).length + power
  let magnitude : Option Binary64 :=
    if n = 0 ∨ size < -400 then some .zero
    else if 400 < size then none
    else
      let x := Binary64.ofFloat (Float.ofScientific n (decide (power < 0)) power.natAbs)
      if x.isInfinite then none else some x
  magnitude.map fun x => if negative then x.negate else x

def skipDigits (plain : Bool) (s : List Char) : Option (List Char) :=
  let row := s.takeWhile fun c => isDigit c || c = '_'
  let count := (row.filter isDigit).length
  if count = 0 ∨ (plain ∧ 1 < count ∧ s.head? = some '0') then none else some (s.drop row.length)

def isReal (s : List Char) : Bool :=
  let places (s : List Char) : Option (List Char) :=
    match s with
    | '.' :: s => skipDigits false s
    | s => some s
  let power (s : List Char) : Option (List Char) :=
    match s with
    | c :: s => if c = 'e' ∨ c = 'E' then skipDigits false (sign s).2 else some (c :: s)
    | [] => some []
  ((skipDigits true s).bind places).bind power == some []

def real? (s : List Char) : Option Binary64 := do
  let (mantissa, power) := (sign s).2.span fun c => c != 'e' && c != 'E'
  let (whole, places) := mantissa.span (· != '.')
  let e ← match power with
    | [] => some 0
    | _ :: power => (value? 10 (sign power).2).map (signed (sign power).1)
  let n ← value? 10 (whole ++ places.drop 1)
  nearest (sign s).1 n (e - (places.length - 1 : Nat))

def inRange (n : Int) : Bool := decide (-Int.pow 2 127 ≤ n) && decide (n < Int.pow 2 128)

def whole (s : List Char) : Option Int :=
  ((value? 10 (sign s).2).map (signed (sign s).1)).filter inRange

def inBase (base : Nat) (s : List Char) : Option Item :=
  let isProper :=
    s.all (fun c => isDigitOf base c || c = '_') && (parts s == [[]] || (parts s).all (· != []))
  if isProper then
    some (.number (((value? base (withoutUnderscores s)).map Int.ofNat).filter inRange))
  else none

/-- A word `w` that starts with a digit after its sign; `s` is the word without the sign. -/
def ofDigits (w s : List Char) : Option Item :=
  let rest := s.dropWhile isDigit
  let startsZero := s.head? == some '0' && s.length != 1
  match rest with
  | [] => if startsZero then none else some (.number (whole w))
  | c :: _ =>
    if c = '-' ∨ c = ':' then
      if Moment.isMoment w then some (.moment (String.ofList w)) else none
    else if ' ' ∈ rest then none
    else if rest.any fun c => c = '.' || c = 'e' || c = 'E' then
      if isReal s && isSpaced 10 w then some (.real (real? (withoutUnderscores w))) else none
    else if c = '_' ∧ !startsZero ∧ isSpaced 16 w then
      some (.number (whole (withoutUnderscores w)))
    else none

def special? (s : List Char) : Option Binary64 :=
  if s = "inf".toList then some ⟨0x7ff0000000000000⟩
  else if s = "nan".toList then some .notANumber
  else none

def item? (w : List Char) : Option Item :=
  if w = "true".toList then some (.flag true)
  else if w = "false".toList then some (.flag false)
  else
    let (negative, s) := sign w
    match special? s with
    | some x => some (.real (some (if negative then x.negate else x)))
    | none =>
      match w, s with
      | '0' :: 'x' :: s, _ => inBase 16 s
      | '0' :: 'o' :: s, _ => inBase 8 s
      | '0' :: 'b' :: s, _ => inBase 2 s
      | _, c :: _ => if isDigit c ∨ c = '_' then ofDigits w s else none
      | _, [] => none

end WalletLoop.Toml.Scalar
