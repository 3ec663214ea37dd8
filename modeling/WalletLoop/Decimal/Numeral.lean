namespace WalletLoop

abbrev Digit := Fin 10

namespace Digit

def zero : Digit := ⟨0, by decide⟩

def char (d : Digit) : Char := Char.ofNat (48 + d.val)

def ofChar? (c : Char) : Option Digit :=
  if h : 48 ≤ c.toNat ∧ c.toNat ≤ 57 then some ⟨c.toNat - 48, by omega⟩ else none

def ofNat (n : Nat) : List Digit :=
  if h : n < 10 then [⟨n, h⟩] else ofNat (n / 10) ++ [⟨n % 10, Nat.mod_lt n (by decide)⟩]

def toNat (digits : List Digit) : Nat :=
  digits.foldl (fun n d => 10 * n + d.val) 0

def span : List Char → List Digit × List Char
  | [] => ([], [])
  | c :: rest =>
    match ofChar? c with
    | some d => (d :: (span rest).1, (span rest).2)
    | none => ([], c :: rest)

end Digit

def decimal (n : Nat) : List Char := (Digit.ofNat n).map Digit.char

def decimalInt (n : Int) : List Char :=
  if n < 0 then '-' :: decimal n.natAbs else decimal n.natAbs

def decimalText (n : Nat) : String := String.ofList (decimal n)

structure Numeral where
  negative : Bool
  whole : Nat
  places : List Digit
  exponent : Option Int
deriving DecidableEq

namespace Numeral

def ofInt (n : Int) : Numeral := ⟨decide (n < 0), n.natAbs, [], none⟩

def ofNat (n : Nat) : Numeral := ⟨false, n, [], none⟩

/-- A numeral without point and power denotes a whole number; `-0` does not. -/
def toInt? (n : Numeral) : Option Int :=
  if n.places ≠ [] ∨ n.exponent ≠ none ∨ (n.negative ∧ n.whole = 0) then none
  else some (if n.negative then -(n.whole : Int) else n.whole)

def exponentText (plus : Bool) (e : Int) : List Char :=
  'e' :: ((if e < 0 then ['-'] else if plus then ['+'] else []) ++ decimal e.natAbs)

def text (plus : Bool) (n : Numeral) : List Char :=
  (if n.negative then ['-'] else []) ++ decimal n.whole ++
    (if n.places = [] then [] else '.' :: n.places.map Digit.char) ++
    (match n.exponent with
      | none => []
      | some e => exponentText plus e)

def readWhole (s : List Char) : Option (Nat × List Char) :=
  match Digit.span s with
  | ([], _) => none
  | ([d], rest) => some (d.val, rest)
  | (d :: ds, rest) => if d = 0 then none else some (Digit.toNat (d :: ds), rest)

def readPlaces : List Char → Option (List Digit × List Char)
  | '.' :: s =>
    match Digit.span s with
    | ([], _) => none
    | (ds, rest) => some (ds, rest)
  | s => some ([], s)

def readPower (negative : Bool) (s : List Char) : Option (Option Int × List Char) :=
  match Digit.span s with
  | ([], _) => none
  | (ds, rest) =>
    some (some (if negative then -(Digit.toNat ds : Int) else Digit.toNat ds), rest)

def readExponent : List Char → Option (Option Int × List Char)
  | c :: s =>
    if c = 'e' ∨ c = 'E' then
      match s with
      | '-' :: s => readPower true s
      | '+' :: s => readPower false s
      | s => readPower false s
    else some (none, c :: s)
  | [] => some (none, [])

def readUnsigned (negative : Bool) (s : List Char) : Option (Numeral × List Char) :=
  (readWhole s).bind fun (whole, s) =>
    (readPlaces s).bind fun (places, s) =>
      (readExponent s).map fun (exponent, s) => (⟨negative, whole, places, exponent⟩, s)

def read : List Char → Option (Numeral × List Char)
  | '-' :: s => readUnsigned true s
  | s => readUnsigned false s

end Numeral
end WalletLoop
