import WalletLoop.Instant.Text

namespace WalletLoop.Instant

def readDigits (n : Nat) (s : List Char) : Option (Nat × List Char) :=
  ((s.take n).mapM Digit.ofChar?).bind fun digits =>
    if digits.length = n then some (Digit.toNat digits, s.drop n) else none

def readMark (c : Char) : List Char → Option (List Char)
  | [] => none
  | d :: s => if c = d then some s else none

def readYear : List Char → Option (Int × List Char)
  | '-' :: s => some (-(Digit.toNat (Digit.span s).1 : Int), (Digit.span s).2)
  | '+' :: s => some (Digit.toNat (Digit.span s).1, (Digit.span s).2)
  | s => (readDigits 4 s).map fun (n, s) => (n, s)

def readDate (s : List Char) : Option (CivilDate × List Char) :=
  (readYear s).bind fun (year, s) =>
    (readMark '-' s).bind fun s => (readDigits 2 s).bind fun (month, s) =>
      (readMark '-' s).bind fun s => (readDigits 2 s).map fun (day, s) => (⟨year, month, day⟩, s)

def readFraction : List Char → Nat × List Char
  | '.' :: s =>
    let (digits, s) := Digit.span s
    (Digit.toNat digits * Nat.pow 10 (9 - digits.length), s)
  | s => (0, s)

def readTime (s : List Char) : Option ((Nat × Nat) × List Char) :=
  (readDigits 2 s).bind fun (hour, s) =>
    (readMark ':' s).bind fun s => (readDigits 2 s).bind fun (minute, s) =>
      (readMark ':' s).bind fun s => (readDigits 2 s).map fun (second, s) =>
        let (nanos, s) := readFraction s
        if second = 60 then ((hour * 3600 + minute * 60 + 59, 1000000000 + nanos), s)
        else ((hour * 3600 + minute * 60 + second, nanos), s)

def ofText? (text : String) : Option Instant :=
  let found := (readDate text.toList).bind fun (date, s) =>
    (readMark 'T' s).bind fun s => (readTime s).bind fun ((second, nanos), _) =>
      ofParts? (date.toDays * 86400 + second) nanos
  found.filter fun t => t.text == text

end WalletLoop.Instant
