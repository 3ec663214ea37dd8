import WalletLoop.Decimal.Numeral

namespace WalletLoop.Toml.Moment

def two : List Char → Option (Nat × List Char)
  | a :: b :: rest =>
    (Digit.ofChar? a).bind fun a => (Digit.ofChar? b).map fun b => (10 * a.val + b.val, rest)
  | _ => none

def daysIn (year month : Nat) : Nat :=
  if month = 2 then
    if year % 4 = 0 ∧ (year % 100 ≠ 0 ∨ year % 400 = 0) then 29 else 28
  else if month = 4 ∨ month = 6 ∨ month = 9 ∨ month = 11 then 30
  else 31

def date (s : List Char) : Option (List Char) := do
  let (century, s) ← two s
  let (years, s) ← two s
  match s with
  | '-' :: s =>
    let (month, s) ← two s
    match s with
    | '-' :: s =>
      let (day, s) ← two s
      let valid := 1 ≤ month ∧ month ≤ 12 ∧ 1 ≤ day ∧ day ≤ daysIn (100 * century + years) month
      if valid then some s else none
    | _ => none
  | _ => none

def fraction : List Char → Option (List Char)
  | '.' :: s =>
    match Digit.span s with
    | ([], _) => none
    | (_, rest) => some rest
  | s => some s

def time (s : List Char) : Option (List Char) := do
  let (hour, s) ← two s
  match s with
  | ':' :: s =>
    let (minute, s) ← two s
    if hour ≤ 23 ∧ minute ≤ 59 then
      match s with
      | ':' :: s =>
        let (second, s) ← two s
        if second ≤ 60 then fraction s else none
      | s => some s
    else none
  | _ => none

def offset : List Char → Option (List Char)
  | [] => some []
  | c :: s =>
    if c = 'Z' ∨ c = 'z' then some s
    else if c = '+' ∨ c = '-' then do
      let (hours, s) ← two s
      match s with
      | ':' :: s =>
        let (minutes, s) ← two s
        if hours ≤ 23 ∧ minutes ≤ 59 then some s else none
      | _ => none
    else none

def isMoment (s : List Char) : Bool :=
  match date s with
  | some [] => true
  | some (c :: rest) =>
    (c = 'T' || c = 't' || c = ' ') && (time rest).bind offset == some []
  | none => time s == some []

end WalletLoop.Toml.Moment
