import WalletLoop.Decimal.Numeral

/-!
Instants of universal time and their RFC 3339 text in the proleptic Gregorian calendar.

An instant counts seconds from the start of 1970. Its nanoseconds run to two thousand million: the
second half marks a leap second, which is shown as a second more, and so as second 60 at the end of a
minute. Days are counted from 1 March of the year 0, so that the leap day ends a year and every part
of a date is one division away from the next.
-/

namespace WalletLoop

structure Instant where
  seconds : Int
  nanos : Nat
  nanos_lt : nanos < 2000000000
deriving DecidableEq

structure CivilDate where
  year : Int
  month : Nat
  day : Nat
deriving DecidableEq

namespace CivilDate

def ofDays (days : Int) : CivilDate :=
  let shifted := days + 719468
  let era := shifted / 146097
  let dayOfEra := shifted % 146097
  let century := min (dayOfEra / 36524) 3
  let dayOfCentury := dayOfEra - 36524 * century
  let quad := dayOfCentury / 1461
  let dayOfQuad := dayOfCentury % 1461
  let yearOfQuad := min (dayOfQuad / 365) 3
  let dayOfYear := (dayOfQuad - 365 * yearOfQuad).toNat
  let year := 400 * era + 100 * century + 4 * quad + yearOfQuad
  let shiftedMonth := (5 * dayOfYear + 2) / 153
  let day := dayOfYear - (153 * shiftedMonth + 2) / 5 + 1
  if shiftedMonth < 10 then ⟨year, shiftedMonth + 3, day⟩ else ⟨year + 1, shiftedMonth - 9, day⟩

def toDays (date : CivilDate) : Int :=
  let year := if date.month ≤ 2 then date.year - 1 else date.year
  let shiftedMonth := if date.month ≤ 2 then date.month + 9 else date.month - 3
  365 * year + year / 4 - year / 100 + year / 400
    + ((153 * shiftedMonth + 2) / 5 + date.day : Nat) - 719469

end CivilDate

def padded (width n : Nat) : List Char :=
  List.replicate (width - (decimal n).length) '0' ++ decimal n

namespace Instant

def epoch : Instant := ⟨0, 0, by decide⟩

def ofParts? (seconds : Int) (nanos : Nat) : Option Instant :=
  if h : nanos < 2000000000 then some ⟨seconds, nanos, h⟩ else none

def yearText (year : Int) : List Char :=
  if 0 ≤ year ∧ year ≤ 9999 then padded 4 year.natAbs
  else (if year < 0 then '-' else '+') :: padded 4 year.natAbs

/-- The fraction of a second with the fewest of 0, 3, 6 and 9 places that is exact. -/
def fractionText (nanos : Nat) : List Char :=
  if nanos = 0 then []
  else if nanos % 1000000 = 0 then '.' :: padded 3 (nanos / 1000000)
  else if nanos % 1000 = 0 then '.' :: padded 6 (nanos / 1000)
  else '.' :: padded 9 nanos

def dateText (date : CivilDate) : List Char :=
  yearText date.year ++ '-' :: padded 2 date.month ++ '-' :: padded 2 date.day

def timeText (second nanos : Nat) : List Char :=
  let leap := if 1000000000 ≤ nanos then 1 else 0
  padded 2 (second / 3600) ++ ':' :: padded 2 (second / 60 % 60) ++
    ':' :: padded 2 (second % 60 + leap) ++ fractionText (nanos % 1000000000)

def chars (t : Instant) : List Char :=
  dateText (.ofDays (t.seconds / 86400)) ++ 'T' :: timeText (t.seconds % 86400).toNat t.nanos ++ ['Z']

def text (t : Instant) : String := String.ofList t.chars

end Instant
end WalletLoop
