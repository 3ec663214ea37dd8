import WalletLoop.Proofs.Instant.Reading
import WalletLoop.Proofs.Decimal.Numerals
import WalletLoop.Proofs.Instant.Dates

namespace WalletLoop

namespace Digit

theorem mapM_char (digits : List Digit) : (digits.map char).mapM ofChar? = some digits := by
  induction digits with
  | nil => rfl
  | cons d digits ih => simp [ofChar?_char, ih]

end Digit

def paddedDigits (width n : Nat) : List Digit :=
  List.replicate (width - (Digit.ofNat n).length) Digit.zero ++ Digit.ofNat n

theorem padded_eq (width n : Nat) : padded width n = (paddedDigits width n).map Digit.char := by
  simp only [padded, decimal, paddedDigits, List.map_append, List.map_replicate, List.length_map]
  rfl

theorem toNat_paddedDigits (width n : Nat) : Digit.toNat (paddedDigits width n) = n := by
  rw [paddedDigits, Digit.toNat_zeros, Digit.toNat_ofNat]

theorem length_paddedDigits {width n : Nat} (fits : n < 10 ^ (width + 1)) :
    (paddedDigits (width + 1) n).length = width + 1 := by
  have short := Digit.length_ofNat_le fits
  simp only [paddedDigits, List.length_append, List.length_replicate]
  omega

namespace Instant

theorem readDigits_padded {width n : Nat} (fits : n < 10 ^ (width + 1)) (rest : List Char) :
    readDigits (width + 1) (padded (width + 1) n ++ rest) = some (n, rest) := by
  have length : (padded (width + 1) n).length = width + 1 := by
    rw [padded_eq, List.length_map, length_paddedDigits fits]
  rw [readDigits, List.take_left' length, List.drop_left' length, padded_eq, Digit.mapM_char,
    Option.bind_some, if_pos (length_paddedDigits fits), toNat_paddedDigits]

theorem readMark_cons (c : Char) (s : List Char) : readMark c (c :: s) = some s := if_pos rfl

theorem span_padded (width n : Nat) {rest : List Char} (stops : Digit.Stops rest) :
    Digit.span (padded width n ++ rest) = (paddedDigits width n, rest) := by
  rw [padded_eq, Digit.span_digits _ stops]

theorem stops_other {c : Char} (other : Digit.ofChar? c = none) (s : List Char) :
    Digit.Stops (c :: s) := by
  intro d first
  cases first
  exact other

theorem readYear_padded {n : Nat} (fits : n < 10000) (rest : List Char) :
    readYear (padded 4 n ++ rest) = some ((n : Int), rest) := by
  have read : readDigits 4 (padded 4 n ++ rest) = some (n, rest) := readDigits_padded fits rest
  obtain ⟨d, digits, same⟩ : ∃ d digits, paddedDigits 4 n = d :: digits :=
    List.exists_cons_of_length_eq_add_one (length_paddedDigits fits)
  rw [padded_eq, same, List.map_cons, List.cons_append] at read ⊢
  rw [readYear, read]
  · rfl
  · exact fun s first => (Digit.char_unsigned d).1 (List.cons.inj first).1
  · exact fun s first => (Digit.char_unsigned d).2 (List.cons.inj first).1

theorem readYear_text (year : Int) {rest : List Char} (stops : Digit.Stops rest) :
    readYear (yearText year ++ rest) = some (year, rest) := by
  have signed := span_padded 4 year.natAbs stops
  by_cases four : 0 ≤ year ∧ year ≤ 9999
  · rw [yearText, if_pos four, readYear_padded (by omega), Int.natAbs_of_nonneg four.1]
  · rw [yearText, if_neg four]
    by_cases negative : year < 0
    · rw [if_pos negative, List.cons_append, readYear, signed, toNat_paddedDigits,
        show -(year.natAbs : Int) = year by omega]
    · rw [if_neg negative, List.cons_append, readYear, signed, toNat_paddedDigits,
        Int.natAbs_of_nonneg (by omega)]

theorem readTwo {n : Nat} (fits : n < 100) (rest : List Char) :
    readDigits 2 (padded 2 n ++ rest) = some (n, rest) :=
  readDigits_padded fits rest

theorem readDate_text (date : CivilDate) (month : date.month < 100) (day : date.day < 100)
    (rest : List Char) : readDate (dateText date ++ rest) = some (date, rest) := by
  have year (s : List Char) := readYear_text date.year (stops_other (c := '-') rfl s)
  simp only [readDate, dateText, List.append_assoc, List.cons_append, year, readMark_cons,
    readTwo month, readTwo day, Option.bind_some, Option.map_some]

theorem readFraction_places {places nanos : Nat} (fits : nanos < 10 ^ (places + 1))
    {rest : List Char} (stops : Digit.Stops rest) :
    readFraction ('.' :: padded (places + 1) nanos ++ rest) =
      (nanos * 10 ^ (9 - (places + 1)), rest) := by
  rw [List.cons_append, readFraction, span_padded _ _ stops]
  dsimp only
  rw [toNat_paddedDigits, length_paddedDigits fits]
  rfl

theorem readFraction_text (nanos : Nat) (fits : nanos < 1000000000) {rest : List Char}
    (stops : Digit.Stops rest) (point : ∀ c ∈ rest.head?, c ≠ '.') :
    readFraction (fractionText nanos ++ rest) = (nanos, rest) := by
  by_cases none : nanos = 0
  · rw [fractionText, if_pos none, none, List.nil_append]
    cases rest with
    | nil => rfl
    | cons c rest =>
        rw [readFraction]
        exact fun s first => point c rfl (List.cons.inj first).1
  rw [fractionText, if_neg none]
  by_cases millis : nanos % 1000000 = 0
  · rw [if_pos millis, readFraction_places (by omega) stops]
    exact congrArg (·, rest) (Nat.div_mul_cancel (Nat.dvd_of_mod_eq_zero millis))
  rw [if_neg millis]
  by_cases micros : nanos % 1000 = 0
  · rw [if_pos micros, readFraction_places (by omega) stops]
    exact congrArg (·, rest) (Nat.div_mul_cancel (Nat.dvd_of_mod_eq_zero micros))
  · rw [if_neg micros, readFraction_places fits stops, Nat.sub_self, Nat.pow_zero, Nat.mul_one]

theorem readTime_text (second nanos : Nat) (inDay : second < 86400) (fits : nanos < 2000000000)
    (leap_last : 1000000000 ≤ nanos → second % 60 = 59) {rest : List Char}
    (stops : Digit.Stops rest) (point : ∀ c ∈ rest.head?, c ≠ '.') :
    readTime (timeText second nanos ++ rest) = some ((second, nanos), rest) := by
  have hour := readTwo (n := second / 3600) (by omega)
  have minute := readTwo (n := second / 60 % 60) (by omega)
  have fraction :=
    readFraction_text (nanos % 1000000000) (Nat.mod_lt _ (by decide)) stops point
  have whole : second / 3600 * 3600 + second / 60 % 60 * 60 + second % 60 = second := by omega
  by_cases leap : 1000000000 ≤ nanos
  · have last := leap_last leap
    have sixty := readTwo (n := 60) (by decide)
    simp only [readTime, timeText, if_pos leap, List.append_assoc, List.cons_append, hour, minute,
      last, sixty, readMark_cons, Option.bind_some, Option.map_some, fraction]
    rw [last] at whole
    rw [if_pos trivial, whole, show 1000000000 + nanos % 1000000000 = nanos by omega]
  · have fewer := readTwo (n := second % 60) (by omega)
    simp only [readTime, timeText, if_neg leap, List.append_assoc, List.cons_append, hour, minute,
      Nat.add_zero, fewer, readMark_cons, Option.bind_some, Option.map_some, fraction]
    rw [if_neg (by omega), whole, Nat.mod_eq_of_lt (Nat.not_le.1 leap)]

/-- A leap second, if it is one, ends a minute. -/
def Regular (t : Instant) : Prop := 1000000000 ≤ t.nanos → t.seconds % 60 = 59

/-- The instant that a text tells: a leap second that does not end a minute is shown as the second
after it. -/
def settled (t : Instant) : Instant :=
  if t.nanos < 1000000000 ∨ t.seconds % 60 = 59 then t
  else ⟨t.seconds + 1, t.nanos - 1000000000, Nat.lt_of_le_of_lt (Nat.sub_le ..) t.nanos_lt⟩

theorem settled_eq_self_iff (t : Instant) : t.settled = t ↔ t.Regular := by
  by_cases plain : t.nanos < 1000000000 ∨ t.seconds % 60 = 59
  · rw [settled, if_pos plain, Regular]
    exact iff_of_true rfl (by omega)
  · rw [settled, if_neg plain, Regular]
    refine ⟨fun same => ?_, by omega⟩
    have seconds : t.seconds + 1 = t.seconds := congrArg Instant.seconds same
    omega

theorem regular_settled (t : Instant) : t.settled.Regular := by
  have few := t.nanos_lt
  intro leap
  by_cases plain : t.nanos < 1000000000 ∨ t.seconds % 60 = 59
  · rw [settled, if_pos plain] at leap ⊢
    omega
  · rw [settled, if_neg plain] at leap
    dsimp only at leap
    omega

theorem timeText_carry {second nanos : Nat} (leap : 1000000000 ≤ nanos) (fits : nanos < 2000000000)
    (within : second % 60 ≠ 59) :
    timeText (second + 1) (nanos - 1000000000) = timeText second nanos := by
  have hour : (second + 1) / 3600 = second / 3600 := by omega
  have minute : (second + 1) / 60 % 60 = second / 60 % 60 := by omega
  have next : (second + 1) % 60 = second % 60 + 1 := by omega
  have fraction : (nanos - 1000000000) % 1000000000 = nanos % 1000000000 := by omega
  rw [timeText, timeText, if_pos leap, if_neg (by omega), hour, minute, next, fraction]

theorem text_settled (t : Instant) : t.settled.text = t.text := by
  by_cases plain : t.nanos < 1000000000 ∨ t.seconds % 60 = 59
  · rw [settled, if_pos plain]
  · have day : (t.seconds + 1) / 86400 = t.seconds / 86400 := by omega
    have second : ((t.seconds + 1) % 86400).toNat = (t.seconds % 86400).toNat + 1 := by omega
    have carried : timeText ((t.seconds % 86400).toNat + 1) (t.nanos - 1000000000) =
        timeText (t.seconds % 86400).toNat t.nanos :=
      timeText_carry (by omega) t.nanos_lt (by omega)
    rw [settled, if_neg plain, text, text, chars, chars, day, second, carried]

theorem ofParts?_seconds (t : Instant) :
    ofParts? (t.seconds / 86400 * 86400 + ((t.seconds % 86400).toNat : Int)) t.nanos = some t := by
  have whole : t.seconds / 86400 * 86400 + ((t.seconds % 86400).toNat : Int) = t.seconds := by
    omega
  rw [whole]
  exact dif_pos t.nanos_lt

theorem ofText?_of_regular {t : Instant} (regular : t.Regular) : ofText? t.text = some t := by
  have month := CivilDate.month_ofDays (t.seconds / 86400)
  have day := CivilDate.day_ofDays (t.seconds / 86400)
  have date := readDate_text (.ofDays (t.seconds / 86400)) (by omega) (by omega)
  have last (leap : 1000000000 ≤ t.nanos) : (t.seconds % 86400).toNat % 60 = 59 := by
    have ends := regular leap
    omega
  have time := readTime_text (t.seconds % 86400).toNat t.nanos (by omega) t.nanos_lt last
    (stops_other (c := 'Z') rfl []) (by simp)
  have found : t.text.toList = dateText (.ofDays (t.seconds / 86400)) ++
      'T' :: (timeText (t.seconds % 86400).toNat t.nanos ++ ['Z']) := by
    simp [text, chars]
  rw [ofText?, found, date, Option.bind_some]
  dsimp only
  rw [readMark_cons, Option.bind_some, time, Option.bind_some]
  dsimp only
  rw [CivilDate.toDays_ofDays, ofParts?_seconds]
  exact if_pos (beq_self_eq_true _)

theorem ofText?_text (t : Instant) : ofText? t.text = some t.settled := by
  rw [← text_settled, ofText?_of_regular t.regular_settled]

end Instant
end WalletLoop
