import WalletLoop.Instant.Text

namespace WalletLoop.CivilDate

/-- Where a day stands in the cycle of 400 years, counted from 1 March of the year 0: the cycle, the
century and the four years it belongs to, the year in them and the day in the year. -/
structure Position where
  era : Int
  century : Int
  quad : Int
  yearOfQuad : Int
  dayOfYear : Nat

namespace Position

def year (p : Position) : Int := 400 * p.era + 100 * p.century + 4 * p.quad + p.yearOfQuad

structure Fits (p : Position) : Prop where
  century : 0 ≤ p.century ∧ p.century ≤ 3
  quad : 0 ≤ p.quad ∧ p.quad ≤ 24
  yearOfQuad : 0 ≤ p.yearOfQuad ∧ p.yearOfQuad ≤ 3
  dayOfYear : p.dayOfYear ≤ 365

def shiftedMonth (p : Position) : Nat := (5 * p.dayOfYear + 2) / 153

def daysBefore (month : Nat) : Nat := (153 * month + 2) / 5

def date (p : Position) : CivilDate :=
  let day := p.dayOfYear - daysBefore p.shiftedMonth + 1
  if p.shiftedMonth < 10 then ⟨p.year, p.shiftedMonth + 3, day⟩
  else ⟨p.year + 1, p.shiftedMonth - 9, day⟩

def days (p : Position) : Int :=
  146097 * p.era + 36524 * p.century + 1461 * p.quad + 365 * p.yearOfQuad + p.dayOfYear

end Position

theorem exists_position (days : Int) :
    ∃ p : Position, p.Fits ∧ ofDays days = p.date ∧ p.days = days + 719468 := by
  let era := (days + 719468) / 146097
  let dayOfEra := (days + 719468) % 146097
  let century := min (dayOfEra / 36524) 3
  let dayOfCentury := dayOfEra - 36524 * century
  let quad := dayOfCentury / 1461
  let dayOfQuad := dayOfCentury % 1461
  let yearOfQuad := min (dayOfQuad / 365) 3
  -- the last century of a cycle and the last year of four have a day more than the others
  have centuries : 0 ≤ century ∧ century ≤ 3 := by omega
  have century_days : 0 ≤ dayOfCentury ∧ dayOfCentury ≤ 36524 := by omega
  have quads : 0 ≤ quad ∧ quad ≤ 24 := by omega
  have years : 0 ≤ yearOfQuad ∧ yearOfQuad ≤ 3 := by omega
  have year_days : 0 ≤ dayOfQuad - 365 * yearOfQuad ∧ dayOfQuad - 365 * yearOfQuad ≤ 365 := by
    omega
  refine ⟨⟨era, century, quad, yearOfQuad, (dayOfQuad - 365 * yearOfQuad).toNat⟩,
    ⟨centuries, quads, years, Int.toNat_le.2 year_days.2⟩, rfl, ?_⟩
  simp only [Position.days, Int.toNat_of_nonneg year_days.1]
  omega

namespace Position
variable {p : Position}

theorem days_year (fits : p.Fits) :
    365 * p.year + p.year / 4 - p.year / 100 + p.year / 400 + p.dayOfYear = p.days := by
  obtain ⟨century, quad, year, -⟩ := fits
  have fours : p.year / 4 = 100 * p.era + 25 * p.century + p.quad := by
    simp only [Position.year]
    omega
  have hundreds : p.year / 100 = 4 * p.era + p.century := by
    simp only [Position.year]
    omega
  have cycles : p.year / 400 = p.era := by
    simp only [Position.year]
    omega
  rw [fours, hundreds, cycles, Position.year, Position.days]
  omega

theorem month_le (fits : p.Fits) : p.shiftedMonth ≤ 11 := by
  have := fits.dayOfYear
  simp only [shiftedMonth]
  omega

theorem daysBefore_le : daysBefore p.shiftedMonth ≤ p.dayOfYear := by
  simp only [daysBefore, shiftedMonth]
  omega

theorem toDays_date (fits : p.Fits) : p.date.toDays = p.days - 719468 := by
  have months := month_le fits
  have before := daysBefore_le (p := p)
  have years := days_year fits
  simp only [daysBefore] at before
  by_cases early : p.shiftedMonth < 10
  · simp only [date, if_pos early, toDays, daysBefore]
    rw [if_neg (by omega), if_neg (by omega)]
    omega
  · simp only [date, if_neg early, toDays, daysBefore]
    rw [if_pos (by omega), if_pos (by omega)]
    have same : p.year + 1 - 1 = p.year := by omega
    rw [same]
    omega

theorem month_date (fits : p.Fits) : 1 ≤ p.date.month ∧ p.date.month ≤ 12 := by
  have months := month_le fits
  by_cases early : p.shiftedMonth < 10
  · simp only [date, if_pos early]
    omega
  · simp only [date, if_neg early]
    omega

theorem day_date (fits : p.Fits) : 1 ≤ p.date.day ∧ p.date.day ≤ 31 := by
  have days := fits.dayOfYear
  have day : p.date.day = p.dayOfYear - daysBefore p.shiftedMonth + 1 := by
    simp only [date]
    split <;> rfl
  rw [day, daysBefore, shiftedMonth]
  omega

end Position

theorem toDays_ofDays (days : Int) : (ofDays days).toDays = days := by
  obtain ⟨p, fits, same, counted⟩ := exists_position days
  rw [same, Position.toDays_date fits]
  omega

theorem month_ofDays (days : Int) : 1 ≤ (ofDays days).month ∧ (ofDays days).month ≤ 12 := by
  obtain ⟨p, fits, same, -⟩ := exists_position days
  exact same ▸ Position.month_date fits

theorem day_ofDays (days : Int) : 1 ≤ (ofDays days).day ∧ (ofDays days).day ≤ 31 := by
  obtain ⟨p, fits, same, -⟩ := exists_position days
  exact same ▸ Position.day_date fits

end WalletLoop.CivilDate
