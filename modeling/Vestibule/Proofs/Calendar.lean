import Vestibule.Time.Calendar

/-! The calendar. Every day has a year, a month and a day of the month, which name it. -/

namespace Vestibule.Date

/-- The days of an era of 400 years before its year `y`, counted from March. -/
def daysBefore (y : Nat) : Nat := y * 365 + y / 4 - y / 100

/-- The year of an era that a day of it falls in. -/
def yearOfEra (day : Nat) : Nat := (day - day / 1460 + day / 36524 - day / 146096) / 365

/-- In an era, centuries but the last have 36524 days, and each of their four-year cycles but the
last has 1461. -/
theorem yearOfEra_eq {c q s : Nat} (century : c ≤ 3) (within : 1461 * q + s < 36524)
    (cycle : s ≤ 1460) :
    yearOfEra (36524 * c + 1461 * q + s) = 100 * c + 4 * q + min (s / 365) 3 := by
  have centuries : (36524 * c + 1461 * q + s) / 36524 = c := by omega
  have eras : (36524 * c + 1461 * q + s) / 146096 = 0 := by omega
  unfold yearOfEra
  rw [centuries, eras]
  -- What the days that centuries lack shift the count by is noticed at the end of a cycle.
  by_cases early : 24 * c + q + s < 1460
  · have cycles : (36524 * c + 1461 * q + s) / 1460 = 25 * c + q := by omega
    rw [cycles]
    omega
  · have cycles : (36524 * c + 1461 * q + s) / 1460 = 25 * c + q + 1 := by omega
    rw [cycles]
    omega

/-- A day of an era falls in one of its years, and on a 366th day only in one before a leap day. -/
theorem yearOfEra_spec {day : Nat} (small : day < 146097) :
    ∃ y rest, yearOfEra day = y ∧ day = daysBefore y + rest ∧ y < 400 ∧ rest ≤ 365 ∧
      (rest = 365 → (y + 1) % 4 = 0 ∧ ((y + 1) % 100 ≠ 0 ∨ y + 1 = 400)) := by
  by_cases last : day = 146096
  · subst last
    exact ⟨399, 365, by decide⟩
  · obtain ⟨c, r, hr, rfl⟩ : ∃ c r, r < 36524 ∧ day = 36524 * c + r :=
      ⟨day / 36524, day % 36524, Nat.mod_lt _ (by decide), (Nat.div_add_mod ..).symm⟩
    obtain ⟨q, s, hs, rfl⟩ : ∃ q s, s < 1461 ∧ r = 1461 * q + s :=
      ⟨r / 1461, r % 1461, Nat.mod_lt _ (by decide), (Nat.div_add_mod ..).symm⟩
    have year := yearOfEra_eq (c := c) (by omega) hr (Nat.le_of_lt_succ hs)
    rw [Nat.add_assoc] at year
    obtain ⟨t, u, ht, hu, top, rfl⟩ : ∃ t u, t ≤ 3 ∧ u ≤ 365 ∧ (u = 365 → t = 3) ∧
        s = 365 * t + u := ⟨min (s / 365) 3, s - 365 * min (s / 365) 3, by omega⟩
    have years : min ((365 * t + u) / 365) 3 = t := by omega
    have cycles : (100 * c + 4 * q + t) / 4 = 25 * c + q := by omega
    have centuries : (100 * c + 4 * q + t) / 100 = c := by omega
    rw [years] at year
    refine ⟨_, u, year, ?_⟩
    rw [daysBefore, cycles, centuries]
    omega

/-- The month of a day of a year that begins in March. -/
def monthOf (rest : Nat) : Nat :=
  if (5 * rest + 2) / 153 < 10 then (5 * rest + 2) / 153 + 3 else (5 * rest + 2) / 153 - 9

/-- The day of the month of a day of a year that begins in March. -/
def dayOf (rest : Nat) : Nat := rest - (153 * ((5 * rest + 2) / 153) + 2) / 5 + 1

/-- The day of a year that begins in March, of a month and a day of it. -/
def dayOfYear (month day : Nat) : Nat :=
  (153 * (if month ≤ 2 then month + 9 else month - 3) + 2) / 5 + day - 1

/-- A month and a day of it name the day of the year. In a common year each month has the day, but
for the day that only leap years have. -/
theorem month_spec {rest : Nat} (small : rest ≤ 365) :
    1 ≤ monthOf rest ∧ monthOf rest ≤ 12 ∧ 1 ≤ dayOf rest ∧
      dayOfYear (monthOf rest) (dayOf rest) = rest ∧ (monthOf rest ≤ 2 ↔ 306 ≤ rest) ∧
      (dayOf rest ≤ daysInMonth 1 (monthOf rest) ∨
        rest = 365 ∧ monthOf rest = 2 ∧ dayOf rest = 29) := by
  have each : ∀ rest < 366, 1 ≤ monthOf rest ∧ monthOf rest ≤ 12 ∧ 1 ≤ dayOf rest ∧
      dayOfYear (monthOf rest) (dayOf rest) = rest ∧ (monthOf rest ≤ 2 ↔ 306 ≤ rest) ∧
      (dayOf rest ≤ daysInMonth 1 (monthOf rest) ∨
        rest = 365 ∧ monthOf rest = 2 ∧ dayOf rest = 29) := by decide +kernel
  exact each rest (Nat.lt_succ_of_le small)

theorem daysInMonth_common {year : Int} {month : Nat} :
    daysInMonth 1 month ≤ daysInMonth year month := by
  unfold daysInMonth
  split
  · rw [show isLeapYear 1 = false from rfl]
    cases isLeapYear year <;> decide
  · exact Nat.le_refl _

/-- Where a day falls: in an era, in a year of it that begins in March, and in that year. -/
theorem civil_spec (d : Date) : ∃ (era : Int) (y rest : Nat),
    d.day + 719468 = era * 146097 + ↑(daysBefore y + rest) ∧ y < 400 ∧ rest ≤ 365 ∧
      (rest = 365 → (y + 1) % 4 = 0 ∧ ((y + 1) % 100 ≠ 0 ∨ y + 1 = 400)) ∧
      d.civil = (if monthOf rest ≤ 2 then ↑y + era * 400 + 1 else ↑y + era * 400,
        monthOf rest, dayOf rest) := by
  obtain ⟨y, rest, year, whole, small, within, leap⟩ :=
    yearOfEra_spec (show ((d.day + 719468) % 146097).toNat < 146097 by omega)
  refine ⟨(d.day + 719468) / 146097, y, rest, by omega, small, within, leap, ?_⟩
  have left : ((d.day + 719468) % 146097).toNat - (365 * y + y / 4 - y / 100) = rest := by
    rw [whole, daysBefore, Nat.mul_comm y 365]
    omega
  unfold yearOfEra at year
  simp only [civil, year, left]
  rfl

/-- The day of a year that begins in March. -/
theorem ofMarchYear_eq {era : Int} {y rest : Nat} (small : y < 400) :
    ofMarchYear (↑y + era * 400) rest = era * 146097 + ↑(daysBefore y + rest) - 719468 := by
  have same : (↑y + era * 400) / 400 = era := by omega
  have inside : ((↑y + era * 400) % 400).toNat = y := by omega
  rw [ofMarchYear, same, inside, daysBefore]

/-- A day is the one of its year, month and day of the month. -/
theorem ofCivil?_civil {d : Date} : ofCivil? d.civil.1 d.civil.2.1 d.civil.2.2 = some d := by
  obtain ⟨era, y, rest, whole, small, within, leap, named⟩ := d.civil_spec
  obtain ⟨first, last, begun, sought, spring, listed⟩ := month_spec within
  have exists_day : dayOf rest ≤ daysInMonth d.civil.1 (monthOf rest) := by
    rcases listed with common | ⟨last, month, day⟩
    · exact Nat.le_trans common daysInMonth_common
    · obtain ⟨fourth, century⟩ := leap last
      have leapYear : isLeapYear d.civil.1 = true := by
        rw [named]
        dsimp only
        rw [if_pos (by omega), isLeapYear, Bool.and_eq_true, Bool.or_eq_true, decide_eq_true_eq,
          decide_eq_true_eq, decide_eq_true_eq]
        omega
      rw [month, day, daysInMonth, if_pos rfl, leapYear]
      exact Nat.le_refl 29
  have years : (if monthOf rest ≤ 2 then d.civil.1 - 1 else d.civil.1) = ↑y + era * 400 := by
    rw [named]
    split <;> simp_all
  have months : d.civil.2.1 = monthOf rest ∧ d.civil.2.2 = dayOf rest := by
    rw [named]
    exact ⟨rfl, rfl⟩
  rw [months.1, months.2, ofCivil?, if_pos ⟨first, last, begun, exists_day⟩]
  simp only [years]
  rw [dayOfYear] at sought
  rw [sought, ofMarchYear_eq small, ← whole, Int.add_sub_cancel]

/-- The years of the days that instants fall on are those that texts may name. -/
theorem civil_inRange {d : Date} (low : -96465292 ≤ d.day) (high : d.day ≤ 95026236) :
    -262143 ≤ d.civil.1 ∧ d.civil.1 ≤ 262142 := by
  obtain ⟨era, y, rest, whole, small, within, leap, named⟩ := d.civil_spec
  obtain ⟨first, last, begun, sought, spring, listed⟩ := month_spec within
  rw [named]
  dsimp only
  rw [daysBefore] at whole
  have eras : -656 ≤ era ∧ era ≤ 655 := by omega
  refine ⟨Int.not_lt.mp fun early => ?_, Int.not_lt.mp fun late => ?_⟩
  · obtain rfl : era = -656 := by omega
    split at early <;> omega
  · obtain rfl : era = 655 := by omega
    split at late <;> omega

/-- Months and days of a month have at most two digits. -/
theorem civil_twoDigits (d : Date) : d.civil.2.1 < 100 ∧ d.civil.2.2 < 100 := by
  obtain ⟨era, y, rest, whole, small, within, leap, named⟩ := d.civil_spec
  obtain ⟨first, last, begun, sought, spring, listed⟩ := month_spec within
  have month : daysInMonth 1 (monthOf rest) ≤ 31 := by
    unfold daysInMonth
    split
    · split <;> decide
    · split <;> decide
  rw [named]
  refine ⟨Nat.lt_of_le_of_lt last (by decide), ?_⟩
  show dayOf rest < 100
  omega

end Vestibule.Date
