import EventRouter.Instant.Basic

/-! The calendar. The date of a day is a valid one, and counting the days up to it gives the day
back. An era of 400 years is cut into centuries, leap cycles of four years, years and days; only the
last year of a leap cycle can have a leap day, and of the last cycles of centuries only the last
one. -/

namespace EventRouter.Date

/-- A day of an era, by the centuries `c`, leap cycles `q`, years `k` and days `t` that have gone by
since it began. -/
structure EraDay (dayOfEra c q k t : Int) : Prop where
  eq : dayOfEra = 36524 * c + 1461 * q + 365 * k + t
  century : 0 ≤ c ∧ c ≤ 3
  cycle : 0 ≤ q ∧ q ≤ 24
  year : 0 ≤ k ∧ k ≤ 3
  day : 0 ≤ t ∧ t ≤ 365
  leap : t = 365 → k = 3 ∧ (q = 24 → c = 3)

theorem exists_eraDay (days : Int) : ∃ c q k t, EraDay (days % 146097) c q k t := by
  let c := min 3 (days % 146097 / 36524)
  let inCentury := days % 146097 - 36524 * c
  let q := inCentury / 1461
  let k := min 3 (inCentury % 1461 / 365)
  refine ⟨c, q, k, inCentury % 1461 - 365 * k, ?_, ?_, ?_, ?_, ?_, ?_⟩ <;> omega

namespace EraDay

variable {dayOfEra c q k t : Int}

/-- Days that only every fourth, hundredth or four hundredth year has are taken off before dividing
by the length of a year. -/
theorem year_eq (h : EraDay dayOfEra c q k t) :
    (dayOfEra - dayOfEra / 1460 + dayOfEra / 36524 - dayOfEra / 146096) / 365 =
      100 * c + 4 * q + k := by
  obtain ⟨heq, hc, hq, hk, ht, hleap⟩ := h
  have hcenturies : dayOfEra / 36524 - dayOfEra / 146096 = c := by
    by_cases hlast : dayOfEra = 146096
    · omega
    · have hin : 1461 * q + 365 * k + t < 36524 := by omega
      have hcentury : dayOfEra / 36524 = c := by omega
      have hera : dayOfEra / 146096 = 0 := by omega
      omega
  have hcycles : dayOfEra / 1460 = 25 * c + q ∨
      dayOfEra / 1460 = 25 * c + q + 1 ∧ 1460 ≤ 24 * c + q + 365 * k + t := by omega
  have hyears : (100 * c + 4 * q + k) * 365 ≤
        dayOfEra - dayOfEra / 1460 + (dayOfEra / 36524 - dayOfEra / 146096) ∧
      dayOfEra - dayOfEra / 1460 + (dayOfEra / 36524 - dayOfEra / 146096) <
        (100 * c + 4 * q + k + 1) * 365 := by
    rw [hcenturies]
    rcases hcycles with hcycles | ⟨hcycles, hlate⟩ <;> rw [hcycles] <;> omega
  omega

theorem day_eq (h : EraDay dayOfEra c q k t) :
    dayOfEra - (365 * (100 * c + 4 * q + k) + (100 * c + 4 * q + k) / 4 -
      (100 * c + 4 * q + k) / 100) = t := by
  obtain ⟨heq, hc, hq, hk, ht, hleap⟩ := h
  have hcycles : (100 * c + 4 * q + k) / 4 = 25 * c + q := by omega
  have hcenturies : (100 * c + 4 * q + k) / 100 = c := by omega
  omega

end EraDay

/-- The month that a day of a year beginning in March falls into, counted from March on. -/
def monthIndex (dayOfYear : Int) : Int := (5 * dayOfYear + 2) / 153

variable {days c q k t : Int}

theorem ofDays_eq (h : EraDay ((days + 719468) % 146097) c q k t) :
    ofDays days =
      let m := monthIndex t
      let month := if m < 10 then m + 3 else m - 9
      ⟨100 * c + 4 * q + k + (days + 719468) / 146097 * 400 + (if month ≤ 2 then 1 else 0),
        month.toNat, (t - (153 * m + 2) / 5 + 1).toNat⟩ := by
  simp only [ofDays, h.year_eq, h.day_eq, monthIndex]
  rfl

theorem monthIndex_bounds (hge : 0 ≤ t) (hle : t ≤ 365) :
    0 ≤ monthIndex t ∧ monthIndex t ≤ 11 ∧ (153 * monthIndex t + 2) / 5 ≤ t := by
  unfold monthIndex
  omega

/-- The days up to a date of a year that begins in March. -/
theorem toDays_monthIndex {m : Int} (hm0 : 0 ≤ m) (hm11 : m ≤ 11) (y : Int) {day : Int}
    (hday : 0 ≤ day) :
    let month := if m < 10 then m + 3 else m - 9
    toDays ⟨y + (if month ≤ 2 then 1 else 0), month.toNat, day.toNat⟩ =
      y / 400 * 146097 + (y % 400 * 365 + y % 400 / 4 - y % 400 / 100 +
        ((153 * m + 2) / 5 + day - 1)) - 719468 := by
  have hdayNat : (day.toNat : Int) = day := Int.toNat_of_nonneg hday
  by_cases hm : m < 10
  · have hlate : ¬ m + 3 ≤ 2 := by omega
    have hlateNat : ¬ (m + 3).toNat ≤ 2 := by omega
    have hindex : (((m + 3).toNat : Int) + 9) % 12 = m := by omega
    simp only [toDays, hm, hlate, hlateNat, hindex, hdayNat, if_true, if_false, Int.add_zero]
  · have hearly : m - 9 ≤ 2 := by omega
    have hearlyNat : (m - 9).toNat ≤ 2 := by omega
    have hindex : (((m - 9).toNat : Int) + 9) % 12 = m := by omega
    simp only [toDays, hm, hearly, hearlyNat, hindex, hdayNat, if_true, if_false,
      Int.add_sub_cancel]

theorem toDays_ofDays (days : Int) : (ofDays days).toDays = days := by
  obtain ⟨c, q, k, t, h⟩ := exists_eraDay (days + 719468)
  obtain ⟨hm0, hm11, hfirst⟩ := monthIndex_bounds h.day.1 h.day.2
  have hyear : 0 ≤ 100 * c + 4 * q + k ∧ 100 * c + 4 * q + k < 400 := by
    have := h.century
    have := h.cycle
    have := h.year
    omega
  have hera : (100 * c + 4 * q + k + (days + 719468) / 146097 * 400) / 400 =
      (days + 719468) / 146097 := by omega
  have hyearOfEra : (100 * c + 4 * q + k + (days + 719468) / 146097 * 400) % 400 =
      100 * c + 4 * q + k := by omega
  have hday := h.day_eq
  rw [ofDays_eq h]
  refine (toDays_monthIndex hm0 hm11 _ (by omega)).trans ?_
  rw [hera, hyearOfEra]
  omega

/-- A year that has a last day of its own is followed by one with a leap day. -/
theorem EraDay.isLeapYear_of_day {dayOfEra : Int} (h : EraDay dayOfEra c q k t) (ht : t = 365)
    (era : Int) : isLeapYear (100 * c + 4 * q + k + era * 400 + 1) = true := by
  obtain ⟨hk, hcentury⟩ := h.leap ht
  have hq := h.cycle
  have hfourth : (100 * c + 4 * q + k + era * 400 + 1) % 4 = 0 := by omega
  have hhundredth : (100 * c + 4 * q + k + era * 400 + 1) % 100 ≠ 0 ∨
      (100 * c + 4 * q + k + era * 400 + 1) % 400 = 0 := by
    by_cases hlast : q = 24
    · have := hcentury hlast
      omega
    · omega
  simp only [isLeapYear, Bool.and_eq_true, Bool.or_eq_true, decide_eq_true_eq]
  exact ⟨hfourth, hhundredth⟩

theorem daysInMonth_bounds (year : Int) (month : Nat) :
    28 ≤ daysInMonth year month ∧ daysInMonth year month ≤ 31 := by
  unfold daysInMonth
  split
  · split <;> decide
  all_goals decide

theorem bounds_of_isValid {d : Date} (h : d.isValid = true) :
    (1 ≤ d.month ∧ d.month ≤ 12) ∧ 1 ≤ d.day ∧ d.day ≤ 31 := by
  simp only [isValid, Bool.and_eq_true, decide_eq_true_eq] at h
  obtain ⟨⟨⟨hmonth, htwelve⟩, hday⟩, hlast⟩ := h
  exact ⟨⟨hmonth, htwelve⟩, hday, Nat.le_trans hlast (daysInMonth_bounds _ _).2⟩

/-- Months have 30 or 31 days, but for February, the last one. -/
theorem day_le_daysInMonth (hge : 0 ≤ t) (hle : t ≤ 365) {y : Int}
    (hleap : t = 365 → isLeapYear (y + 1) = true) :
    let m := monthIndex t
    let month := if m < 10 then m + 3 else m - 9
    (t - (153 * m + 2) / 5 + 1).toNat ≤
      daysInMonth (y + (if month ≤ 2 then 1 else 0)) month.toNat := by
  obtain ⟨hm0, hm11, -⟩ := monthIndex_bounds hge hle
  have hm : 153 * monthIndex t ≤ 5 * t + 2 ∧ 5 * t + 2 < 153 * (monthIndex t + 1) := by
    unfold monthIndex
    omega
  by_cases hfebruary : monthIndex t = 11
  · rw [hfebruary] at hm ⊢
    by_cases hlast : t = 365
    · simp [daysInMonth, hleap hlast, hlast]
    · have hday : (t - (153 * 11 + 2) / 5 + 1).toNat ≤ 28 := by omega
      exact Nat.le_trans hday (daysInMonth_bounds _ _).1
  · have hmonths : monthIndex t = 0 ∨ monthIndex t = 1 ∨ monthIndex t = 2 ∨ monthIndex t = 3 ∨
        monthIndex t = 4 ∨ monthIndex t = 5 ∨ monthIndex t = 6 ∨ monthIndex t = 7 ∨
        monthIndex t = 8 ∨ monthIndex t = 9 ∨ monthIndex t = 10 := by omega
    rcases hmonths with hindex | hindex | hindex | hindex | hindex | hindex | hindex | hindex |
      hindex | hindex | hindex <;> rw [hindex] at hm ⊢ <;> simp [daysInMonth] <;> omega

theorem isValid_ofDays (days : Int) : (ofDays days).isValid = true := by
  obtain ⟨c, q, k, t, h⟩ := exists_eraDay (days + 719468)
  obtain ⟨hm0, hm11, hfirst⟩ := monthIndex_bounds h.day.1 h.day.2
  have hlast := day_le_daysInMonth h.day.1 h.day.2 fun ht =>
    h.isLeapYear_of_day ht ((days + 719468) / 146097)
  rw [ofDays_eq h]
  simp only [isValid, Bool.and_eq_true, decide_eq_true_eq]
  refine ⟨⟨⟨?_, ?_⟩, ?_⟩, hlast⟩ <;> grind

/-- The first and the last instant fall on the first and the last day of a year. -/
theorem year_ofDays_bounds (days : Int) (hfirst : Instant.minSeconds / secondsPerDay ≤ days)
    (hlast : days ≤ Instant.maxSeconds / secondsPerDay) :
    Instant.minYear ≤ (ofDays days).year ∧ (ofDays days).year ≤ Instant.maxYear := by
  obtain ⟨c, q, k, t, h⟩ := exists_eraDay (days + 719468)
  have hm : 306 ≤ t ↔ 10 ≤ monthIndex t := by
    unfold monthIndex
    omega
  obtain ⟨hm0, hm11, -⟩ := monthIndex_bounds h.day.1 h.day.2
  rw [ofDays_eq h]
  obtain ⟨heq, hc, hq, hk, ht, -⟩ := h
  simp only [Instant.minSeconds, Instant.maxSeconds, secondsPerDay, Instant.minYear,
    Instant.maxYear] at hfirst hlast ⊢
  generalize hera : (days + 719468) / 146097 = era
  have hlower : -262143 ≤ 100 * c + 4 * q + k + era * 400 ∨
      -262144 = 100 * c + 4 * q + k + era * 400 ∧ 306 ≤ t := by
    have hcases : era = -656 ∨ -655 ≤ era := by omega
    rcases hcases with rfl | hlate <;> omega
  have hupper : 100 * c + 4 * q + k + era * 400 ≤ 262141 ∨
      100 * c + 4 * q + k + era * 400 = 262142 ∧ t ≤ 305 := by
    have hcases : era = 655 ∨ era ≤ 654 := by omega
    rcases hcases with rfl | hearly <;> omega
  split <;> split <;> omega

end EventRouter.Date
