import EventRouter.Instant.Printer

/-! Leap seconds out of place. A clock shows a leap second behind a second 59 as a second 60, and one
behind any other second as the second that comes next. So every instant looks like one whose leap
second, if it lies in one, has its place. -/

namespace EventRouter.Instant

/-- The instant lies in no leap second, or in one that has its place, behind a second 59. -/
def InPlace (t : Instant) : Prop := nanosPerSecond ≤ t.nanos → t.seconds % 60 = 59

instance (t : Instant) : Decidable t.InPlace :=
  inferInstanceAs (Decidable (nanosPerSecond ≤ t.nanos → t.seconds % 60 = 59))

variable {t : Instant}

theorem not_inPlace_iff : ¬ t.InPlace ↔ nanosPerSecond ≤ t.nanos ∧ t.seconds % 60 ≠ 59 :=
  Classical.not_imp

/-- The last of all seconds is a second 59, so a second follows where a leap second has no place. -/
theorem seconds_lt_of_not_inPlace (h : ¬ t.InPlace) : t.seconds + 1 ≤ maxSeconds := by
  have hle := t.seconds_le
  have hsecond := (not_inPlace_iff.1 h).2
  unfold maxSeconds at hle ⊢
  omega

/-- The instant that a clock shows: one in a leap second out of place is carried over to the second
that comes next. -/
def carried (t : Instant) : Instant :=
  if h : t.InPlace then t
  else
    ⟨t.seconds + 1, t.nanos - nanosPerSecond, Int.le_add_one t.seconds_ge,
      seconds_lt_of_not_inPlace h, Nat.lt_of_le_of_lt (Nat.sub_le ..) t.nanos_lt⟩

theorem carried_of_inPlace (h : t.InPlace) : t.carried = t := dif_pos h

theorem carried_of_not_inPlace (h : ¬ t.InPlace) :
    t.carried.seconds = t.seconds + 1 ∧ t.carried.nanos = t.nanos - nanosPerSecond := by
  rw [carried, dif_neg h]
  exact ⟨rfl, rfl⟩

theorem inPlace_carried (t : Instant) : t.carried.InPlace := by
  by_cases h : t.InPlace
  · rwa [carried_of_inPlace h]
  · have hlt := t.nanos_lt
    intro hleap
    rw [(carried_of_not_inPlace h).2] at hleap
    omega

theorem carried_eq_self_iff : t.carried = t ↔ t.InPlace :=
  ⟨fun h => h ▸ inPlace_carried t, carried_of_inPlace⟩

/-- The clock shows both instants alike, each part of it. -/
theorem clock_carried (t : Instant) :
    t.carried.date = t.date ∧ t.carried.hour = t.hour ∧ t.carried.minute = t.minute ∧
      t.carried.second = t.second ∧ t.carried.nano = t.nano := by
  by_cases h : t.InPlace
  · rw [carried_of_inPlace h]
    exact ⟨rfl, rfl, rfl, rfl, rfl⟩
  obtain ⟨hseconds, hnanos⟩ := carried_of_not_inPlace h
  obtain ⟨hleap, hsecond⟩ := not_inPlace_iff.1 h
  have hday : (t.seconds + 1) / secondsPerDay = t.seconds / secondsPerDay := by
    unfold secondsPerDay
    omega
  have hsecondOfDay : t.carried.secondOfDay = t.secondOfDay + 1 := by
    unfold secondOfDay secondsPerDay
    omega
  have hlast : t.secondOfDay % 60 ≠ 59 := by
    unfold secondOfDay secondsPerDay
    omega
  refine ⟨?_, ?_, ?_, ?_, ?_⟩
  · rw [date, date, hseconds, hday]
  · rw [hour, hour, hsecondOfDay]
    omega
  · rw [minute, minute, hsecondOfDay]
    omega
  · have hquotient := Nat.div_eq_sub_div (by decide : 0 < nanosPerSecond) hleap
    rw [second, second, hsecondOfDay, hnanos, hquotient]
    omega
  · rw [nano, nano, hnanos, Nat.mod_eq_sub_mod hleap]

theorem secondsText_carried (t : Instant) : t.carried.secondsText = t.secondsText := by
  obtain ⟨hdate, hhour, hminute, hsecond, -⟩ := clock_carried t
  rw [secondsText, secondsText, hdate, hhour, hminute, hsecond]

theorem text_carried (t : Instant) : t.carried.text = t.text := by
  obtain ⟨-, -, -, -, hnano⟩ := clock_carried t
  rw [text, text, secondsText_carried, hnano]

end EventRouter.Instant
