import EventRouter.Instant.Parser
import EventRouter.Proofs.Except
import EventRouter.Proofs.Instant.Calendar
import EventRouter.Proofs.Instant.Carry
import EventRouter.Proofs.Text.Numeral
import EventRouter.Proofs.Text.Parts

/-! Reading the text of an instant gives the instant that its clock shows. Each part of the text ends
at a character that the next part begins with and that is no digit. -/

namespace EventRouter.Instant

variable {cs rest : List Char} {t : Instant}

/-! ### Digits -/

theorem digitsAfter_of_readFrom? {n v width : Nat} (hread : Numeral.readFrom? 10 n cs = some v)
    (hwidth : cs.length ≤ width) (hv : v ≤ fieldLimit)
    (hrest : ∀ c ∈ rest.head?, c.isDigit = false) :
    digitsAfter n width (cs ++ rest) = .ok (v, rest) := by
  induction cs generalizing n width with
  | nil =>
    obtain rfl := Option.some.inj hread
    rw [List.nil_append]
    unfold digitsAfter
    split
    · next c tail =>
      have hc : c.isDigit = false := hrest c rfl
      simp [hc]
    · rfl
  | cons c cs ih =>
    obtain ⟨width, rfl⟩ : ∃ w, width = w + 1 := ⟨width - 1, by simp at hwidth; omega⟩
    obtain ⟨d, hd, hread⟩ := Option.bind_eq_some_iff.1 hread
    have hle := Numeral.le_of_readFrom? hread
    obtain ⟨hc, rfl⟩ := Numeral.digitIn?_eq_some hd
    have hfits : ¬ fieldLimit < 10 * n + (c.toNat - '0'.toNat) := Nat.not_lt.2 (Nat.le_trans hle hv)
    rw [List.cons_append, digitsAfter, if_pos hc]
    exact (if_neg hfits).trans (ih hread (Nat.le_of_succ_le_succ hwidth))

theorem number_of_readFrom? {v width : Nat} (hread : Numeral.readFrom? 10 0 cs = some v)
    (hne : cs ≠ []) (hwidth : cs.length ≤ width) (hv : v ≤ fieldLimit)
    (hrest : ∀ c ∈ rest.head?, c.isDigit = false) :
    number width (cs ++ rest) = .ok (v, rest) := by
  obtain ⟨c, tail, rfl⟩ := List.exists_cons_of_ne_nil hne
  have hc : c.isDigit = true := Numeral.isDigit_of_readFrom? hread c List.mem_cons_self
  have hdigits := digitsAfter_of_readFrom? hread hwidth hv hrest
  rw [List.cons_append] at hdigits ⊢
  rw [number, if_pos hc, hdigits]

theorem number_writePadded {n least width : Nat} (hn : n ≤ fieldLimit)
    (hwidth : (Numeral.writePadded 10 least n).length ≤ width)
    (hrest : ∀ c ∈ rest.head?, c.isDigit = false) :
    number width (Numeral.writePadded 10 least n ++ rest) = .ok (n, rest) :=
  number_of_readFrom? (Numeral.readFrom?_writePadded (by decide) (by decide) least n)
    (Numeral.writePadded_ne_nil 10 least n) hwidth hn hrest

/-! ### Parts of the text -/

theorem isBlank_of_isDigit {c : Char} (hc : c.isDigit = true) : Text.isBlank c = false := by
  have hdigits : ∀ d : Fin 10, Text.isBlank (Char.ofNat (48 + d)) = false := by decide
  have hc : 48 ≤ c.toNat ∧ c.toNat ≤ 57 := Char.isDigit_iff_toNat.1 hc
  have hdigit := hdigits ⟨c.toNat - 48, by omega⟩
  rwa [Nat.add_sub_cancel' hc.1, Char.ofNat_toNat] at hdigit

theorem trimStart_writePadded (width n : Nat) :
    Text.trimStart (Numeral.writePadded 10 width n ++ rest) =
      Numeral.writePadded 10 width n ++ rest := by
  have hdigits : ∀ c ∈ Numeral.writePadded 10 width n, c.isDigit = true :=
    Numeral.isDigit_of_mem_writePadded
  obtain ⟨c, tail, hcons⟩ := List.exists_cons_of_ne_nil (Numeral.writePadded_ne_nil 10 width n)
  rw [hcons] at hdigits ⊢
  have hc := isBlank_of_isDigit (hdigits c List.mem_cons_self)
  exact Text.trimStart_of_not_blank (by simpa using hc)

theorem isBlank_minus : Text.isBlank '-' = false := by decide

theorem isBlank_plus : Text.isBlank '+' = false := by decide

theorem field_twoDigits {least greatest n : Nat} (hn : least ≤ n ∧ n ≤ greatest)
    (hgreatest : greatest < 100) (hrest : ∀ c ∈ rest.head?, c.isDigit = false) :
    field least greatest (twoDigits n ++ rest) = .ok (n, rest) := by
  have hlength : (Numeral.writePadded 10 2 n).length = 2 :=
    Numeral.length_writePadded (by decide) (Nat.lt_of_le_of_lt hn.2 hgreatest)
  have hlimit : n ≤ fieldLimit :=
    Nat.le_trans hn.2 (Nat.le_trans (Nat.le_of_lt hgreatest) (by decide))
  have hnumber := number_writePadded hlimit (Nat.le_of_eq hlength) hrest
  rw [field, twoDigits, trimStart_writePadded, hnumber]
  exact if_pos hn

theorem literal_cons {c : Char} (hc : Text.isBlank c = false) :
    literal c (c :: rest) = .ok rest := by
  rw [literal, Text.trimStart_of_not_blank (by simpa using hc)]
  exact if_pos rfl

/-! ### Years -/

theorem yearInBounds_of_year {y : Int} (hmin : minYear ≤ y) (hmax : y ≤ maxYear) :
    yearInBounds y = .ok y := by
  unfold minYear at hmin
  unfold maxYear at hmax
  rw [yearInBounds, if_pos (by omega)]

theorem natAbs_year_le {y : Int} (hmin : minYear ≤ y) (hmax : y ≤ maxYear) :
    y.natAbs ≤ fieldLimit := by
  unfold minYear at hmin
  unfold maxYear at hmax
  unfold fieldLimit
  omega

theorem year_minus {y : Int} {n : Nat} (hy : -(n : Int) = y) (hbounds : yearInBounds y = .ok y)
    (hdigits : number cs.length cs = .ok (n, rest)) : year ('-' :: cs) = .ok (y, rest) := by
  have hhead : Text.trimStart ('-' :: cs) = '-' :: cs :=
    Text.trimStart_of_not_blank (by simpa using isBlank_minus)
  subst hy
  rw [year, hhead]
  exact Except.bind_eq_ok_iff.2
    ⟨(n, rest), hdigits, Except.bind_eq_ok_iff.2 ⟨-(n : Int), hbounds, rfl⟩⟩

theorem year_plus {y : Int} {n : Nat} (hy : (n : Int) = y) (hbounds : yearInBounds y = .ok y)
    (hdigits : number cs.length cs = .ok (n, rest)) : year ('+' :: cs) = .ok (y, rest) := by
  have hhead : Text.trimStart ('+' :: cs) = '+' :: cs :=
    Text.trimStart_of_not_blank (by simpa using isBlank_plus)
  subst hy
  rw [year, hhead]
  exact Except.bind_eq_ok_iff.2
    ⟨(n, rest), hdigits, Except.bind_eq_ok_iff.2 ⟨(n : Int), hbounds, rfl⟩⟩

theorem year_of_isDigit {y : Int} {n : Nat} (hy : (n : Int) = y) (hbounds : yearInBounds y = .ok y)
    {c : Char} (hc : c.isDigit = true) (hdigits : number 4 (c :: cs) = .ok (n, rest)) :
    year (c :: cs) = .ok (y, rest) := by
  have hhead : Text.trimStart (c :: cs) = c :: cs :=
    Text.trimStart_of_not_blank (by simpa using isBlank_of_isDigit hc)
  have hminus : c ≠ '-' := by
    rintro rfl
    simp at hc
  have hplus : c ≠ '+' := by
    rintro rfl
    simp at hc
  subst hy
  rw [year, hhead]
  split
  · next heq => exact absurd (List.cons.inj heq).1 hminus
  · next heq => exact absurd (List.cons.inj heq).1 hplus
  · exact Except.bind_eq_ok_iff.2
      ⟨(n, rest), hdigits, Except.bind_eq_ok_iff.2 ⟨(n : Int), hbounds, rfl⟩⟩

theorem year_yearText {y : Int} (hmin : minYear ≤ y) (hmax : y ≤ maxYear)
    (hrest : ∀ c ∈ rest.head?, c.isDigit = false) :
    year (yearText y ++ rest) = .ok (y, rest) := by
  have hbounds := yearInBounds_of_year hmin hmax
  have hdigits : number (Numeral.writePadded 10 4 y.natAbs ++ rest).length
      (Numeral.writePadded 10 4 y.natAbs ++ rest) = .ok (y.natAbs, rest) :=
    number_writePadded (natAbs_year_le hmin hmax) (by simp) hrest
  unfold yearText
  by_cases hneg : y < 0
  · rw [if_pos hneg]
    exact year_minus (by omega) hbounds hdigits
  · rw [if_neg hneg]
    by_cases hlong : 9999 < y
    · rw [if_pos hlong]
      exact year_plus (by omega) hbounds hdigits
    · have hshort : y.natAbs < 10000 := by omega
      have hlength : (Numeral.writePadded 10 4 y.natAbs).length = 4 :=
        Numeral.length_writePadded (by decide) hshort
      have hdigits := number_writePadded (natAbs_year_le hmin hmax) (Nat.le_of_eq hlength) hrest
      have hcs : ∀ c ∈ Numeral.writePadded 10 4 y.natAbs, c.isDigit = true :=
        Numeral.isDigit_of_mem_writePadded
      obtain ⟨c, cs, hcons⟩ :=
        List.exists_cons_of_ne_nil (Numeral.writePadded_ne_nil 10 4 y.natAbs)
      rw [hcons] at hdigits hcs
      rw [if_neg hlong, hcons]
      exact year_of_isDigit (by omega) hbounds (hcs c List.mem_cons_self) hdigits

/-! ### Fractions -/

/-- Digits behind the point count as if zeros followed up to the ninth. -/
theorem fraction_of_readFrom? {v : Nat} (hread : Numeral.readFrom? 10 0 cs = some v)
    (hne : cs ≠ []) (hlength : cs.length ≤ 9) (hv : v ≤ fieldLimit)
    (hrest : ∀ c ∈ rest.head?, c.isDigit = false) :
    fraction ('.' :: (cs ++ rest)) = .ok (v * Nat.pow 10 (9 - cs.length), rest) := by
  have hdigits := number_of_readFrom? hread hne hlength hv hrest
  have htaken : (cs ++ rest).length - rest.length = cs.length := by simp
  have hbehind : rest.dropWhile Char.isDigit = rest := by
    cases rest with
    | nil => rfl
    | cons c tail => simp [hrest c rfl]
  refine Except.bind_eq_ok_iff.2 ⟨(v, rest), hdigits, ?_⟩
  simp only [htaken, hbehind]
  rfl

/-- The leading digits of a fraction are enough if only zeros follow them. -/
theorem fraction_leading {nano : Nat} (width : Nat) (hpos : 0 < width) (hwidth : width ≤ 9)
    (hnano : nano < nanosPerSecond) (hzeros : nano % Nat.pow 10 (9 - width) = 0)
    (hrest : ∀ c ∈ rest.head?, c.isDigit = false) :
    fraction ('.' :: (Numeral.writePadded 10 width (nano / Nat.pow 10 (9 - width)) ++ rest)) =
      .ok (nano, rest) := by
  have hpow : Nat.pow 10 (9 - width) * Nat.pow 10 width = nanosPerSecond :=
    Nat.pow_sub_mul_pow 10 hwidth
  have hlength : (Numeral.writePadded 10 width (nano / Nat.pow 10 (9 - width))).length = width :=
    Numeral.length_writePadded hpos (Nat.div_lt_of_lt_mul (hpow ▸ hnano))
  have hlimit : nano / Nat.pow 10 (9 - width) ≤ fieldLimit := by
    have hnine : nanosPerSecond ≤ fieldLimit := by decide
    have hdiv := Nat.div_le_self nano (Nat.pow 10 (9 - width))
    omega
  have hfraction := fraction_of_readFrom?
    (Numeral.readFrom?_writePadded (by decide) (by decide) width (nano / Nat.pow 10 (9 - width)))
    (Numeral.writePadded_ne_nil 10 width _) (by omega) hlimit hrest
  rwa [hlength, Nat.div_mul_cancel (Nat.dvd_of_mod_eq_zero hzeros)] at hfraction

theorem fraction_groupedFraction {nano : Nat} (hnano : nano < nanosPerSecond) :
    fraction (groupedFraction nano ++ ['Z']) = .ok (nano, ['Z']) := by
  have hrest : ∀ c ∈ ['Z'].head?, c.isDigit = false := by simp
  unfold groupedFraction
  split
  · next hzero => rw [hzero]; rfl
  · split
    · next hthree => exact fraction_leading 3 (by decide) (by decide) hnano hthree hrest
    · split
      · next hsix => exact fraction_leading 6 (by decide) (by decide) hnano hsix hrest
      · have hnine := fraction_leading 9 (by decide) (by decide) hnano (Nat.mod_one nano)
          hrest
        simpa using hnine

/-! ### The whole text -/

theorem isValid_date (t : Instant) :
    t.date.isValid = true ∧ minYear ≤ t.date.year ∧ t.date.year ≤ maxYear := by
  have hyears := Date.year_ofDays_bounds (t.seconds / secondsPerDay)
    (Int.ediv_le_ediv (by decide) t.seconds_ge) (Int.ediv_le_ediv (by decide) t.seconds_le)
  exact ⟨Date.isValid_ofDays _, hyears⟩

theorem secondOfDay_lt (t : Instant) : t.secondOfDay < 86400 := by
  unfold secondOfDay secondsPerDay
  omega

theorem second_le (t : Instant) : t.second ≤ 60 := by
  have hnanos := t.nanos_lt
  unfold second nanosPerSecond at *
  omega

/-- In its place, a leap second goes on from a second 59 and is the only second 60. -/
theorem second_cases (ht : t.InPlace) :
    (nanosPerSecond ≤ t.nanos ∧ t.second = 60 ∧ t.secondOfDay % 60 = 59) ∨
      (t.nanos < nanosPerSecond ∧ t.second = t.secondOfDay % 60 ∧ t.second < 60) := by
  have hnanos := t.nanos_lt
  by_cases hleap : nanosPerSecond ≤ t.nanos
  · have hminute := ht hleap
    have hsecond : t.secondOfDay % 60 = 59 := by
      unfold secondOfDay secondsPerDay
      omega
    have hquotient : t.nanos / nanosPerSecond = 1 := by
      unfold nanosPerSecond at *
      omega
    exact .inl ⟨hleap, by rw [second, hsecond, hquotient], hsecond⟩
  · have hlt := Nat.lt_of_not_le hleap
    have hsecond : t.second = t.secondOfDay % 60 := by
      rw [second, Nat.div_eq_of_lt hlt, Nat.add_zero]
    exact .inr ⟨hlt, hsecond, by omega⟩

theorem second_before_leap (ht : t.InPlace) :
    (if t.second = 60 then 59 else t.second) = t.secondOfDay % 60 := by
  rcases second_cases ht with ⟨-, hsecond, hlast⟩ | ⟨-, hsecond, hlt⟩
  · rw [if_pos hsecond, hlast]
  · rw [if_neg (Nat.ne_of_lt hlt), hsecond]

theorem nanos_of_second (ht : t.InPlace) :
    (if t.second = 60 then nanosPerSecond + t.nano else t.nano) = t.nanos := by
  have hnanos := t.nanos_lt
  rcases second_cases ht with ⟨hleap, hsecond, -⟩ | ⟨hleap, -, hlt⟩
  · have hnano : t.nano = t.nanos - nanosPerSecond := by
      rw [nano, Nat.mod_eq_sub_mod hleap, Nat.mod_eq_of_lt (by omega)]
    rw [if_pos hsecond, hnano, Nat.add_sub_cancel' hleap]
  · rw [if_neg (Nat.ne_of_lt hlt), nano, Nat.mod_eq_of_lt hleap]

theorem seconds_of_date (t : Instant) :
    t.date.toDays * secondsPerDay + t.hour * 3600 + t.minute * 60 + (t.secondOfDay % 60 : Nat) =
      t.seconds := by
  have hdays : t.date.toDays = t.seconds / secondsPerDay := Date.toDays_ofDays _
  rw [hdays]
  unfold hour minute secondOfDay secondsPerDay
  omega

theorem of?_seconds (ht : t.InPlace) : of? t.seconds t.nanos = some t :=
  dif_pos ⟨t.seconds_ge, t.seconds_le, t.nanos_lt, ht⟩

theorem ofFields_of_inPlace (ht : t.InPlace) :
    ofFields ⟨t.date, t.hour, t.minute, t.second, t.nano, 0⟩ = .ok t := by
  have hdate := isValid_date t
  have hoffset : ¬ (secondsPerDay ≤ 0 ∨ (0 : Int) ≤ -secondsPerDay) := by decide
  simp only [ofFields, if_neg (not_not_intro hdate), if_neg hoffset, second_before_leap ht,
    nanos_of_second ht, seconds_of_date, Int.sub_zero, of?_seconds ht]

/-- Calendar and clock tell the instant that is shown. -/
theorem ofFields_clock (t : Instant) :
    ofFields ⟨t.date, t.hour, t.minute, t.second, t.nano, 0⟩ = .ok t.carried := by
  have hshown := ofFields_of_inPlace (inPlace_carried t)
  obtain ⟨hdate, hhour, hminute, hsecond, hnano⟩ := clock_carried t
  rwa [hdate, hhour, hminute, hsecond, hnano] at hshown

/-- The text up to the second is read to its end whatever the form of the fraction. -/
theorem fields_secondsText (t : Instant) (hcs : ∀ c ∈ (cs ++ ['Z']).head?, c.isDigit = false)
    (hfraction : fraction (cs ++ ['Z']) = .ok (t.nano, ['Z'])) :
    fields (t.secondsText ++ cs ++ ['Z']) =
      .ok (⟨t.date, t.hour, t.minute, t.second, t.nano, 0⟩, []) := by
  obtain ⟨hvalid, hmin, hmax⟩ := isValid_date t
  obtain ⟨hmonth, hday⟩ := Date.bounds_of_isValid hvalid
  have hsecondOfDay := secondOfDay_lt t
  have hhour : 0 ≤ t.hour ∧ t.hour ≤ 23 := by unfold hour; omega
  have hminute : 0 ≤ t.minute ∧ t.minute ≤ 59 := by unfold minute; omega
  have hsecond : 0 ≤ t.second ∧ t.second ≤ 60 := ⟨Nat.zero_le _, second_le t⟩
  unfold fields secondsText
  simp only [List.append_assoc, List.cons_append]
  -- Part by part, each `by simp` says that the character behind the part is no digit.
  refine Except.bind_eq_ok_iff.2 ⟨_, year_yearText hmin hmax (by simp), ?_⟩
  refine Except.bind_eq_ok_iff.2 ⟨_, literal_cons isBlank_minus, ?_⟩
  refine Except.bind_eq_ok_iff.2 ⟨_, field_twoDigits hmonth (by decide) (by simp), ?_⟩
  refine Except.bind_eq_ok_iff.2 ⟨_, literal_cons isBlank_minus, ?_⟩
  refine Except.bind_eq_ok_iff.2 ⟨_, field_twoDigits hday (by decide) (by simp), ?_⟩
  refine Except.bind_eq_ok_iff.2 ⟨_, rfl, ?_⟩
  refine Except.bind_eq_ok_iff.2 ⟨_, field_twoDigits hhour (by decide) (by simp), ?_⟩
  refine Except.bind_eq_ok_iff.2 ⟨_, literal_cons (by decide), ?_⟩
  refine Except.bind_eq_ok_iff.2 ⟨_, field_twoDigits hminute (by decide) (by simp), ?_⟩
  refine Except.bind_eq_ok_iff.2 ⟨_, literal_cons (by decide), ?_⟩
  refine Except.bind_eq_ok_iff.2 ⟨_, field_twoDigits hsecond (by decide) hcs, ?_⟩
  refine Except.bind_eq_ok_iff.2 ⟨_, hfraction, ?_⟩
  rfl

theorem parse_secondsText (t : Instant) (hcs : ∀ c ∈ (cs ++ ['Z']).head?, c.isDigit = false)
    (hfraction : fraction (cs ++ ['Z']) = .ok (t.nano, ['Z'])) :
    parse (String.ofList (t.secondsText ++ cs ++ ['Z'])) = .ok t.carried := by
  unfold parse
  rw [String.toList_ofList, fields_secondsText t hcs hfraction]
  exact ofFields_clock t

/-- The text of an instant in a document is read as the instant that its clock shows. -/
theorem parse_documentText (t : Instant) : parse t.documentText = .ok t.carried := by
  have hnano : t.nano < nanosPerSecond := Nat.mod_lt _ (by decide)
  refine parse_secondsText t ?_ (fraction_groupedFraction hnano)
  unfold groupedFraction
  split
  · simp
  · split
    · simp
    · split <;> simp

end EventRouter.Instant
