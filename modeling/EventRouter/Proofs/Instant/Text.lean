import EventRouter.Proofs.Instant.Parser
import Mathlib.Data.List.DropRight

/-! The text of an instant as an attribute. It shows no zeros at the end of its fraction, and it is
read as the instant that the clock shows all the same, so instants have one text only if the clock
shows them alike. -/

namespace EventRouter.Instant

/-! ### Zeros at the end -/

theorem exists_eq_dropZeros_append (cs : List Char) :
    ∃ k, cs = dropZeros cs ++ List.replicate k '0' := by
  have hzeros : ∀ c ∈ cs.rtakeWhile (· = '0'), c = '0' := by
    intro c hc
    simpa using List.mem_rtakeWhile_imp hc
  refine ⟨(cs.rtakeWhile (· = '0')).length, ?_⟩
  rw [← List.eq_replicate_of_mem hzeros]
  exact (List.rdropWhile_append_rtakeWhile ..).symm

/-- A number lacks a power of ten when the zeros at its end are left out. -/
theorem readFrom?_dropZeros {cs : List Char} {n : Nat}
    (hread : Numeral.readFrom? 10 0 cs = some n) :
    ∃ v k, Numeral.readFrom? 10 0 (dropZeros cs) = some v ∧ n = v * Nat.pow 10 k ∧
      cs.length = (dropZeros cs).length + k := by
  obtain ⟨k, hzeros⟩ := exists_eq_dropZeros_append cs
  have hlength : cs.length = (dropZeros cs).length + k := by
    rw [← List.length_replicate (n := k) (a := '0'), ← List.length_append, ← hzeros]
  rw [hzeros, Numeral.readFrom?_append] at hread
  obtain ⟨v, hv, hbehind⟩ := Option.bind_eq_some_iff.1 hread
  rw [Numeral.readFrom?_zeros_behind (by decide)] at hbehind
  exact ⟨v, k, hv, (Option.some.inj hbehind).symm, hlength⟩

theorem getLast?_dropZeros (cs : List Char) : (dropZeros cs).getLast? ≠ some '0' := by
  intro hlast
  have hhead := List.head?_dropWhile_not (fun c => decide (c = '0')) cs.reverse
  rw [dropZeros, List.getLast?_reverse] at hlast
  rw [hlast] at hhead
  exact absurd hhead (by decide)

/-! ### The fraction -/

/-- The digits of a fraction that an attribute shows: they tell it, and no zero is at their end. -/
structure Shown (nano : Nat) (digits : List Char) : Prop where
  ne_nil : digits ≠ []
  length_le : digits.length ≤ 9
  isDigit : ∀ c ∈ digits, c.isDigit = true
  last : digits.getLast? ≠ some '0'
  fraction : fraction ('.' :: (digits ++ ['Z'])) = .ok (nano, ['Z'])

theorem shown_dropZeros {nano : Nat} (hpos : nano ≠ 0) (hlt : nano < nanosPerSecond) :
    Shown nano (dropZeros (Numeral.writePadded 10 9 nano)) := by
  have hnine : (Numeral.writePadded 10 9 nano).length = 9 :=
    Numeral.length_writePadded (by decide) hlt
  have hread := Numeral.readFrom?_writePadded (by decide) (by decide : 10 ≤ 16) 9 nano
  have hlast := getLast?_dropZeros (Numeral.writePadded 10 9 nano)
  obtain ⟨v, k, hv, rfl, hlength⟩ := readFrom?_dropZeros hread
  generalize dropZeros (Numeral.writePadded 10 9 (v * Nat.pow 10 k)) = digits at *
  have hne : digits ≠ [] := by
    rintro rfl
    obtain rfl := Option.some.inj hv
    exact hpos (Nat.zero_mul _)
  have hk : 9 - digits.length = k := by omega
  have hlimit : v ≤ fieldLimit := by
    have hfits : nanosPerSecond ≤ fieldLimit := by decide
    have hle : v ≤ v * Nat.pow 10 k := Nat.le_mul_of_pos_right v (Nat.pow_pos (by decide))
    omega
  refine ⟨hne, by omega, Numeral.isDigit_of_readFrom? hv, hlast, ?_⟩
  rw [fraction_of_readFrom? hv hne (by omega) hlimit (by simp), hk]

theorem fraction_shortFraction {nano : Nat} (hnano : nano < nanosPerSecond) :
    fraction (shortFraction nano ++ ['Z']) = .ok (nano, ['Z']) := by
  unfold shortFraction
  split
  · next hzero => rw [hzero]; rfl
  · next hpos => exact (shown_dropZeros hpos hnano).fraction

/-! ### The whole text -/

/-- The text of an instant as an attribute is read as the instant that its clock shows. -/
theorem parse_text (t : Instant) : parse t.text = .ok t.carried := by
  have hnano : t.nano < nanosPerSecond := Nat.mod_lt _ (by decide)
  refine parse_secondsText t ?_ (fraction_shortFraction hnano)
  unfold shortFraction
  split <;> simp

theorem text_inj {t u : Instant} : t.text = u.text ↔ t.carried = u.carried := by
  constructor
  · intro htext
    have hparse := parse_text t
    rw [htext, parse_text u] at hparse
    exact (Except.ok.inj hparse).symm
  · intro hcarried
    rw [← text_carried t, hcarried, text_carried u]

theorem point_not_mem_secondsText (t : Instant) : '.' ∉ t.secondsText := by
  have hdigits : ∀ width n, '.' ∉ Numeral.writePadded 10 width n := by
    intro width n hmem
    exact absurd (Numeral.isDigit_of_mem_writePadded '.' hmem) (by decide)
  have hyear : '.' ∉ yearText t.date.year := by
    unfold yearText
    split
    · simp [hdigits]
    · split <;> simp [hdigits]
  simp [secondsText, twoDigits, hdigits, hyear]

end EventRouter.Instant
