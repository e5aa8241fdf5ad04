import EventRouter.Text.Numeral

/-! Numerals in longer texts: what is written for a number is digits alone and has a known width,
and in decimal it does not begin with a zero unless it is one. -/

namespace EventRouter

namespace Numeral

theorem digitIn?_eq_some {c : Char} {d : Nat} (h : digitIn? 10 c = some d) :
    c.isDigit = true ∧ d = c.toNat - 48 := by
  obtain ⟨hvalue, hlt⟩ := Option.filter_eq_some_iff.1 h
  have hlt : d < 10 := of_decide_eq_true hlt
  unfold digitValue? at hvalue
  split at hvalue
  · next hc =>
    exact ⟨by simpa [Char.isDigit, Char.le_def] using hc, (Option.some.inj hvalue).symm⟩
  · split at hvalue
    · next hc =>
      have hge : 97 ≤ c.toNat := by simpa [Char.le_def, UInt32.le_iff_toNat_le] using hc.1
      have := Option.some.inj hvalue
      omega
    · split at hvalue
      · next hc =>
        have hge : 65 ≤ c.toNat := by simpa [Char.le_def, UInt32.le_iff_toNat_le] using hc.1
        have := Option.some.inj hvalue
        omega
      · contradiction

theorem isDigit_of_readFrom? {cs : List Char} {n v : Nat} (h : readFrom? 10 n cs = some v) :
    ∀ c ∈ cs, c.isDigit = true := by
  induction cs generalizing n with
  | nil => simp
  | cons c rest ih =>
    obtain ⟨d, hd, h⟩ := Option.bind_eq_some_iff.1 h
    exact List.forall_mem_cons.2 ⟨(digitIn?_eq_some hd).1, ih h⟩

theorem le_of_readFrom? {cs : List Char} {n v : Nat} (h : readFrom? 10 n cs = some v) : n ≤ v := by
  induction cs generalizing n with
  | nil => exact Nat.le_of_eq (Option.some.inj h)
  | cons c rest ih =>
    obtain ⟨d, -, h⟩ := Option.bind_eq_some_iff.1 h
    have := ih h
    omega

theorem isDigit_of_mem_write {n : Nat} : ∀ c ∈ write 10 n, c.isDigit = true :=
  isDigit_of_readFrom? (readFrom?_write (by decide) (by decide) n)

/-- The first character of a number with its sign. -/
theorem writeInt_eq_cons (n : Int) :
    ∃ c rest, writeInt n = c :: rest ∧ (c.isDigit = true ∨ c = '-') := by
  unfold writeInt
  split
  · exact ⟨'-', _, rfl, .inr rfl⟩
  · obtain ⟨c, rest, hwrite⟩ := List.exists_cons_of_ne_nil (write_ne_nil 10 n.natAbs)
    have hc : c.isDigit = true :=
      isDigit_of_mem_write (n := n.natAbs) c (hwrite ▸ List.mem_cons_self)
    exact ⟨c, rest, hwrite, .inl hc⟩

/-! ### Width -/

theorem length_write_le {base width n : Nat} (hwidth : 0 < width)
    (h : n < Nat.pow base width) : (write base n).length ≤ width := by
  induction width generalizing n with
  | zero => contradiction
  | succ width ih =>
    rw [write]
    split
    · exact hwidth
    · next hlarge =>
      have hpow : n < Nat.pow base width * base := h
      have hpos : 0 < width := by
        refine Nat.pos_of_ne_zero fun hzero => hlarge (.inl ?_)
        subst hzero
        simpa using hpow
      have := ih hpos (Nat.div_lt_of_lt_mul (Nat.mul_comm _ base ▸ hpow))
      simp only [List.length_append, List.length_singleton]
      omega

theorem length_writePadded {base width n : Nat} (hwidth : 0 < width)
    (h : n < Nat.pow base width) : (writePadded base width n).length = width := by
  have := length_write_le hwidth h
  simp only [writePadded, List.length_append, List.length_replicate]
  omega

theorem writePadded_ne_nil (base width n : Nat) : writePadded base width n ≠ [] := by
  simp [writePadded, write_ne_nil]

/-! ### Zeros in front -/

theorem digitIn?_zero {base : Nat} (h2 : 2 ≤ base) : digitIn? base '0' = some 0 := by
  have hvalue : digitValue? '0' = some 0 := rfl
  simp only [digitIn?, hvalue, Option.filter_some]
  exact if_pos (decide_eq_true (by omega))

theorem readFrom?_replicate_zero {base : Nat} (h2 : 2 ≤ base) (k : Nat) (cs : List Char) :
    readFrom? base 0 (List.replicate k '0' ++ cs) = readFrom? base 0 cs := by
  induction k with
  | zero => rfl
  | succ k ih =>
    rw [List.replicate_succ, List.cons_append, readFrom?, digitIn?_zero h2, Option.bind_some]
    exact ih

theorem readFrom?_writePadded {base : Nat} (h2 : 2 ≤ base) (h16 : base ≤ 16) (width n : Nat) :
    readFrom? base 0 (writePadded base width n) = some n := by
  rw [writePadded, readFrom?_replicate_zero h2, readFrom?_write h2 h16]

theorem isDigit_of_mem_writePadded {width n : Nat} :
    ∀ c ∈ writePadded 10 width n, c.isDigit = true :=
  isDigit_of_readFrom? (readFrom?_writePadded (by decide) (by decide) width n)

theorem write_zero : write 10 0 = ['0'] := by
  rw [write, if_pos (.inl (by decide))]
  rfl

/-- Only zero is written with a zero in front. -/
theorem write_head_zero {n : Nat} {rest : List Char} (h : write 10 n = '0' :: rest) : n = 0 := by
  induction n using Nat.strongRecOn generalizing rest with
  | _ n ih =>
    rw [write] at h
    split at h
    · next hsmall =>
      have hdigit : ∀ m : Fin 10, digit m.val = '0' → m.val = 0 := by decide
      exact hdigit ⟨n, by omega⟩ (List.cons.inj h).1
    · next hlarge =>
      obtain ⟨c, cs, hcs⟩ := List.exists_cons_of_ne_nil (write_ne_nil 10 (n / 10))
      rw [hcs, List.cons_append] at h
      obtain ⟨rfl, -⟩ := List.cons.inj h
      have := ih (n / 10) (by omega) hcs
      omega

/-! ### Zeros behind -/

/-- Every zero behind a number multiplies it by the base. -/
theorem readFrom?_zeros_behind {base : Nat} (h2 : 2 ≤ base) (n k : Nat) :
    readFrom? base n (List.replicate k '0') = some (n * Nat.pow base k) := by
  induction k generalizing n with
  | zero => simp [readFrom?]
  | succ k ih =>
    have hpow : (base * n + 0) * Nat.pow base k = n * Nat.pow base (k + 1) := by
      simp only [Nat.add_zero, Nat.pow_eq, Nat.pow_succ]
      ac_rfl
    rw [List.replicate_succ, readFrom?, digitIn?_zero h2, Option.bind_some, ih, hpow]

/-! ### Hexadecimal in lower case -/

/-- The digits of base sixteen, in lower case. -/
def hexDigits : List Char :=
  ['0', '1', '2', '3', '4', '5', '6', '7', '8', '9', 'a', 'b', 'c', 'd', 'e', 'f']

/-- A text of a number: hexadecimal digits of a fixed width, in lower case. -/
structure LowerHex (width n : Nat) (cs : List Char) : Prop where
  length_eq : cs.length = width
  mem_hexDigits : ∀ c ∈ cs, c ∈ hexDigits
  value : read? 16 cs = some n

theorem digit_mem_hexDigits {n : Nat} (h : n < 16) : digit n ∈ hexDigits := by
  have : ∀ m : Fin 16, digit m.val ∈ hexDigits := by decide
  exact this ⟨n, h⟩

theorem mem_hexDigits_of_mem_write {n : Nat} : ∀ c ∈ write 16 n, c ∈ hexDigits := by
  induction n using Nat.strongRecOn with
  | _ n ih =>
    rw [write]
    split
    · next hsmall => exact List.forall_mem_singleton.2 (digit_mem_hexDigits (by omega))
    · next hlarge =>
      have hlast : n % 16 < 16 := Nat.mod_lt n (by decide)
      exact List.forall_mem_append.2 ⟨ih (n / 16) (Nat.div_lt_self (by omega) (by decide)),
        List.forall_mem_singleton.2 (digit_mem_hexDigits hlast)⟩

theorem lowerHex_writePadded {width n : Nat} (hwidth : 0 < width) (h : n < Nat.pow 16 width) :
    LowerHex width n (writePadded 16 width n) where
  length_eq := length_writePadded hwidth h
  mem_hexDigits := by
    have hzero : '0' ∈ hexDigits := by decide
    refine List.forall_mem_append.2 ⟨fun c hc => ?_, mem_hexDigits_of_mem_write⟩
    rwa [List.eq_of_mem_replicate hc]
  value := by
    have hread := readFrom?_writePadded (by decide : 2 ≤ 16) (by decide) width n
    rw [read?, if_neg (by simpa using writePadded_ne_nil 16 width n), hread]

end Numeral

end EventRouter
