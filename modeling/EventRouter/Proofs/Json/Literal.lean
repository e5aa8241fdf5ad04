import EventRouter.Json.Printer
import EventRouter.Json.Literal
import EventRouter.Proofs.Text.Numeral

/-! Integers come back from the literals that are written for them, as long as no character follows
that would go on with the number. -/

namespace EventRouter.NumberLiteral

/-- Whether a character behind a number would belong to it. -/
def continues (c : Char) : Bool := c.isDigit || c = '.' || c = 'e' || c = 'E'

variable {cs rest : List Char}

theorem digits_of_isDigit (hcs : ∀ c ∈ cs, c.isDigit = true)
    (hrest : ∀ c ∈ rest.head?, c.isDigit = false) : digits (cs ++ rest) = (cs, rest) := by
  rw [digits, List.takeWhile_append_of_pos hcs, List.dropWhile_append_of_pos hcs]
  cases rest with
  | nil => simp
  | cons c tail =>
    have hc : c.isDigit = false := hrest c rfl
    simp [hc]

/-! ### Scanning -/

theorem minus_of_isDigit {c : Char} (hc : c.isDigit = true) :
    minus (c :: cs) = (false, c :: cs) := by
  unfold minus
  split
  · next heq =>
    obtain ⟨rfl, -⟩ := List.cons.inj heq
    contradiction
  · rfl

theorem minus_writeInt (n : Int) :
    minus (Numeral.writeInt n ++ rest) =
      (decide (n < 0), Numeral.write 10 n.natAbs ++ rest) := by
  unfold Numeral.writeInt
  split
  · next hneg => simp [minus, hneg]
  · next hpos =>
    obtain ⟨c, tail, hwrite⟩ := List.exists_cons_of_ne_nil (Numeral.write_ne_nil 10 n.natAbs)
    have hc : c.isDigit = true :=
      Numeral.isDigit_of_mem_write (n := n.natAbs) c (hwrite ▸ List.mem_cons_self)
    rw [hwrite, List.cons_append, minus_of_isDigit hc, decide_eq_false hpos]

theorem scanWhole?_write (n : Nat) (hrest : ∀ c ∈ rest.head?, c.isDigit = false) :
    scanWhole? (Numeral.write 10 n ++ rest) = some (Numeral.write 10 n, rest) := by
  unfold scanWhole?
  rw [digits_of_isDigit Numeral.isDigit_of_mem_write hrest]
  split
  · next heq => exact absurd (Prod.mk.inj heq).1 (Numeral.write_ne_nil 10 n)
  · next heq =>
    have hwrite := (Prod.mk.inj heq).1
    obtain rfl := Numeral.write_head_zero hwrite
    simp [Numeral.write_zero] at hwrite
  · next heq => exact congrArg some heq.symm

theorem scanFraction?_of_ne (hrest : ∀ c ∈ rest.head?, c ≠ '.') :
    scanFraction? rest = some ([], rest) := by
  unfold scanFraction?
  split
  · exact absurd rfl (hrest '.' rfl)
  · rfl

theorem scanExponent?_of_ne (hrest : ∀ c ∈ rest.head?, c ≠ 'e' ∧ c ≠ 'E') :
    scanExponent? rest = some (none, rest) := by
  cases rest with
  | nil => rfl
  | cons c tail =>
    obtain ⟨he, hE⟩ := hrest c rfl
    rw [scanExponent?, if_neg (by simp [he, hE])]

theorem scan?_writeInt (n : Int) (hrest : ∀ c ∈ rest.head?, continues c = false) :
    scan? (Numeral.writeInt n ++ rest) =
      some (⟨decide (n < 0), Numeral.write 10 n.natAbs, [], none⟩, rest) := by
  have hparts : ∀ c ∈ rest.head?, ((c.isDigit = false ∧ c ≠ '.') ∧ c ≠ 'e') ∧ c ≠ 'E' :=
    fun c hc => by simpa [continues] using hrest c hc
  have hwhole := scanWhole?_write n.natAbs fun c hc => (hparts c hc).1.1.1
  have hfraction := scanFraction?_of_ne fun c hc => (hparts c hc).1.1.2
  have hexponent := scanExponent?_of_ne fun c hc => ⟨(hparts c hc).1.2, (hparts c hc).2⟩
  simp only [scan?, minus_writeInt, hwhole, hfraction, hexponent, Option.bind_eq_bind,
    Option.bind_some, Option.pure_def]

/-! ### The value -/

theorem significand_of_readFrom? {m v : Nat} (h : Numeral.readFrom? 10 m cs = some v)
    (hv : v < 18446744073709551616) : significand m cs = (v, 0) := by
  induction cs generalizing m with
  | nil => rw [Option.some.inj h, significand]
  | cons c rest ih =>
    obtain ⟨d, hd, h⟩ := Option.bind_eq_some_iff.1 h
    have hle := Numeral.le_of_readFrom? h
    obtain ⟨-, rfl⟩ := Numeral.digitIn?_eq_some hd
    have hfits : 10 * m + digitValue c < 18446744073709551616 := Nat.lt_of_le_of_lt hle hv
    simp only [significand, if_pos hfits]
    exact ih h

theorem value?_writeInt (n : Integer) :
    value? ⟨decide (n.val < 0), Numeral.write 10 n.val.natAbs, [], none⟩ = some (.int n) := by
  have hleast := n.least
  have hgreatest := n.greatest
  have hsignificand : significand 0 (Numeral.write 10 n.val.natAbs) = (n.val.natAbs, 0) :=
    significand_of_readFrom? (Numeral.readFrom?_write (by decide) (by decide) _) (by omega)
  have hsign : ¬ (decide (n.val < 0) = true ∧ n.val.natAbs = 0) := by
    simp only [decide_eq_true_eq]
    omega
  have hval : (if decide (n.val < 0) = true then -(n.val.natAbs : Int) else n.val.natAbs) =
      n.val := by
    simp only [decide_eq_true_eq]
    split <;> omega
  have hinteger :
      integer? ⟨decide (n.val < 0), Numeral.write 10 n.val.natAbs, [], none⟩ = some n := by
    unfold integer?
    dsimp only
    rw [if_pos ⟨rfl, rfl⟩, hsignificand]
    dsimp only
    rw [if_pos ⟨rfl, hsign⟩, hval]
    exact dif_pos ⟨hleast, hgreatest⟩
  rw [value?, hinteger]

end EventRouter.NumberLiteral
