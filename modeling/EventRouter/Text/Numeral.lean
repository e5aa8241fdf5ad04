/-! Numerals: the digits of a natural number in a base of at most sixteen, and the number that a
run of digits stands for. Reading undoes writing, with or without leading zeros. -/

namespace EventRouter.Numeral

/-- The digit for a value below sixteen, in lower case. -/
def digit (n : Nat) : Char := if n < 10 then Char.ofNat (48 + n) else Char.ofNat (87 + n)

/-- The value of a decimal or hexadecimal digit in either case. -/
def digitValue? (c : Char) : Option Nat :=
  if '0' ≤ c ∧ c ≤ '9' then some (c.toNat - 48)
  else if 'a' ≤ c ∧ c ≤ 'f' then some (c.toNat - 87)
  else if 'A' ≤ c ∧ c ≤ 'F' then some (c.toNat - 55)
  else none

/-- The value of a digit of the given base. -/
def digitIn? (base : Nat) (c : Char) : Option Nat := (digitValue? c).filter (· < base)

/-- The digits of a number, the most significant first and without leading zeros. -/
def write (base n : Nat) : List Char :=
  if n < base ∨ base < 2 then [digit n] else write base (n / base) ++ [digit (n % base)]
termination_by n
decreasing_by exact Nat.div_lt_self (by omega) (by omega)

/-- The digits of a number with zeros in front up to the given width. -/
def writePadded (base width n : Nat) : List Char :=
  List.replicate (width - (write base n).length) '0' ++ write base n

/-- The number reached from `n` by reading further digits behind it. -/
def readFrom? (base n : Nat) : List Char → Option Nat
  | [] => some n
  | c :: rest => (digitIn? base c).bind fun d => readFrom? base (base * n + d) rest

/-- The number that a run of digits stands for; at least one digit has to be there. -/
def read? (base : Nat) (cs : List Char) : Option Nat :=
  if cs.isEmpty then none else readFrom? base 0 cs

/-- A sign in front of the decimal digits of a number below zero. -/
def writeInt (n : Int) : List Char :=
  if n < 0 then '-' :: write 10 n.natAbs else write 10 n.natAbs

theorem digitValue?_digit {n : Nat} (h : n < 16) : digitValue? (digit n) = some n := by
  have : ∀ m : Fin 16, digitValue? (digit m.val) = some m.val := by decide
  exact this ⟨n, h⟩

theorem digitIn?_digit {base n : Nat} (hb : base ≤ 16) (h : n < base) :
    digitIn? base (digit n) = some n := by
  simp [digitIn?, digitValue?_digit (by omega : n < 16), h]

theorem readFrom?_append (base n : Nat) (xs ys : List Char) :
    readFrom? base n (xs ++ ys) = (readFrom? base n xs).bind fun m => readFrom? base m ys := by
  induction xs generalizing n with
  | nil => rfl
  | cons c rest ih =>
    simp only [List.cons_append, readFrom?]
    cases digitIn? base c <;> simp [ih]

theorem readFrom?_write {base : Nat} (h2 : 2 ≤ base) (h16 : base ≤ 16) (n : Nat) :
    readFrom? base 0 (write base n) = some n := by
  induction n using Nat.strongRecOn with
  | _ n ih =>
    rw [write]
    split
    · simp [readFrom?, digitIn?_digit h16 (by omega : n < base)]
    · rw [readFrom?_append, ih (n / base) (Nat.div_lt_self (by omega) (by omega))]
      simp [readFrom?, digitIn?_digit h16 (Nat.mod_lt n (by omega)), Nat.div_add_mod]

theorem write_ne_nil (base n : Nat) : write base n ≠ [] := by
  rw [write]; split <;> simp

end EventRouter.Numeral
