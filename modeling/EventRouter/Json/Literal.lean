import EventRouter.Json.Basic
import EventRouter.Text.Numeral

/-! Numbers as JSON texts write them, and the values they stand for.

Digits go into a significand of 64 bits while they fit into it, and what is left over only counts
towards the power of ten. A number with neither a fraction nor an exponent is an integer if it fits;
any other number is a double: the rounded significand, multiplied or divided by a rounded power of
ten. This takes up to three roundings, so the result need not be the double nearest to the text. -/

namespace EventRouter

/-- A written number: its sign, the digits before the point and after it, and its exponent. -/
structure NumberLiteral where
  negative : Bool
  whole : List Char
  fraction : List Char
  exponent : Option (Bool × List Char)
deriving DecidableEq, Repr

namespace NumberLiteral

/-- The leading digits of a text, and the rest. -/
def digits (cs : List Char) : List Char × List Char :=
  (cs.takeWhile Char.isDigit, cs.dropWhile Char.isDigit)

/-- Reads a point and the digits after it, at least one; no point means no digits. -/
def scanFraction? : List Char → Option (List Char × List Char)
  | '.' :: rest =>
    match digits rest with
    | ([], _) => none
    | (ds, rest) => some (ds, rest)
  | cs => some ([], cs)

/-- The sign in front of an exponent, negative or not, and the rest. -/
def exponentSign : List Char → Bool × List Char
  | '-' :: rest => (true, rest)
  | '+' :: rest => (false, rest)
  | cs => (false, cs)

/-- Reads an exponent, which has at least one digit; no mark means no exponent. -/
def scanExponent? : List Char → Option (Option (Bool × List Char) × List Char)
  | c :: rest =>
    if c = 'e' ∨ c = 'E' then
      let (negative, rest) := exponentSign rest
      match digits rest with
      | ([], _) => none
      | (ds, rest) => some (some (negative, ds), rest)
    else some (none, c :: rest)
  | [] => some (none, [])

/-- Reads the digits before the point: a single zero, or digits that do not begin with one. -/
def scanWhole? (cs : List Char) : Option (List Char × List Char) :=
  match digits cs with
  | ([], _) => none
  | ('0' :: _ :: _, _) => none
  | (ds, rest) => some (ds, rest)

/-- The minus in front of a number, if there is one, and the rest. -/
def minus : List Char → Bool × List Char
  | '-' :: rest => (true, rest)
  | cs => (false, cs)

/-- Reads a number at the front of a text. -/
def scan? (cs : List Char) : Option (NumberLiteral × List Char) := do
  let (whole, rest) ← scanWhole? (minus cs).2
  let (fraction, rest) ← scanFraction? rest
  let (exponent, rest) ← scanExponent? rest
  return (⟨(minus cs).1, whole, fraction, exponent⟩, rest)

/-! ### Reading takes characters away -/

theorem digits_append (cs : List Char) : (digits cs).1 ++ (digits cs).2 = cs := by
  simp [digits]

theorem length_digits (cs : List Char) :
    (digits cs).1.length + (digits cs).2.length = cs.length := by
  rw [← List.length_append, digits_append]

theorem length_exponentSign (cs : List Char) : (exponentSign cs).2.length ≤ cs.length := by
  unfold exponentSign
  split <;> simp

theorem length_of_scanFraction? {cs ds rest : List Char} (h : scanFraction? cs = some (ds, rest)) :
    rest.length ≤ cs.length := by
  unfold scanFraction? at h
  split at h
  · next tail =>
    have := length_digits tail
    split at h
    · simp at h
    · next heq => simp_all; omega
  · simp_all

theorem length_of_scanExponent? {cs rest : List Char} {e : Option (Bool × List Char)}
    (h : scanExponent? cs = some (e, rest)) : rest.length ≤ cs.length := by
  cases cs with
  | nil => simp_all [scanExponent?]
  | cons c tail =>
    simp only [scanExponent?] at h
    split at h
    · have := length_exponentSign tail
      have := length_digits (exponentSign tail).2
      split at h
      · simp at h
      · next heq => simp_all; omega
    · simp_all

theorem length_of_scanWhole? {cs ds rest : List Char} (h : scanWhole? cs = some (ds, rest)) :
    rest.length < cs.length := by
  unfold scanWhole? at h
  have hlen := length_digits cs
  split at h
  · simp at h
  · simp at h
  · next ds' rest' hne _ heq =>
    obtain ⟨rfl, rfl⟩ : ds' = ds ∧ rest' = rest := by simpa using h
    have := List.length_pos_iff.2 hne
    rw [heq] at hlen
    simp only at hlen
    omega

theorem length_minus (cs : List Char) : (minus cs).2.length ≤ cs.length := by
  unfold minus
  split <;> simp

theorem length_of_scan? {cs rest : List Char} {l : NumberLiteral} (h : scan? cs = some (l, rest)) :
    rest.length < cs.length := by
  unfold scan? at h
  simp only [Option.bind_eq_bind, Option.bind_eq_some_iff, Prod.exists, Option.pure_def,
    Option.some.injEq, Prod.mk.injEq] at h
  obtain ⟨whole, r₁, h₁, fraction, r₂, h₂, exponent, r₃, h₃, -, rfl⟩ := h
  have := length_minus cs
  have := length_of_scanWhole? h₁
  have := length_of_scanFraction? h₂
  have := length_of_scanExponent? h₃
  omega

/-! ### The value of a number -/

/-- The value of a decimal digit. -/
def digitValue (c : Char) : Nat := c.toNat - '0'.toNat

/-- Reads digits into a significand of 64 bits until one no longer fits; gives the significand
and the number of digits left. -/
def significand (n : Nat) : List Char → Nat × Nat
  | [] => (n, 0)
  | c :: rest =>
    let m := 10 * n + digitValue c
    if m < 18446744073709551616 then significand m rest else (n, rest.length + 1)

/-- A significand divided by a power of ten, by at most the 308th at a time. -/
def scaleDown (x : Binary64) (power : Nat) : Option Binary64 :=
  if power ≤ 308 then do x.div? (← Binary64.ofNat? (Nat.pow 10 power))
  else if x.isZero then some x
  else do scaleDown (← x.div? (← Binary64.ofNat? (Nat.pow 10 308))) (power - 308)
termination_by power

/-- A significand times a power of ten as a double; none if it is too large. -/
def scaled? (significand : Nat) (power : Int) : Option Binary64 := do
  let x ← Binary64.ofNat? significand
  if power < 0 then scaleDown x power.natAbs
  else if power ≤ 308 then x.mul? (← Binary64.ofNat? (Nat.pow 10 power.toNat))
  else if x.isZero then some x
  else none

/-- The value of an exponent as written; one of more than 31 bits is cut to a power that is out of
any range. -/
def exponentValue : Option (Bool × List Char) → Int
  | none => 0
  | some (negative, ds) =>
    let n := ds.foldl (fun n c => min (10 * n + digitValue c) 2147483648) 0
    if negative then -n else n

/-- The double that a number stands for, without its sign. -/
def magnitude? (l : NumberLiteral) : Option Binary64 :=
  let (m, dropped) := significand 0 l.whole
  let (m, left) := significand m l.fraction
  let taken := l.fraction.length - left
  scaled? m ((dropped : Int) - taken + exponentValue l.exponent)

/-- The integer that a number stands for, if it is written as one and fits. Zero with a sign is no
integer. -/
def integer? (l : NumberLiteral) : Option Integer :=
  if l.fraction.isEmpty ∧ l.exponent.isNone then
    let (m, dropped) := significand 0 l.whole
    if dropped = 0 ∧ ¬ (l.negative ∧ m = 0) then
      Integer.ofInt? (if l.negative then -(m : Int) else m)
    else none
  else none

/-- The value of a number; none if it is too large for a double. -/
def value? (l : NumberLiteral) : Option Number :=
  match l.integer? with
  | some n => some (.int n)
  | none => l.magnitude?.map fun x => .float { x with negative := l.negative }

end NumberLiteral

end EventRouter
