/-! Binary floating-point numbers of double precision, kept as exact binary fractions. Rounding goes
to the nearest number and, between two, to the even one; it is the only source of inexactness, so
every operation is an exact one followed by a rounding. -/

namespace EventRouter

/-- A finite double: the significand times a power of two, with a sign. The significand has 53 bits
or, at the least exponent, fewer. -/
structure Binary64 where
  negative : Bool
  significand : Nat
  exponent : Int
deriving DecidableEq, Repr, Inhabited

namespace Binary64

/-- The exponent of the smallest numbers. -/
def minExponent : Int := -1074

/-- The exponent of the largest numbers. -/
def maxExponent : Int := 971

/-- The first significand that needs more than 53 bits. -/
def limit : Nat := 9007199254740992

/-- Zero, with a sign. -/
def zero (negative : Bool) : Binary64 := ⟨negative, 0, minExponent⟩

/-- Whether the number is zero. -/
def isZero (x : Binary64) : Bool := x.significand = 0

/-- The fraction `num / den` in units of a power of two. -/
def inUnits (num den : Nat) (exponent : Int) : Nat × Nat :=
  if 0 ≤ exponent then (num, den * Nat.pow 2 exponent.toNat)
  else (num * Nat.pow 2 (-exponent).toNat, den)

/-- The size of a number as a numerator and a denominator. -/
def fraction (x : Binary64) : Nat × Nat :=
  if 0 ≤ x.exponent then (x.significand * Nat.pow 2 x.exponent.toNat, 1)
  else (x.significand, Nat.pow 2 (-x.exponent).toNat)

/-- The natural number nearest to a fraction, the even one of two. -/
def nearest (num den : Nat) : Nat :=
  let q := num / den
  let r := num % den
  if den < 2 * r ∨ (2 * r = den ∧ q % 2 = 1) then q + 1 else q

/-- The exponent at which a fraction above zero has 53 bits before the point, or the least one. -/
def exponentOf (num den : Nat) : Int :=
  let guess := max minExponent ((num.log2 : Int) - den.log2 - 53)
  let (n, d) := inUnits num den guess
  if n / d < limit then guess else guess + 1

/-- The number nearest to a fraction; none if the fraction is too large for a finite number. -/
def ofFraction? (negative : Bool) (num den : Nat) : Option Binary64 :=
  if num = 0 then some (zero negative)
  else
    let e := exponentOf num den
    let (n, d) := inUnits num den e
    let m := nearest n d
    let (m, e) := if m = limit then (limit / 2, e + 1) else (m, e)
    if maxExponent < e then none else some ⟨negative, m, e⟩

/-- The number nearest to a natural number. -/
def ofNat? (n : Nat) : Option Binary64 := ofFraction? false n 1

/-- The rounded product. -/
def mul? (x y : Binary64) : Option Binary64 :=
  let (a, b) := x.fraction
  let (c, d) := y.fraction
  ofFraction? (x.negative != y.negative) (a * c) (b * d)

/-- The rounded quotient by a number other than zero. -/
def div? (x y : Binary64) : Option Binary64 :=
  let (a, b) := x.fraction
  let (c, d) := y.fraction
  ofFraction? (x.negative != y.negative) (a * d) (b * c)

/-- The number nearest to `digits` times a power of ten; none if it is too large. Powers far outside
the range are settled without being computed. -/
def ofDecimal? (negative : Bool) (digits : Nat) (scale : Int) : Option Binary64 :=
  let magnitude := (digits.log2 : Int) * 3 / 10 + scale
  if digits = 0 ∨ magnitude < -400 then some (zero negative)
  else if 400 < magnitude then none
  else if 0 ≤ scale then ofFraction? negative (digits * Nat.pow 10 scale.toNat) 1
  else ofFraction? negative digits (Nat.pow 10 (-scale).toNat)

end Binary64

end EventRouter
