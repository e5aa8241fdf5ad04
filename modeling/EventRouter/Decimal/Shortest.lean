import EventRouter.Decimal.Binary64
import EventRouter.Text.Numeral

/-! The shortest decimal text of a double: among the decimal fractions that round to the number, one
on the coarsest decimal grid, and of those the nearest. A style says which of two is taken that are
equally near, and which exponents are written by position. -/

namespace EventRouter

/-- A decimal fraction: a natural number times a power of ten. -/
structure Decimal where
  digits : Nat
  scale : Int
deriving DecidableEq, Repr, Inhabited

/-- Which of two neighbours on a grid is taken when a number lies halfway between them. -/
inductive Tie where
  | even
  | up
deriving DecidableEq, Repr

/-- The choice between a point of a grid and the next one. -/
def Tie.choose (tie : Tie) (down : Nat) : Nat :=
  match tie with
  | even => if down % 2 = 0 then down else down + 1
  | up => down + 1

namespace Binary64

/-- The reals that round to a number, in quarters of its last binary place: the lower end, the
number itself and the upper end. -/
def interval (x : Binary64) : Nat × Nat × Nat :=
  let v := 4 * x.significand
  let below := if x.significand = limit / 2 ∧ minExponent < x.exponent then 1 else 2
  (v - below, v, v + 2)

/-- The point of the grid of multiples of `10 ^ scale` that is closest to a number above zero, if
one of its two neighbours on the grid rounds to the number. -/
def onGrid? (x : Binary64) (tie : Tie) (scale : Int) : Option Nat :=
  let (low, v, high) := x.interval
  let quarter := x.exponent - 2
  -- One grid step over a quarter place is `step / unit`.
  let unit := Nat.pow 2 quarter.toNat * Nat.pow 10 (-scale).toNat
  let step := Nat.pow 2 (-quarter).toNat * Nat.pow 10 scale.toNat
  let inside (n : Nat) : Bool :=
    if x.significand % 2 = 0 then low * unit ≤ n * step && n * step ≤ high * unit
    else low * unit < n * step && n * step < high * unit
  let down := v * unit / step
  let up := down + 1
  if inside down && inside up then
    let doubled := 2 * (v * unit)
    let middle := (down + up) * step
    some (if doubled < middle then down else if middle < doubled then up else tie.choose down)
  else if inside down then some down
  else if inside up then some up
  else none

/-- The first grid with a point that rounds to the number, going from coarse to fine. -/
def shortestFrom (x : Binary64) (tie : Tie) (scale : Int) : Nat → Decimal
  | 0 => ⟨0, scale⟩
  | steps + 1 =>
    match x.onGrid? tie scale with
    | some digits => ⟨digits, scale⟩
    | none => shortestFrom x tie (scale - 1) steps

/-- The shortest decimal that rounds to the number. Seventeen digits always suffice, and the first
grid is coarser than the number. -/
def shortest (x : Binary64) (tie : Tie) : Decimal :=
  if x.isZero then ⟨0, 0⟩
  else
    let bits := (x.significand.log2 : Int) + x.exponent + 1
    x.shortestFrom tie (bits * 30103 / 100000 + 1) 25

end Binary64

/-- How doubles are written: the exponents of the first digit between which the digits stand by
position, and the choice between two shortest decimals that are equally near. -/
structure DecimalStyle where
  least : Int
  greatest : Int
  tie : Tie

namespace DecimalStyle

/-- A decimal of digits `ds` whose first digit has the given exponent, by position. -/
def positional (ds : List Char) (exponent : Int) : List Char :=
  if exponent < 0 then
    '0' :: '.' :: List.replicate (-exponent - 1).toNat '0' ++ ds
  else
    let whole := exponent.toNat + 1
    if ds.length ≤ whole then ds ++ List.replicate (whole - ds.length) '0' ++ ['.', '0']
    else ds.take whole ++ '.' :: ds.drop whole

/-- A decimal of digits `ds` with an exponent, which always has a sign. -/
def scientific (ds : List Char) (exponent : Int) : List Char :=
  let head := if ds.length ≤ 1 then ds else ds.take 1 ++ '.' :: ds.drop 1
  let sign := if exponent < 0 then '-' else '+'
  head ++ 'e' :: sign :: Numeral.write 10 exponent.natAbs

/-- The text of a double: its shortest decimal, always with a point or an exponent. -/
def write (style : DecimalStyle) (x : Binary64) : List Char :=
  let decimal := x.shortest style.tie
  let ds := Numeral.write 10 decimal.digits
  let exponent := if x.isZero then 0 else (ds.length : Int) + decimal.scale - 1
  let body :=
    if style.least ≤ exponent ∧ exponent ≤ style.greatest then positional ds exponent
    else scientific ds exponent
  if x.negative then '-' :: body else body

end DecimalStyle

end EventRouter
