import Decomposition.Number.Binary64

namespace Decomposition.Number.Shortest
open Binary64

/-- A decimal is `digits * 10 ^ power`. -/
structure Decimal where
  digits : Nat
  power : Int
  deriving Repr, DecidableEq

/-- The interval of reals that round to a double, in quarters of its last place. -/
structure Interval where
  lower : Nat
  centre : Nat
  upper : Nat
  closed : Bool
  power : Int

/-- Below a power of two the spacing halves; an even significand also takes the end points. -/
def Interval.of (x : Finite) : Interval :=
  let tight := x.significand = twoTo 52 ∧ -1074 < x.exponent
  { lower := 4 * x.significand - if tight then 1 else 2
    centre := 4 * x.significand
    upper := 4 * x.significand + 2
    closed := x.significand % 2 = 0
    power := x.exponent - 2 }

/-- A binary and a decimal quantity are brought to one common unit. -/
def commonUnit (binary : Nat) (power2 : Int) (decimal : Nat) (power10 : Int) : Nat × Nat :=
  (binary * twoTo power2.toNat * tenTo (-power10).toNat,
    decimal * tenTo power10.toNat * twoTo (-power2).toNat)

def Interval.contains (i : Interval) (d : Decimal) : Bool :=
  let (low, point) := commonUnit i.lower i.power d.digits d.power
  let (high, _) := commonUnit i.upper i.power d.digits d.power
  if i.closed then low ≤ point ∧ point ≤ high else low < point ∧ point < high

/-- The decimal point of a positive quotient: `10 ^ (p - 1) ≤ num / den < 10 ^ p`. -/
def pointPosition (num den : Nat) : Int :=
  if den ≤ num then decimalLength (num / den) else 1 - (decimalLength ((den - 1) / num) : Int)

/-- The largest point of the grid `10 ^ power` that does not exceed `num / den`. -/
def gridFloor (num den : Nat) (power : Int) : Nat :=
  num * tenTo (-power).toNat / (den * tenTo power.toNat)

/-- Of two neighbours the nearer one is taken, and the even one when they are equally near. -/
def Interval.nearer (i : Interval) (d : Decimal) : Decimal :=
  let (value, middle) := commonUnit (2 * i.centre) i.power (2 * d.digits + 1) d.power
  if value < middle ∨ (value = middle ∧ d.digits % 2 = 0) then d
  else { d with digits := d.digits + 1 }

def Interval.onGrid (i : Interval) (num den : Nat) (power : Int) : Option Decimal :=
  let below : Decimal := ⟨gridFloor num den power, power⟩
  let above : Decimal := { below with digits := below.digits + 1 }
  match i.contains below, i.contains above with
  | true, true => some (i.nearer below)
  | true, false => some below
  | false, true => some above
  | false, false => none

/-- For one digit, two digits and so on the two neighbours of the value on that grid are tried.
Seventeen digits always suffice. -/
def decimal (x : Finite) : Decimal :=
  let interval := Interval.of x
  let (num, den) := x.quotient
  let point := pointPosition num den
  let found := (List.range 17).findSome? fun (places : Nat) =>
    interval.onGrid num den (point - 1 - (places : Int))
  found.getD ⟨gridFloor num den (point - 17), point - 17⟩

end Decomposition.Number.Shortest
