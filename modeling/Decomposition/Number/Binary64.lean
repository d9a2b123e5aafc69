namespace Decomposition.Binary64

/-- A power of two, as a product of naturals. -/
def twoTo (n : Nat) : Nat := Nat.pow 2 n

/-- A power of ten, as a product of naturals. -/
def tenTo (n : Nat) : Nat := Nat.pow 10 n

/-- The value is `± significand * 2 ^ exponent`. -/
structure Finite where
  negative : Bool
  significand : Nat
  exponent : Int
  deriving Repr, DecidableEq

inductive Value where
  | finite (value : Finite)
  | infinite (negative : Bool)
  | nan
  deriving Repr, DecidableEq

/-- The three fields of a 64-bit word name a value. -/
def Value.ofWord (word : Nat) : Value :=
  let negative := (word / twoTo 63) % 2 == 1
  let biased : Nat := (word / twoTo 52) % 2048
  let fraction : Nat := word % twoTo 52
  if biased = 2047 then
    if fraction = 0 then .infinite negative else .nan
  else if biased = 0 then .finite ⟨negative, fraction, -1074⟩
  else .finite ⟨negative, twoTo 52 + fraction, (biased : Int) - 1075⟩

def value (x : Float) : Value := Value.ofWord x.toBits.toNat

/-- The quotient is rounded to the nearest integer, and a half goes to the even neighbour. -/
def roundHalfEven (num den : Nat) : Nat :=
  let quotient := num / den
  let rest := 2 * (num % den)
  if rest < den then quotient
  else if den < rest then quotient + 1
  else quotient + quotient % 2

/-- The rational `num / den` is scaled by a power of two, as a pair of naturals. -/
def scale (num den : Nat) (power : Int) : Nat × Nat :=
  if 0 ≤ power then (num * twoTo power.toNat, den) else (num, den * twoTo (-power).toNat)

/-- The unit of the last place of the double nearest to `num / den`, as a power of two. -/
def unitPower (num den : Nat) : Int :=
  let guess : Int := max (-1074) ((num.log2 : Int) - den.log2 - 53)
  let (top, bottom) := scale num den (-guess)
  if top / bottom < twoTo 53 then guess else guess + 1

def signBit (negative : Bool) : Nat := if negative then twoTo 63 else 0

/-- Values beyond the largest finite double become infinite. -/
def nearestWord (negative : Bool) (num den : Nat) : Nat :=
  let unit := unitPower num den
  let (top, bottom) := scale num den (-unit)
  let magnitude := (unit + 1074).toNat * twoTo 52 + roundHalfEven top bottom
  signBit negative + min magnitude (2047 * twoTo 52)

/-- The double nearest to `± num / den`, for a positive denominator. Ties go to the even
significand. -/
def nearest (negative : Bool) (num den : Nat) : Float :=
  if num = 0 then Float.ofBits (UInt64.ofNat (signBit negative))
  else Float.ofBits (UInt64.ofNat (nearestWord negative num den))

def infinity : Float := Float.ofBits (UInt64.ofNat (2047 * twoTo 52))
def negativeInfinity : Float := Float.ofBits (UInt64.ofNat (twoTo 63 + 2047 * twoTo 52))
def nan : Float := Float.ofBits (UInt64.ofNat (2047 * twoTo 52 + twoTo 51))

def ofInt (n : Int) : Float := nearest (n < 0) n.natAbs 1

/-- An integer beyond the finite doubles has no double. -/
def ofInt? (n : Int) : Option Float :=
  if nearestWord false n.natAbs 1 < 2047 * twoTo 52 then some (ofInt n) else none

/-- The number of decimal digits of a positive natural, and zero for zero. -/
def decimalLength (n : Nat) : Nat := if n = 0 then 0 else (Nat.toDigits 10 n).length

/-- The double nearest to `± digits * 10 ^ power`. Powers far outside the range of the format are
settled by the length of the digits alone. -/
def ofDecimal (negative : Bool) (digits : Nat) (power : Int) : Float :=
  let top : Int := decimalLength digits + power
  if digits = 0 ∨ top < -330 then nearest negative 0 1
  else if 310 < top then (if negative then negativeInfinity else infinity)
  else if 0 ≤ power then nearest negative (digits * tenTo power.toNat) 1
  else nearest negative digits (tenTo (-power).toNat)

/-- What keeps a double from having an integer beside it. -/
inductive NoInteger where
  | nan
  | infinite
  deriving Repr, DecidableEq

def Finite.signed (x : Finite) (magnitude : Nat) : Int :=
  if x.negative then -(magnitude : Int) else magnitude

/-- The absolute value as a quotient of naturals. -/
def Finite.quotient (x : Finite) : Nat × Nat := scale x.significand 1 x.exponent

def toInteger (rule : Nat → Nat → Nat) (x : Float) : Except NoInteger Int :=
  match value x with
  | .nan => .error .nan
  | .infinite _ => .error .infinite
  | .finite v => .ok (v.signed (rule v.quotient.1 v.quotient.2))

/-- The fraction is cut off. -/
def truncate (x : Float) : Except NoInteger Int := toInteger (· / ·) x

/-- The nearest integer, with halves to the even neighbour. -/
def round (x : Float) : Except NoInteger Int := toInteger roundHalfEven x

end Decomposition.Binary64
