import Decomposition.Number.Shortest

namespace Decomposition.Number
open Binary64

/-- Where positional notation ends, and how wide an exponent is at least. -/
structure Layout where
  lowest : Int
  highest : Int
  exponentWidth : Nat

/-- Exponents from -4 up to 15 are written out; a written exponent has a sign and two digits. -/
def Layout.general : Layout := ⟨-4, 15, 2⟩

def zeros (n : Nat) : String := String.ofList (List.replicate n '0')

/-- Zeros at the end carry over into the power of ten. -/
def stripZeros (digits : List Char) : List Char :=
  (digits.reverse.dropWhile (· == '0')).reverse

def padLeft (width : Nat) (text : String) : String := zeros (width - text.length) ++ text

def scientific (layout : Layout) (digits : List Char) (exponent : Int) : String :=
  let mantissa := match digits with
    | [] => "0"
    | [d] => String.ofList [d]
    | d :: rest => String.ofList (d :: '.' :: rest)
  let sign := if exponent < 0 then "-" else "+"
  mantissa ++ "e" ++ sign ++ padLeft layout.exponentWidth (toString exponent.natAbs)

def positional (digits : List Char) (exponent : Int) : String :=
  let count : Int := digits.length
  let point := exponent + 1
  if point ≤ 0 then "0." ++ zeros (-point).toNat ++ String.ofList digits
  else if count ≤ point then String.ofList digits ++ zeros (point - count).toNat ++ ".0"
  else String.ofList (digits.take point.toNat) ++ "." ++ String.ofList (digits.drop point.toNat)

def Layout.magnitude (layout : Layout) (d : Shortest.Decimal) : String :=
  let written := Nat.toDigits 10 d.digits
  let exponent := d.power + written.length - 1
  let digits := stripZeros written
  if layout.lowest ≤ exponent ∧ exponent ≤ layout.highest then positional digits exponent
  else scientific layout digits exponent

def signed (negative : Bool) (text : String) : String := if negative then "-" ++ text else text

def Layout.text (layout : Layout) (x : Float) : String :=
  match value x with
  | .nan => "nan"
  | .infinite negative => signed negative "inf"
  | .finite v =>
    signed v.negative
      (if v.significand = 0 then "0.0" else layout.magnitude (Shortest.decimal v))

/-- The fewest digits that read back as the same double. -/
def text (x : Float) : String := Layout.general.text x

/-- The exact binary value is rounded to the given number of places, halves to the even digit. -/
def fixed (places : Nat) (x : Float) : String :=
  match value x with
  | .nan => "nan"
  | .infinite negative => signed negative "inf"
  | .finite v =>
    let (num, den) := v.quotient
    let units := roundHalfEven (num * tenTo places) den
    let fraction := padLeft places (toString (units % tenTo places))
    signed v.negative (toString (units / tenTo places) ++ "." ++ fraction)

def longestInteger : Nat := 4300

/-- An integer has a text if its digits are not too many, in reading as in writing. A sign is none
of them. -/
def hasText (n : Int) : Bool := n.natAbs < tenTo longestInteger

end Decomposition.Number
