import Decomposition.Number.Decimal
import Decomposition.Text.Characters

namespace Decomposition.Number
open Text

/-- The four information separators are white space, but not around a number. -/
def isNumberBlank (c : Char) : Bool := isBlank c && !(0x1c ≤ c.toNat && c.toNat ≤ 0x1f)

def startsWithDigit : List Char → Bool
  | [] => false
  | c :: _ => (decimalValue? c).isSome

/-- The digits from here on, with an underscore passed over where a digit follows it. -/
def digitsFrom : List Char → List Nat × List Char
  | [] => ([], [])
  | c :: rest =>
      match decimalValue? c with
      | some digit =>
          let tail := digitsFrom rest
          (digit :: tail.1, tail.2)
      | none => if c = '_' ∧ startsWithDigit rest then digitsFrom rest else ([], c :: rest)

/-- A run of digits starts with a digit. -/
def digitRun (cs : List Char) : List Nat × List Char :=
  if startsWithDigit cs then digitsFrom cs else ([], cs)

def ofDigits (digits : List Nat) : Nat := digits.foldl (fun n digit => 10 * n + digit) 0

/-- One sign is taken off; the flag tells whether it was a minus. -/
def takeSign : List Char → Bool × List Char
  | '+' :: rest => (false, rest)
  | '-' :: rest => (true, rest)
  | cs => (false, cs)

/-- A run of digits that is too long is refused. -/
def readInt? (cs : List Char) : Option Int :=
  let (negative, body) := takeSign (stripBy isNumberBlank cs)
  match digitRun body with
  | ([], _) => none
  | (digits, []) =>
      if digits.length ≤ longestInteger then
        some (if negative then -(ofDigits digits : Int) else ofDigits digits)
      else none
  | _ => none

/-- Whatever follows the mantissa: nothing, or an exponent. -/
def readExponent? : List Char → Option Int
  | [] => some 0
  | c :: rest =>
      if c = 'e' ∨ c = 'E' then
        let (negative, body) := takeSign rest
        match digitRun body with
        | ([], _) => none
        | (digits, []) => some (if negative then -(ofDigits digits : Int) else ofDigits digits)
        | _ => none
      else none

/-- Digits after the point shift the power of ten. -/
def readFraction : List Char → List Nat × List Char
  | '.' :: rest => digitRun rest
  | cs => ([], cs)

def readDecimal? (negative : Bool) (cs : List Char) : Option Float :=
  let (whole, afterWhole) := digitRun cs
  let (fraction, afterFraction) := readFraction afterWhole
  if whole.isEmpty && fraction.isEmpty then none
  else (readExponent? afterFraction).map fun exponent =>
    Binary64.ofDecimal negative (ofDigits (whole ++ fraction)) (exponent - (fraction.length : Int))

/-- White space around a number is dropped. The digits of every script count by their value. -/
def readFloat? (cs : List Char) : Option Float :=
  let (negative, body) := takeSign (stripBy isNumberBlank cs)
  let word := String.ofList (body.map Char.toLower)
  if word = "inf" ∨ word = "infinity" then
    some (if negative then Binary64.negativeInfinity else Binary64.infinity)
  else if word = "nan" then some Binary64.nan
  else readDecimal? negative body

end Decomposition.Number
