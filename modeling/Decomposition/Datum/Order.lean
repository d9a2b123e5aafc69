import Decomposition.Datum

namespace Decomposition

/-- How two plain values compare. Numbers are compared exactly, whatever their kind. An undefined
number has no place among them, and values of different kinds are not compared at all. -/
inductive Comparison where
  | ordered (order : Ordering)
  /-- One of two numbers is undefined. -/
  | unordered
  | incomparable
  deriving DecidableEq, Repr

namespace Comparison

def swap : Comparison → Comparison
  | .ordered order => .ordered order.swap
  | .unordered => .unordered
  | .incomparable => .incomparable

def ofFloats (x y : Float) : Comparison :=
  if x < y then .ordered .lt
  else if x > y then .ordered .gt
  else if x == y then .ordered .eq
  else .unordered

/-- The integer is compared with the whole part first, so that nothing is rounded. -/
def ofIntFloat (n : Int) (x : Float) : Comparison :=
  match Binary64.truncate x with
  | .error .nan => .unordered
  | .error .infinite => .ordered (if x < 0 then .gt else .lt)
  | .ok whole =>
      if n = whole then ofFloats (Binary64.ofInt whole) x else .ordered (compare n whole)

end Comparison

namespace Datum

/-- A truth value counts as one or zero. -/
def asInteger? : Datum → Option Int
  | .bool b => some (if b then 1 else 0)
  | .int n => some n
  | _ => none

def compareNumbers (a b : Datum) : Comparison :=
  match a.asInteger?, b.asInteger?, a, b with
  | some m, some n, _, _ => .ordered (Ord.compare m n)
  | some m, none, _, .float y => .ofIntFloat m y
  | none, some n, .float x, _ => (Comparison.ofIntFloat n x).swap
  | none, none, .float x, .float y => .ofFloats x y
  | _, _, _, _ => .incomparable

def isUndefined : Datum → Bool
  | .float x => x.isNaN
  | _ => false

mutual
/-- Numbers agree by value, and an undefined one with itself. Tables agree in any order. -/
def agrees : Datum → Datum → Bool
  | .null, .null => true
  | .text s, .text t => s == t
  | .list as, .list bs => agreeItems as bs
  | .table as, .table bs => as.length == bs.length && agreeEntries as bs
  | a, b => compareNumbers a b == .ordered .eq || (a.isUndefined && b.isUndefined)

def agreeItems : List Datum → List Datum → Bool
  | [], [] => true
  | a :: as, b :: bs => agrees a b && agreeItems as bs
  | _, _ => false

def agreeEntries : List (String × Datum) → List (String × Datum) → Bool
  | [], _ => true
  | (key, a) :: rest, bs =>
      (match bs.lookup key with
        | some b => agrees a b
        | none => false)
      && agreeEntries rest bs
end

mutual
/-- Lists are ordered by the first items that do not agree, and then by length. -/
def compare : Datum → Datum → Comparison
  | .text s, .text t => .ordered (Ord.compare s t)
  | .list as, .list bs => compareItems as bs
  | a, b => compareNumbers a b

def compareItems : List Datum → List Datum → Comparison
  | [], [] => .ordered .eq
  | [], _ :: _ => .ordered .lt
  | _ :: _, [] => .ordered .gt
  | a :: as, b :: bs => if agrees a b then compareItems as bs else compare a b
end

end Datum

end Decomposition
