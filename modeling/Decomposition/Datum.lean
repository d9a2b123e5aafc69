import Decomposition.Number.Decimal
import Decomposition.Text.Quoted

namespace Decomposition

/-- A plain value: one of a settings table, or what is given where an identifier or an entity is
expected. -/
inductive Datum where
  | null
  | bool (value : Bool)
  | int (value : Int)
  | float (value : Float)
  | text (value : String)
  | list (items : List Datum)
  | table (entries : List (String × Datum))
  deriving Inhabited

namespace Datum

def typeName : Datum → String
  | .null => "NoneType"
  | .bool _ => "bool"
  | .int _ => "int"
  | .float _ => "float"
  | .text _ => "str"
  | .list _ => "list"
  | .table _ => "dict"

/-- Lists and tables cannot be looked up as keys. -/
def isKey : Datum → Bool
  | .list _ | .table _ => false
  | _ => true

/-- Whether a number is larger than an integer. Values of other kinds are not compared. -/
def exceeds? (d : Datum) (n : Int) : Option Bool :=
  match d with
  | .bool b => some ((if b then 1 else 0) > n)
  | .int m => some (m > n)
  | .float x => some (x > Binary64.ofInt n)
  | .null | .text _ | .list _ | .table _ => none

/-- Zero, a missing value and what is empty. -/
def holdsNothing : Datum → Bool
  | .null => true
  | .bool b => !b
  | .int n => n == 0
  | .float x => x == 0
  | .text s => s.isEmpty
  | .list items => items.isEmpty
  | .table entries => entries.isEmpty

def boolText (b : Bool) : String := if b then "True" else "False"

/-- A missing value is written as a word. -/
def optionText {α : Type} (render : α → String) : Option α → String
  | none => "None"
  | some a => render a

mutual
/-- The written form, with texts in quotation marks. -/
def literal : Datum → String
  | .null => "None"
  | .bool b => boolText b
  | .int n => toString n
  | .float x => Number.text x
  | .text s => Text.quoted s
  | .list items => "[" ++ ", ".intercalate (literals items) ++ "]"
  | .table entries => "\x7b" ++ ", ".intercalate (literalEntries entries) ++ "\x7d"

def literals : List Datum → List String
  | [] => []
  | d :: rest => literal d :: literals rest

def literalEntries : List (String × Datum) → List String
  | [] => []
  | (key, d) :: rest => (Text.quoted key ++ ": " ++ literal d) :: literalEntries rest
end

/-- Numbers agree when they are equal or both undefined. -/
def sameNumber (x y : Float) : Bool := x == y || (x.isNaN && y.isNaN)

mutual
/-- Values of one kind with the same content. -/
def same : Datum → Datum → Bool
  | .null, .null => true
  | .bool a, .bool b => a == b
  | .int m, .int n => m == n
  | .float x, .float y => sameNumber x y
  | .text s, .text t => s == t
  | .list as, .list bs => sameItems as bs
  | .table as, .table bs => sameEntries as bs
  | _, _ => false

def sameItems : List Datum → List Datum → Bool
  | [], [] => true
  | a :: as, b :: bs => same a b && sameItems as bs
  | _, _ => false

def sameEntries : List (String × Datum) → List (String × Datum) → Bool
  | [], [] => true
  | (j, a) :: as, (k, b) :: bs => j == k && same a b && sameEntries as bs
  | _, _ => false
end

/-- A text stands for itself. -/
def plain : Datum → String
  | .text s => s
  | d => d.literal

end Datum

end Decomposition
