import Decomposition.Relation.Freezing
import Decomposition.Solution
import Decomposition.Store

namespace Decomposition.View

def nat (n : Nat) : Datum := .int n

def list {α : Type} (f : α → Datum) (items : List α) : Datum := .list (items.map f)

def option {α : Type} (f : α → Datum) : Option α → Datum
  | none => .null
  | some a => f a

def ident (id : Ident) : Datum := .text id.describe

/-- An identifier with the formulations of origin and assignment and the duty. -/
def fullIdent (id : Ident) : Datum :=
  .list [ident id, option .int id.origin, option .int id.assigned, .text id.duty.name]

/-- Only an identifier can be shown in full. -/
def fullRef (ref : Ref) : Except Fault Datum := ref.toIdent.map fullIdent

/-- The views of some values, unless one of them has none. -/
def listOf {α : Type} (f : α → Except Fault Datum) (items : List α) : Except Fault Datum :=
  (items.mapM f).map .list

def fullKeys {κ : Type} [RefKey κ] (keys : List κ) : Except Fault Datum :=
  listOf (fun key => fullRef (RefKey.toRef key)) keys

def fullEntries {α : Type} (value : α → Datum) (entries : List (Ref × α)) : Except Fault Datum :=
  listOf (fun entry => (fullRef entry.1).map fun id => .list [id, value entry.2]) entries

def fullValues (m : OrderedMap Ref Float) : Except Fault Datum := fullEntries .float m.entries

/-- Whether the first of two values is less, at most, greater, at least, equal and unequal. Values
that are unordered are unequal and nothing else. -/
def comparison : Comparison → Except Fault Datum
  | .ordered o => .ok (list .bool [o.isLT, o.isLE, o.isGT, o.isGE, o.isEq, o.isNe])
  | .unordered => .ok (list .bool [false, false, false, false, false, true])
  | .incomparable => .error .badType

section Keys
variable {κ : Type} [BEq κ] [RefKey κ]

def key (k : κ) : Datum := .text (RefKey.describe k)

def values (m : OrderedMap κ Float) : Datum :=
  list (fun entry => .list [key entry.1, .float entry.2]) m.entries

/-- The lines of one side of a relation, empty ones included. -/
def lines (m : OrderedMap κ (OrderedMap κ Float)) : Datum :=
  list (fun line => .list [key line.1, values line.2]) m.entries

def relation (m : Relation κ Float) : Datum :=
  .table
    [("rows", lines m.cells.rows), ("cols", lines m.cells.cols), ("nnz", nat m.nnz),
      ("frozen", .bool m.frozen), ("capacity", option .int m.capacity)]

/-- The relation in numbers. -/
def relationInfo (m : Relation κ Float) : Datum :=
  .table
    [("nnz", nat m.nnz), ("len", nat m.nnz), ("repr", .text m.describe),
      ("frozen", .bool m.frozen), ("capacity", option .int m.capacity),
      ("truthy", .bool (m.nnz != 0))]

def nonzeros (m : Relation κ Float) : Datum :=
  list (fun c => .list [key c.1, key c.2.1, .float c.2.2]) m.cells.nonzeros

end Keys

def primalFields (s : PrimalSolution) : List (String × Datum) :=
  [("form", option .int s.form), ("values", values s.values), ("obj", .float s.objective),
    ("repr", .text s.describe)]

def primal (s : PrimalSolution) : Datum := .table (primalFields s)

def dualFields (s : DualSolution) : List (String × Datum) :=
  [("form", option .int s.form), ("values", values s.values), ("bound", .float s.bound),
    ("repr", .text s.describe)]

def dual (s : DualSolution) : Datum := .table (dualFields s)

/-- The best solution is the first one, if there is any. -/
def result (r : OptimizationResult) : Datum :=
  .table
    [("status", .text r.status.name), ("obj", .float r.objective),
      ("primals", list primal r.primals), ("dual", option dual r.dual),
      ("has_solution", .bool r.hasSolution),
      ("is_optimal", .bool r.isOptimal), ("best_is_first", .bool true),
      ("summary", .text r.summary)]

end Decomposition.View
