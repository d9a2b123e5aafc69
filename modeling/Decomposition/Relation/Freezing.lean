import Decomposition.Fault
import Decomposition.Relation.Incidence

namespace Decomposition

/-- Stored pairs with a flag that forbids writes. The capacity is a hint that is recorded and never
enforced. -/
structure Relation (κ σ : Type) [BEq κ] where
  cells : Incidence κ κ σ
  frozen : Bool
  capacity : Option Int

namespace Relation
variable {κ σ : Type} [BEq κ]

def empty (capacity : Option Int) : Relation κ σ := ⟨.empty, false, capacity⟩

instance : Inhabited (Relation κ σ) := ⟨empty none⟩

/-- A frozen relation refuses the write. -/
def write (m : Relation κ σ) (f : Incidence κ κ σ → Incidence κ κ σ) :
    Except Fault (Relation κ σ) :=
  if m.frozen then .error .frozen else .ok { m with cells := f m.cells }

def freeze (m : Relation κ σ) : Relation κ σ := { m with frozen := true }

def nnz (m : Relation κ σ) : Nat := m.cells.nnz

def describe (m : Relation κ σ) : String :=
  "CoefficientRelation(rows=" ++ toString m.cells.rows.size ++ ", cols="
    ++ toString m.cells.cols.size ++ ", nnz=" ++ toString m.nnz ++ ")"

/-- The numbers are read in another way, the pairs stay. -/
def map {τ : Type} (m : Relation κ σ) (f : σ → τ) : Relation κ τ :=
  ⟨m.cells.map f, m.frozen, m.capacity⟩

variable [BEq σ] [OfNat σ 0]

def set (m : Relation κ σ) (r c : κ) (v : σ) : Except Fault (Relation κ σ) :=
  m.write (·.set r c v)

def addRow (m : Relation κ σ) (r : κ) (members : OrderedMap κ σ) :
    Except Fault (Relation κ σ) :=
  m.write (·.addRow r members)

def addColumn (m : Relation κ σ) (c : κ) (members : OrderedMap κ σ) :
    Except Fault (Relation κ σ) :=
  m.write (·.addColumn c members)

def resetRow (m : Relation κ σ) (r : κ) (members : OrderedMap κ σ) :
    Except Fault (Relation κ σ) :=
  m.write (·.resetRow r members)

def resetColumn (m : Relation κ σ) (c : κ) (members : OrderedMap κ σ) :
    Except Fault (Relation κ σ) :=
  m.write (·.resetColumn c members)

/-- The extracted relation is mutable, also when the source is frozen. -/
def extract (m : Relation κ σ) (keepRow keepColumn : κ → Bool) (capacity : Option Int)
    (candidates : Option (List κ)) : Relation κ σ :=
  ⟨m.cells.extract keepRow keepColumn candidates, false, capacity⟩

/-- A mutable copy with the same capacity, built from the stored pairs. -/
def copy (m : Relation κ σ) : Relation κ σ :=
  m.extract (fun _ => true) (fun _ => true) m.capacity none

/-- Without a list of rows or columns, all registered ones are taken in the order of their uids. -/
def dense (m : Relation Ident σ) (rows columns : Option (List Ident)) : List (List σ) :=
  m.cells.dense (rows.getD (Ident.sortByUid m.cells.rows.keys))
    (columns.getD (Ident.sortByUid m.cells.cols.keys))

/-- Stored pairs decide; registration, order, the flag and the capacity do not. -/
def same (a b : Relation κ σ) : Bool := a.cells.sameCells b.cells

end Relation

end Decomposition
