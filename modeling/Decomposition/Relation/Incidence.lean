import Decomposition.OrderedMap

namespace Decomposition

/-- Sparse coefficients under a row key and a column key, indexed from both sides. A zero is not
stored: writing one removes the pair, and leaves the row and the column registered. -/
structure Incidence (ρ κ σ : Type) [BEq ρ] [BEq κ] where
  rows : OrderedMap ρ (OrderedMap κ σ)
  cols : OrderedMap κ (OrderedMap ρ σ)

namespace Incidence
variable {ρ κ σ τ : Type} [BEq ρ] [BEq κ]

def empty : Incidence ρ κ σ := ⟨.empty, .empty⟩

instance : Inhabited (Incidence ρ κ σ) := ⟨empty⟩

def row (m : Incidence ρ κ σ) (r : ρ) : OrderedMap κ σ := m.rows.getD r .empty
def column (m : Incidence ρ κ σ) (c : κ) : OrderedMap ρ σ := m.cols.getD c .empty

def get? (m : Incidence ρ κ σ) (r : ρ) (c : κ) : Option σ := (m.row r).get? c

def getD (m : Incidence ρ κ σ) (r : ρ) (c : κ) (fallback : σ) : σ := (m.get? r c).getD fallback

def hasRow (m : Incidence ρ κ σ) (r : ρ) : Bool := m.rows.contains r
def hasColumn (m : Incidence ρ κ σ) (c : κ) : Bool := m.cols.contains c

/-- The stored pairs, row by row. -/
def nonzeros (m : Incidence ρ κ σ) : List (ρ × κ × σ) :=
  m.rows.entries.flatMap fun line => line.2.entries.map fun cell => (line.1, cell.1, cell.2)

/-- The number of stored pairs, counted row by row. -/
def nnz (m : Incidence ρ κ σ) : Nat := m.nonzeros.length

def registerRow (m : Incidence ρ κ σ) (r : ρ) : Incidence ρ κ σ :=
  { m with rows := m.rows.insertIfNew r .empty }

def registerColumn (m : Incidence ρ κ σ) (c : κ) : Incidence ρ κ σ :=
  { m with cols := m.cols.insertIfNew c .empty }

/-- The values are replaced one by one, the pairs stay. -/
def map (m : Incidence ρ κ σ) (f : σ → τ) : Incidence ρ κ τ :=
  ⟨m.rows.map fun _ line => line.map fun _ v => f v,
    m.cols.map fun _ line => line.map fun _ v => f v⟩

variable [BEq σ] [OfNat σ 0]

/-- One cell of a line: a zero removes it. -/
def writeCell {α : Type} [BEq α] (line : OrderedMap α σ) (key : α) (v : σ) : OrderedMap α σ :=
  if v == 0 then line.erase key else line.insert key v

def set (m : Incidence ρ κ σ) (r : ρ) (c : κ) (v : σ) : Incidence ρ κ σ :=
  ⟨m.rows.insert r (writeCell (m.row r) c v), m.cols.insert c (writeCell (m.column c) r v)⟩

/-- The cells are written into the row, next to those already there. -/
def addRow (m : Incidence ρ κ σ) (r : ρ) (members : OrderedMap κ σ) : Incidence ρ κ σ :=
  members.entries.foldl (fun m cell => m.set r cell.1 cell.2) (m.registerRow r)

def addColumn (m : Incidence ρ κ σ) (c : κ) (members : OrderedMap ρ σ) : Incidence ρ κ σ :=
  members.entries.foldl (fun m cell => m.set cell.1 c cell.2) (m.registerColumn c)

def clearRow (m : Incidence ρ κ σ) (r : ρ) : Incidence ρ κ σ :=
  (m.row r).keys.foldl (fun m c => m.set r c 0) m

def clearColumn (m : Incidence ρ κ σ) (c : κ) : Incidence ρ κ σ :=
  (m.column c).keys.foldl (fun m r => m.set r c 0) m

/-- The whole content of the row is replaced. -/
def resetRow (m : Incidence ρ κ σ) (r : ρ) (members : OrderedMap κ σ) : Incidence ρ κ σ :=
  (m.clearRow r).addRow r members

def resetColumn (m : Incidence ρ κ σ) (c : κ) (members : OrderedMap ρ σ) : Incidence ρ κ σ :=
  (m.clearColumn c).addColumn c members

/-- The pairs of one row that pass the column predicate are written into `into`. -/
def copyRow (m : Incidence ρ κ σ) (keepColumn : κ → Bool) (into : Incidence ρ κ σ) (r : ρ) :
    Incidence ρ κ σ :=
  (m.row r).entries.foldl
    (fun into cell => if keepColumn cell.1 then into.set r cell.1 cell.2 else into) into

/-- A new relation with the pairs that pass both predicates. Only the candidate rows are looked at,
or every row when no candidates are given. -/
def extract (m : Incidence ρ κ σ) (keepRow : ρ → Bool) (keepColumn : κ → Bool)
    (candidates : Option (List ρ)) : Incidence ρ κ σ :=
  (candidates.getD m.rows.keys).foldl
    (fun into r => if keepRow r then m.copyRow keepColumn into r else into) .empty

variable [Add σ] [Mul σ]

/-- Products are added in the order of the line. Absent and zero factors are passed over. -/
def dot {α : Type} [BEq α] (line x : OrderedMap α σ) : σ :=
  line.entries.foldl
    (fun total cell =>
      match x.get? cell.1 with
      | some v => if v == 0 then total else total + cell.2 * v
      | none => total)
    0

/-- One product for every registered row. -/
def mul (m : Incidence ρ κ σ) (x : OrderedMap κ σ) : OrderedMap ρ σ :=
  m.rows.map fun _ line => dot line x

/-- One product for every registered column. -/
def transposeMul (m : Incidence ρ κ σ) (y : OrderedMap ρ σ) : OrderedMap κ σ :=
  m.cols.map fun _ line => dot line y

/-- The place of each column in a table. A column that is listed again goes to its last place. -/
def places (columnKeys : List κ) : OrderedMap κ Nat := .ofList columnKeys.zipIdx

/-- A cell of a column without a place is passed over. -/
def putCell (place : OrderedMap κ Nat) (filled : List σ) (cell : κ × σ) : List σ :=
  match place.get? cell.1 with
  | some j => filled.set j cell.2
  | none => filled

/-- One row of the dense table: the cells of the line are put to their places among zeros. -/
def denseRow (place : OrderedMap κ Nat) (width : Nat) (line : OrderedMap κ σ) : List σ :=
  line.entries.foldl (putCell place) (List.replicate width 0)

def dense (m : Incidence ρ κ σ) (rowKeys : List ρ) (columnKeys : List κ) : List (List σ) :=
  let place := places columnKeys
  rowKeys.map fun r => denseRow place columnKeys.length (m.row r)

/-- The same pairs are stored with the same values. -/
def sameCells (a b : Incidence ρ κ σ) : Bool :=
  a.nnz == b.nnz && a.nonzeros.all fun cell =>
    match b.get? cell.1 cell.2.1 with
    | some v => v == cell.2.2
    | none => false

end Incidence

end Decomposition
