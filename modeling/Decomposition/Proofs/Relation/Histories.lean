import Decomposition.Proofs.Relation.Sums
import Decomposition.Ref
import Decomposition.Relation.Freezing

namespace Decomposition.Relation

/-- One write with its arguments. -/
inductive Write (κ σ : Type) [BEq κ] where
  | set (r c : κ) (v : σ)
  | addRow (r : κ) (members : OrderedMap κ σ)
  | addColumn (c : κ) (members : OrderedMap κ σ)
  | resetRow (r : κ) (members : OrderedMap κ σ)
  | resetColumn (c : κ) (members : OrderedMap κ σ)

variable {κ σ : Type} [BEq κ] [BEq σ] [OfNat σ 0]

def perform (m : Relation κ σ) : Write κ σ → Except Fault (Relation κ σ)
  | .set r c v => m.set r c v
  | .addRow r members => m.addRow r members
  | .addColumn c members => m.addColumn c members
  | .resetRow r members => m.resetRow r members
  | .resetColumn c members => m.resetColumn c members

/-- The first write that is refused ends the history. -/
def performAll (m : Relation κ σ) : List (Write κ σ) → Except Fault (Relation κ σ)
  | [] => .ok m
  | write :: rest => (m.perform write).bind (·.performAll rest)

/-- What a write does to the pairs. -/
def Write.apply (write : Write κ σ) (m : Incidence κ κ σ) : Incidence κ κ σ :=
  match write with
  | .set r c v => m.set r c v
  | .addRow r members => m.addRow r members
  | .addColumn c members => m.addColumn c members
  | .resetRow r members => m.resetRow r members
  | .resetColumn c members => m.resetColumn c members

/-- Every write asks the flag first. -/
theorem perform_eq_write (m : Relation κ σ) (write : Write κ σ) :
    m.perform write = m.write write.apply := by
  cases write <;> rfl

/-- The relation after a write that may be refused. -/
def attempt (m : Relation κ σ) (write : Write κ σ) : Relation κ σ :=
  if m.frozen then m else { m with cells := write.apply m.cells }

theorem perform_of_mutable {m : Relation κ σ} (mutable : m.frozen = false)
    (write : Write κ σ) : m.perform write = .ok { m with cells := write.apply m.cells } := by
  rw [perform_eq_write, Relation.write, mutable]
  rfl

variable [EquivBEq κ]

theorem Write.consistent (write : Write κ σ) {m : Incidence κ κ σ} (h : m.Consistent) :
    (write.apply m).Consistent := by
  cases write with
  | set r c v => exact h.set r c v
  | addRow r members => exact h.addRow r members
  | addColumn c members => exact h.addColumn c members
  | resetRow r members => exact h.resetRow r members
  | resetColumn c members => exact h.resetColumn c members

theorem attempt_consistent {m : Relation κ σ} (h : m.cells.Consistent) (write : Write κ σ) :
    (m.attempt write).cells.Consistent := by
  unfold attempt
  split
  · exact h
  · exact write.consistent h

/-- A history on a relation that is not frozen succeeds and keeps the indexes in step. -/
theorem performAll_consistent {m : Relation κ σ} (mutable : m.frozen = false)
    (h : m.cells.Consistent) (writes : List (Write κ σ)) :
    ∃ n, m.performAll writes = .ok n ∧ n.cells.Consistent := by
  induction writes generalizing m with
  | nil => exact ⟨m, rfl, h⟩
  | cons write rest ih =>
      obtain ⟨n, run, consistent⟩ :=
        ih (m := { m with cells := write.apply m.cells }) mutable (write.consistent h)
      refine ⟨n, ?_, consistent⟩
      rw [performAll, perform_of_mutable mutable]
      exact run

/-- What the readers of a relation rely on. -/
structure WellIndexed (m : Relation κ σ) : Prop where
  /-- The rows hold a value at a pair exactly if the columns hold the same value there. -/
  views : ∀ r c v,
    (m.cells.row r).get? c = some v ↔ (m.cells.column c).get? r = some v
  rowValues : ∀ line ∈ m.cells.rows.entries, ∀ cell ∈ line.2.entries, (cell.2 == 0) = false
  columnValues : ∀ line ∈ m.cells.cols.entries, ∀ cell ∈ line.2.entries, (cell.2 == 0) = false
  rowKeys : m.cells.rows.keys.Pairwise fun a b => (a == b) = false
  columnKeys : m.cells.cols.keys.Pairwise fun a b => (a == b) = false
  keysInRows : ∀ line ∈ m.cells.rows.entries,
    line.2.keys.Pairwise fun a b => (a == b) = false
  keysInColumns : ∀ line ∈ m.cells.cols.entries,
    line.2.keys.Pairwise fun a b => (a == b) = false
  /-- Both ends of a stored pair are registered. -/
  registered : ∀ r c v, (m.cells.row r).get? c = some v →
    m.cells.hasRow r = true ∧ m.cells.hasColumn c = true
  count : m.nnz = (m.cells.cols.values.flatMap OrderedMap.entries).length

theorem wellIndexed_of_consistent {m : Relation κ σ} (h : m.cells.Consistent) :
    m.WellIndexed where
  views r c v := by rw [h.agree, Incidence.get?]
  rowValues line mem cell cellMem := by
    refine h.nonzero line.1 cell.1 cell.2 ?_
    rw [Incidence.get?, Incidence.row_of_mem mem]
    exact OrderedMap.get?_self_of_mem cellMem
  columnValues line mem cell cellMem := by
    refine h.nonzero cell.1 line.1 cell.2 ?_
    rw [← h.agree, Incidence.column_of_mem mem]
    exact OrderedMap.get?_self_of_mem cellMem
  rowKeys := m.cells.rows.keys_distinct
  columnKeys := m.cells.cols.keys_distinct
  keysInRows line _ := line.2.keys_distinct
  keysInColumns line _ := line.2.keys_distinct
  registered r c v found := by
    refine ⟨Incidence.hasRow_of_get? found, Incidence.hasColumn_of_get? (r := r) (v := v) ?_⟩
    rw [h.agree]
    exact found
  count := h.nnz_eq

/-- Whatever is written into an empty relation, in whatever order, both indexes stay in step. -/
theorem history_wellIndexed (capacity : Option Int) (writes : List (Write Ref Float)) :
    ∃ m, (empty capacity).performAll writes = .ok m ∧ m.WellIndexed := by
  obtain ⟨m, run, consistent⟩ :=
    performAll_consistent (m := empty capacity) rfl Incidence.Consistent.empty writes
  exact ⟨m, run, wellIndexed_of_consistent consistent⟩

end Decomposition.Relation
