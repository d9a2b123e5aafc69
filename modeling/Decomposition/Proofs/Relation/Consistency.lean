import Decomposition.Proofs.OrderedMap
import Decomposition.Relation.Incidence

namespace Decomposition.Incidence
variable {ρ κ σ : Type} [BEq ρ] [BEq κ]

theorem row_eq (m : Incidence ρ κ σ) (r : ρ) : m.row r = (m.rows.get? r).getD .empty := rfl

theorem column_eq (m : Incidence ρ κ σ) (c : κ) : m.column c = (m.cols.get? c).getD .empty := rfl

@[simp] theorem column_empty (c : κ) : (empty : Incidence ρ κ σ).column c = .empty := rfl

theorem hasRow_of_get? {m : Incidence ρ κ σ} {r : ρ} {c : κ} {v : σ} (found : m.get? r c = some v) :
    m.hasRow r = true := by
  rw [hasRow, OrderedMap.contains_eq_isSome]
  cases look : m.rows.get? r with
  | none => simp [get?, row_eq, look] at found
  | some line => rfl

theorem hasColumn_of_get? {m : Incidence ρ κ σ} {r : ρ} {c : κ} {v : σ}
    (found : (m.column c).get? r = some v) : m.hasColumn c = true := by
  rw [hasColumn, OrderedMap.contains_eq_isSome]
  cases look : m.cols.get? c with
  | none => simp [column_eq, look] at found
  | some line => rfl

theorem rows_get?_of_get? {m : Incidence ρ κ σ} {r : ρ} {c : κ} {v : σ}
    (stored : m.get? r c = some v) : m.rows.get? r = some (m.row r) := by
  cases look : m.rows.get? r with
  | none => simp [get?, row_eq, look] at stored
  | some line => rw [row_eq, look]; rfl

theorem cols_get?_of_get? {m : Incidence ρ κ σ} {r : ρ} {c : κ} {v : σ}
    (stored : (m.column c).get? r = some v) : m.cols.get? c = some (m.column c) := by
  cases look : m.cols.get? c with
  | none => simp [column_eq, look] at stored
  | some line => rw [column_eq, look]; rfl

section Rows
variable [EquivBEq ρ]

theorem row_congr (m : Incidence ρ κ σ) {a b : ρ} (same : (a == b) = true) :
    m.row a = m.row b := by
  rw [row_eq, row_eq, m.rows.get?_congr same]

theorem row_of_mem {m : Incidence ρ κ σ} {line : ρ × OrderedMap κ σ}
    (mem : line ∈ m.rows.entries) : m.row line.1 = line.2 := by
  rw [row_eq, OrderedMap.get?_self_of_mem mem]
  rfl

/-- Registering a row adds no pair. -/
@[simp] theorem row_registerRow (m : Incidence ρ κ σ) (r other : ρ) :
    (m.registerRow r).row other = m.row other := by
  rw [row_eq, row_eq, registerRow, OrderedMap.get?_insertIfNew]
  by_cases added : (r == other && !m.rows.contains r) = true
  · obtain ⟨same, absent⟩ := Bool.and_eq_true_iff.1 added
    have none : m.rows.get? other = none := by
      rw [← m.rows.get?_congr same]
      simpa [OrderedMap.contains_eq_isSome] using absent
    simp [added, none]
  · simp [added]

variable [BEq σ] [OfNat σ 0]

theorem row_set (m : Incidence ρ κ σ) (r other : ρ) (c : κ) (v : σ) :
    (m.set r c v).row other = if r == other then writeCell (m.row r) c v else m.row other := by
  rw [row_eq, set, OrderedMap.get?_insert]
  by_cases same : (r == other) = true <;> simp [same, row_eq]

theorem hasRow_set (m : Incidence ρ κ σ) (r other : ρ) (c : κ) (v : σ) :
    (m.set r c v).hasRow other = (r == other || m.hasRow other) :=
  m.rows.contains_insert r other _

end Rows

section Columns
variable [EquivBEq κ]

theorem column_congr (m : Incidence ρ κ σ) {a b : κ} (same : (a == b) = true) :
    m.column a = m.column b := by
  rw [column_eq, column_eq, m.cols.get?_congr same]

theorem column_of_mem {m : Incidence ρ κ σ} {line : κ × OrderedMap ρ σ}
    (mem : line ∈ m.cols.entries) : m.column line.1 = line.2 := by
  rw [column_eq, OrderedMap.get?_self_of_mem mem]
  rfl

@[simp] theorem column_registerColumn (m : Incidence ρ κ σ) (c other : κ) :
    (m.registerColumn c).column other = m.column other := by
  rw [column_eq, column_eq, registerColumn, OrderedMap.get?_insertIfNew]
  by_cases added : (c == other && !m.cols.contains c) = true
  · obtain ⟨same, absent⟩ := Bool.and_eq_true_iff.1 added
    have none : m.cols.get? other = none := by
      rw [← m.cols.get?_congr same]
      simpa [OrderedMap.contains_eq_isSome] using absent
    simp [added, none]
  · simp [added]

variable [BEq σ] [OfNat σ 0]

theorem column_set (m : Incidence ρ κ σ) (r : ρ) (c other : κ) (v : σ) :
    (m.set r c v).column other =
      if c == other then writeCell (m.column c) r v else m.column other := by
  rw [column_eq, set, OrderedMap.get?_insert]
  by_cases same : (c == other) = true <;> simp [same, column_eq]

theorem hasColumn_set (m : Incidence ρ κ σ) (r : ρ) (c other : κ) (v : σ) :
    (m.set r c v).hasColumn other = (c == other || m.hasColumn other) :=
  m.cols.contains_insert c other _

end Columns

section Writes
variable [BEq σ] [OfNat σ 0]

/-- What a write of a value leaves at its pair. -/
def kept (v : σ) : Option σ := if v == 0 then none else some v

/-- Both indexes hold the same values, and no value is zero. A write is described once for the rows
and once for the columns, and the two descriptions are the same. -/
structure Consistent (m : Incidence ρ κ σ) : Prop where
  agree : ∀ r c, (m.column c).get? r = m.get? r c
  nonzero : ∀ r c v, m.get? r c = some v → (v == 0) = false

theorem Consistent.empty : Consistent (empty : Incidence ρ κ σ) where
  agree _ _ := rfl
  nonzero _ _ _ found := nomatch found

theorem Consistent.registerRow [EquivBEq ρ] {m : Incidence ρ κ σ} (h : Consistent m) (r : ρ) :
    Consistent (m.registerRow r) where
  agree a b := by
    rw [get?, row_registerRow]
    exact h.agree a b
  nonzero a b v found := by
    rw [get?, row_registerRow] at found
    exact h.nonzero a b v found

theorem Consistent.registerColumn [EquivBEq κ] {m : Incidence ρ κ σ} (h : Consistent m) (c : κ) :
    Consistent (m.registerColumn c) where
  agree a b := by
    rw [column_registerColumn]
    exact h.agree a b
  nonzero := h.nonzero

variable [EquivBEq ρ] [EquivBEq κ]

theorem get?_writeCell (line : OrderedMap κ σ) (key other : κ) (v : σ) :
    (writeCell line key v).get? other = if key == other then kept v else line.get? other := by
  unfold writeCell kept
  split
  · exact line.get?_erase key other
  · exact line.get?_insert key other v

/-- A write changes the value at its pair alone, as seen from the rows. -/
theorem get?_set (m : Incidence ρ κ σ) (r a : ρ) (c b : κ) (v : σ) :
    (m.set r c v).get? a b = if r == a && c == b then kept v else m.get? a b := by
  rw [get?, row_set]
  by_cases sameRow : (r == a) = true
  · simp [sameRow, get?_writeCell, get?, m.row_congr sameRow]
  · simp [sameRow, get?]

/-- A write changes the value at its pair alone, as seen from the columns. -/
theorem column_get?_set (m : Incidence ρ κ σ) (r a : ρ) (c b : κ) (v : σ) :
    ((m.set r c v).column b).get? a =
      if r == a && c == b then kept v else (m.column b).get? a := by
  rw [column_set]
  by_cases sameColumn : (c == b) = true
  · simp [sameColumn, get?_writeCell, m.column_congr sameColumn]
  · simp [sameColumn]

namespace Consistent
variable {m : Incidence ρ κ σ}

theorem set (h : Consistent m) (r : ρ) (c : κ) (v : σ) : Consistent (m.set r c v) where
  agree a b := by rw [get?_set, column_get?_set, h.agree]
  nonzero a b w found := by
    rw [get?_set] at found
    split at found
    · unfold kept at found
      split at found
      · cases found
      · cases found
        simp_all
    · exact h.nonzero a b w found

/-- Further writes, whatever their pairs and values are. -/
theorem foldl {α : Type} (h : Consistent m) (items : List α) (row : α → ρ) (column : α → κ)
    (value : α → σ) :
    Consistent (items.foldl (fun m item => m.set (row item) (column item) (value item)) m) :=
  items.foldlRecOn _ h fun _ kept item _ => kept.set (row item) (column item) (value item)

theorem addRow (h : Consistent m) (r : ρ) (members : OrderedMap κ σ) :
    Consistent (m.addRow r members) :=
  (h.registerRow r).foldl members.entries (fun _ => r) (·.1) (·.2)

theorem addColumn (h : Consistent m) (c : κ) (members : OrderedMap ρ σ) :
    Consistent (m.addColumn c members) :=
  (h.registerColumn c).foldl members.entries (·.1) (fun _ => c) (·.2)

theorem resetRow (h : Consistent m) (r : ρ) (members : OrderedMap κ σ) :
    Consistent (m.resetRow r members) :=
  (h.foldl (m.row r).keys (fun _ => r) id fun _ => 0).addRow r members

theorem resetColumn (h : Consistent m) (c : κ) (members : OrderedMap ρ σ) :
    Consistent (m.resetColumn c members) :=
  (h.foldl (m.column c).keys id (fun _ => c) fun _ => 0).addColumn c members

end Consistent

end Writes

end Decomposition.Incidence
