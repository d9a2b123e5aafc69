import Decomposition.Proofs.OrderedMap.Sums
import Decomposition.Proofs.Relation.Consistency

namespace Decomposition.Incidence
variable {ρ κ σ M : Type} [BEq ρ] [BEq κ] [EquivBEq ρ] [EquivBEq κ] [BEq σ] [OfNat σ 0]
  [AddCommMonoid M] {m : Incidence ρ κ σ}

namespace Consistent

/-- The pairs of one row, summed up by the registered columns. -/
theorem sum_row (h : Consistent m) {line : ρ × OrderedMap κ σ} (mem : line ∈ m.rows.entries)
    {f : κ → σ → M} (alike : ∀ a b v, (a == b) = true → f a v = f b v) :
    (line.2.entries.map fun cell => f cell.1 cell.2).sum =
      (m.cols.keys.map fun c => (m.get? line.1 c).elim 0 (f c)).sum := by
  simp only [get?, row_of_mem mem]
  refine line.2.sum_entries m.cols.keys_distinct (fun c stored => ?_) alike
  rw [OrderedMap.contains_eq_isSome, Option.isSome_iff_exists] at stored
  obtain ⟨v, found⟩ := stored
  have registered : m.hasColumn c = true := by
    refine hasColumn_of_get? (r := line.1) (v := v) ?_
    rw [h.agree, get?, row_of_mem mem, found]
  obtain ⟨column, columnMem, same⟩ := List.any_eq_true.1 registered
  exact ⟨column.1, List.mem_map_of_mem columnMem, BEq.symm same⟩

/-- The pairs of one column, summed up by the registered rows. -/
theorem sum_column (h : Consistent m) {line : κ × OrderedMap ρ σ} (mem : line ∈ m.cols.entries)
    {f : ρ → σ → M} (alike : ∀ a b v, (a == b) = true → f a v = f b v) :
    (line.2.entries.map fun cell => f cell.1 cell.2).sum =
      (m.rows.keys.map fun r => (m.get? r line.1).elim 0 (f r)).sum := by
  simp only [← h.agree, column_of_mem mem]
  refine line.2.sum_entries m.rows.keys_distinct (fun r stored => ?_) alike
  rw [OrderedMap.contains_eq_isSome, Option.isSome_iff_exists] at stored
  obtain ⟨v, found⟩ := stored
  have registered : m.hasRow r = true := by
    refine hasRow_of_get? (c := line.1) (v := v) ?_
    rw [← h.agree, column_of_mem mem, found]
  obtain ⟨row, rowMem, same⟩ := List.any_eq_true.1 registered
  exact ⟨row.1, List.mem_map_of_mem rowMem, BEq.symm same⟩

/-- A sum over the stored pairs is the same by rows and by columns. -/
theorem sum_rows_eq_sum_columns (h : Consistent m) {f : ρ → κ → σ → M}
    (alikeRows : ∀ a b c v, (a == b) = true → f a c v = f b c v)
    (alikeColumns : ∀ r a b v, (a == b) = true → f r a v = f r b v) :
    (m.rows.entries.map fun line =>
        (line.2.entries.map fun cell => f line.1 cell.1 cell.2).sum).sum =
      (m.cols.entries.map fun line =>
        (line.2.entries.map fun cell => f cell.1 line.1 cell.2).sum).sum := by
  have byRows : (m.rows.entries.map fun line =>
      (line.2.entries.map fun cell => f line.1 cell.1 cell.2).sum) =
      m.rows.keys.map fun r => (m.cols.keys.map fun c => (m.get? r c).elim 0 (f r c)).sum := by
    refine Eq.trans ?_ List.map_map.symm
    exact List.map_congr_left fun line mem => h.sum_row mem (alikeColumns line.1)
  have byColumns : (m.cols.entries.map fun line =>
      (line.2.entries.map fun cell => f cell.1 line.1 cell.2).sum) =
      m.cols.keys.map fun c =>
        (m.rows.keys.map fun r => (m.get? r c).elim 0 fun v => f r c v).sum := by
    refine Eq.trans ?_ List.map_map.symm
    exact List.map_congr_left fun line mem =>
      h.sum_column mem fun a b v same => alikeRows a b line.1 v same
  rw [byRows, byColumns]
  exact OrderedMap.sum_exchange _ _ fun r c => (m.get? r c).elim 0 (f r c)

/-- Counted row by row or column by column, there are as many pairs. -/
theorem nnz_eq (h : Consistent m) :
    m.nnz = (m.cols.values.flatMap OrderedMap.entries).length := by
  have count := h.sum_rows_eq_sum_columns (f := fun _ _ _ => 1)
    (fun _ _ _ _ _ => rfl) fun _ _ _ _ _ => rfl
  simpa [nnz, nonzeros, OrderedMap.values, List.length_flatMap, Function.comp_def] using count

end Consistent

end Decomposition.Incidence
