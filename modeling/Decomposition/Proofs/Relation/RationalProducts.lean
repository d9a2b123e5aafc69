import Decomposition.Proofs.OrderedMap.Sums
import Decomposition.Proofs.Relation.Products
import Mathlib.Algebra.BigOperators.Ring.List
import Mathlib.Algebra.Ring.Rat

namespace Decomposition.Incidence
variable {ρ κ σ : Type} [BEq ρ] [BEq κ]

theorem row_map {τ : Type} (m : Incidence ρ κ σ) (read : σ → τ) (r : ρ) :
    (m.map read).row r = (m.row r).map fun _ v => read v := by
  rw [row_eq, map, OrderedMap.get?_map, row_eq]
  cases m.rows.get? r <;> rfl

theorem column_map {τ : Type} (m : Incidence ρ κ σ) (read : σ → τ) (c : κ) :
    (m.map read).column c = (m.column c).map fun _ v => read v := by
  rw [column_eq, map, OrderedMap.get?_map, column_eq]
  cases m.cols.get? c <;> rfl

/-- A factor that is absent or zero adds nothing. -/
theorem dot_eq_sum (line x : OrderedMap κ ℚ) :
    dot line x = (line.entries.map fun cell => cell.2 * x.getD cell.1 0).sum := by
  rw [dot, List.sum_eq_foldl, List.foldl_map]
  congr 1
  funext total cell
  rw [OrderedMap.getD_eq]
  cases x.get? cell.1 with
  | none => simp
  | some v => by_cases zero : v = 0 <;> simp [zero]

variable [EquivBEq κ]

/-- The product of a line that is read as rationals, summed up along any distinct keys that have
all of its keys. -/
theorem dot_map (line : OrderedMap κ σ) (read : σ → ℚ) (x : OrderedMap κ ℚ) {keys : List κ}
    (distinct : keys.Pairwise fun a b => (a == b) = false)
    (listed : ∀ key, line.contains key = true → ∃ other ∈ keys, (key == other) = true) :
    dot (line.map fun _ v => read v) x =
      (keys.map fun key => (line.get? key).elim 0 read * x.getD key 0).sum := by
  have alike (a b : κ) (v : σ) (same : (a == b) = true) :
      read v * x.getD a 0 = read v * x.getD b 0 := by
    rw [OrderedMap.getD_eq, OrderedMap.getD_eq, x.get?_congr same]
  rw [dot_eq_sum, OrderedMap.entries_map, List.map_map]
  refine (line.sum_entries distinct listed alike).trans ?_
  refine congrArg List.sum (List.map_congr_left fun key _ => ?_)
  cases line.get? key <;> simp

/-- Without rounding the order of a line makes no difference. -/
theorem dot_map_congr {line other : OrderedMap κ σ} (same : ∀ key, line.get? key = other.get? key)
    (read : σ → ℚ) (x : OrderedMap κ ℚ) :
    dot (line.map fun _ v => read v) x = dot (other.map fun _ v => read v) x := by
  have listed (key : κ) (stored : line.contains key = true) :
      ∃ entry ∈ line.keys, (key == entry) = true := by
    obtain ⟨entry, mem, equal⟩ := (line.contains_iff key).1 stored
    exact ⟨entry, mem, BEq.symm equal⟩
  have listedOther (key : κ) (stored : other.contains key = true) :
      ∃ entry ∈ line.keys, (key == entry) = true := by
    rw [OrderedMap.contains_eq_isSome, ← same, ← OrderedMap.contains_eq_isSome] at stored
    exact listed key stored
  rw [dot_map line read x line.keys_distinct listed,
    dot_map other read x line.keys_distinct listedOther]
  simp only [same]

end Decomposition.Incidence
