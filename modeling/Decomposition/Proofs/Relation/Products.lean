import Decomposition.Proofs.Relation.Extraction
import Mathlib.Data.List.Basic

namespace Decomposition.Incidence
variable {ρ κ σ : Type} [BEq ρ] [BEq κ] [BEq σ] [OfNat σ 0] [Add σ] [Mul σ]

theorem getD_mul (m : Incidence ρ κ σ) (x : OrderedMap κ σ) (r : ρ) :
    (m.mul x).getD r 0 = dot (m.row r) x := by
  rw [mul, OrderedMap.getD_eq, OrderedMap.get?_map, row_eq]
  cases m.rows.get? r <;> rfl

theorem getD_transposeMul (m : Incidence ρ κ σ) (y : OrderedMap ρ σ) (c : κ) :
    (m.transposeMul y).getD c 0 = dot (m.column c) y := by
  rw [transposeMul, OrderedMap.getD_eq, OrderedMap.get?_map, column_eq]
  cases m.cols.get? c <;> rfl

/-- The product of one column with a vector, added up along a list of rows. Rows without a
coefficient or without a nonzero factor are passed over. -/
def columnProduct (m : Incidence ρ κ σ) (rows : List ρ) (c : κ) (y : OrderedMap ρ σ) : σ :=
  rows.foldl
    (fun total r =>
      match m.get? r c, y.get? r with
      | some a, some v => if v == 0 then total else total + a * v
      | _, _ => total)
    0

/-- Only the coefficients and the factors at the listed rows count. -/
theorem columnProduct_congr {m n : Incidence ρ κ σ} {rows : List ρ} {c : κ}
    {y z : OrderedMap ρ σ} (coefficients : ∀ r ∈ rows, m.get? r c = n.get? r c)
    (factors : ∀ r ∈ rows, y.get? r = z.get? r) :
    m.columnProduct rows c y = n.columnProduct rows c z :=
  List.foldl_ext _ _ _ fun _ r mem => by rw [coefficients r mem, factors r mem]

/-- The columns of an extraction are multiplied in the order of the candidate rows. -/
theorem dot_column_extract [EquivBEq κ] {m : Incidence ρ κ σ}
    (nonzero : ∀ r c v, m.get? r c = some v → (v == 0) = false) {keepColumn : κ → Bool}
    (alike : ∀ a b, (a == b) = true → keepColumn a = keepColumn b) (keepRow : ρ → Bool)
    {candidates : List ρ} (distinct : candidates.Pairwise fun a b => (a == b) = false) {c : κ}
    (keep : keepColumn c = true) (y : OrderedMap ρ σ) :
    dot ((m.extract keepRow keepColumn (some candidates)).column c) y =
      m.columnProduct (candidates.filter keepRow) c y := by
  rw [dot, column_extract nonzero alike keepRow distinct keep, columnPairs, List.foldl_filterMap,
    columnProduct]
  congr 1
  funext total r
  cases m.get? r c with
  | none => rfl
  | some a => cases look : y.get? r <;> simp [look]

end Decomposition.Incidence
