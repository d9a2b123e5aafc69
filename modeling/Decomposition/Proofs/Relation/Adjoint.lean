import Decomposition.Proofs.Number.Exact
import Decomposition.Proofs.Relation.RationalProducts
import Decomposition.Proofs.Relation.Replacement
import Mathlib.Tactic.Ring

namespace Decomposition

namespace Incidence
variable {ρ κ σ : Type} [BEq ρ] [BEq κ]

section Keys
variable [BEq σ] [OfNat σ 0] [Add σ] [Mul σ] (m : Incidence ρ κ σ)

/-- There is one component for each registered row, whatever the factors are. -/
@[simp] theorem keys_mul (x : OrderedMap κ σ) : (m.mul x).keys = m.rows.keys :=
  m.rows.keys_map _

@[simp] theorem keys_transposeMul (y : OrderedMap ρ σ) : (m.transposeMul y).keys = m.cols.keys :=
  m.cols.keys_map _

/-- A product from the left is a product from the right, seen from the other side. -/
theorem transposeMul_eq_mul (y : OrderedMap ρ σ) : m.transposeMul y = m.transpose.mul y := rfl

end Keys

theorem transpose_map {τ : Type} (m : Incidence ρ κ σ) (read : σ → τ) :
    (m.map read).transpose = m.transpose.map read := rfl

/-- The components of a product, weighted and summed up over the stored pairs. -/
theorem sum_mul (m : Incidence ρ κ σ) (read : σ → ℚ) (x : OrderedMap κ ℚ) (weight : ρ → ℚ) :
    (((m.map read).mul x).entries.map fun row => weight row.1 * row.2).sum =
      (m.rows.entries.map fun line =>
        (line.2.entries.map fun cell =>
          weight line.1 * (read cell.2 * x.getD cell.1 0)).sum).sum := by
  simp only [mul, map, OrderedMap.entries_map, List.map_map]
  apply congrArg List.sum
  apply List.map_congr_left
  intro line _
  simp only [Function.comp_apply, dot_eq_sum, OrderedMap.entries_map, List.map_map]
  exact (List.sum_map_mul_left _ _ _).symm

variable [EquivBEq ρ] [EquivBEq κ] [BEq σ] [OfNat σ 0] {m : Incidence ρ κ σ}

/-- Weighted by the factors of the other product, both products have the same sum. -/
theorem Consistent.sum_mul_eq_sum_transposeMul (h : Consistent m) (read : σ → ℚ)
    (x : OrderedMap κ ℚ) (y : OrderedMap ρ ℚ) :
    (((m.map read).mul x).entries.map fun row => y.getD row.1 0 * row.2).sum =
      (((m.map read).transposeMul y).entries.map fun column =>
        column.2 * x.getD column.1 0).sum := by
  have alikeRows (a b : ρ) (c : κ) (v : σ) (same : (a == b) = true) :
      y.getD a 0 * (read v * x.getD c 0) = y.getD b 0 * (read v * x.getD c 0) := by
    simp only [OrderedMap.getD_eq, y.get?_congr same]
  have alikeColumns (r : ρ) (a b : κ) (v : σ) (same : (a == b) = true) :
      y.getD r 0 * (read v * x.getD a 0) = y.getD r 0 * (read v * x.getD b 0) := by
    simp only [OrderedMap.getD_eq, x.get?_congr same]
  calc (((m.map read).mul x).entries.map fun row => y.getD row.1 0 * row.2).sum
      = (m.rows.entries.map fun line => (line.2.entries.map fun cell =>
          y.getD line.1 0 * (read cell.2 * x.getD cell.1 0)).sum).sum :=
        m.sum_mul read x fun r => y.getD r 0
    _ = (m.cols.entries.map fun line => (line.2.entries.map fun cell =>
          y.getD cell.1 0 * (read cell.2 * x.getD line.1 0)).sum).sum :=
        h.sum_rows_eq_sum_columns alikeRows alikeColumns
    _ = (m.cols.entries.map fun line => (line.2.entries.map fun cell =>
          x.getD line.1 0 * (read cell.2 * y.getD cell.1 0)).sum).sum := by
        apply congrArg List.sum
        apply List.map_congr_left
        intro line _
        apply congrArg List.sum
        apply List.map_congr_left
        intro cell _
        ring
    _ = (((m.map read).transposeMul y).entries.map fun column =>
          x.getD column.1 0 * column.2).sum := by
        rw [transposeMul_eq_mul, transpose_map]
        exact (m.transpose.sum_mul read y fun c => x.getD c 0).symm
    _ = (((m.map read).transposeMul y).entries.map fun column =>
          column.2 * x.getD column.1 0).sum := by
        simp only [mul_comm]

end Incidence

namespace Relation

/-- A product has one component for each registered line of its side, and no other. Without
rounding, the rows' components weighted by one vector and the columns' components weighted by the
other have the same sum. Keys that a vector lacks or that the relation does not know make no
difference. -/
theorem mul_transposeMul_adjoint {m : Relation Ref Float} (reached : m.Reachable) :
    (∀ x : OrderedMap Ref Float, (m.cells.mul x).keys = m.cells.rows.keys ∧
      (m.cells.transposeMul x).keys = m.cells.cols.keys) ∧
    let a := m.cells.map Binary64.exact
    ∀ x y : OrderedMap Ref ℚ,
      (a.mul x).keys = m.cells.rows.keys ∧ (a.transposeMul y).keys = m.cells.cols.keys ∧
      ((a.mul x).entries.map fun row => y.getD row.1 0 * row.2).sum =
        ((a.transposeMul y).entries.map fun column => column.2 * x.getD column.1 0).sum := by
  constructor
  · intro x
    exact ⟨m.cells.keys_mul x, m.cells.keys_transposeMul x⟩
  · intro a x y
    have rows : a.rows.keys = m.cells.rows.keys := m.cells.rows.keys_map _
    have columns : a.cols.keys = m.cells.cols.keys := m.cells.cols.keys_map _
    refine ⟨?_, ?_, ?_⟩
    · rw [Incidence.keys_mul, rows]
    · rw [Incidence.keys_transposeMul, columns]
    · exact reached.consistent.sum_mul_eq_sum_transposeMul Binary64.exact x y

/-- The factors of the columns lack the third variable, have a zero and name a ninth one. Those of
the rows name a constraint that does not exist. -/
theorem mul_transposeMul_smallRelation :
    let x : OrderedMap Ref ℚ :=
      .ofList [(Ident.ofVar 1, 1 / 3), (Ident.ofVar 2, 0), (Ident.ofVar 9, 5)]
    let y : OrderedMap Ref ℚ := .ofList [(Ident.ofConstr 2, 7), (Ident.ofConstr 8, 1)]
    let a := smallRelation.cells.map Binary64.exact
    smallRelation.Reachable ∧
      (a.mul x).keys = [1, 2].map (fun uid => Ref.ident (.ofConstr uid)) ∧
      (a.transposeMul y).keys = [1, 2, 3].map (fun uid => Ref.ident (.ofVar uid)) ∧
      ((a.mul x).entries.map fun row => y.getD row.1 0 * row.2).sum =
        ((a.transposeMul y).entries.map fun column => column.2 * x.getD column.1 0).sum := by
  intro x y a
  obtain ⟨_, products⟩ := mul_transposeMul_adjoint reachable_smallRelation
  exact ⟨reachable_smallRelation, products x y⟩

end Relation

end Decomposition
