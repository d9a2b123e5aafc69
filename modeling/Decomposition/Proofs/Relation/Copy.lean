import Decomposition.Proofs.Relation.Adjoint
import Decomposition.Proofs.Relation.Selection

namespace Decomposition

namespace Incidence
variable {ρ κ σ : Type} [BEq ρ] [BEq κ]

/-- The same rows and the same columns are registered. -/
def RegistersAlike (m n : Incidence ρ κ σ) : Prop :=
  (∀ r, n.hasRow r = m.hasRow r) ∧ ∀ c, n.hasColumn c = m.hasColumn c

section Products
variable [BEq σ] [OfNat σ 0] [Add σ] [Mul σ] (m : Incidence ρ κ σ)

theorem contains_mul (x : OrderedMap κ σ) (r : ρ) : (m.mul x).contains r = m.hasRow r :=
  OrderedMap.contains_congr (m.keys_mul x) r

theorem contains_transposeMul (y : OrderedMap ρ σ) (c : κ) :
    (m.transposeMul y).contains c = m.hasColumn c :=
  OrderedMap.contains_congr (m.keys_transposeMul y) c

end Products

variable {m n : Incidence ρ κ σ}

/-- Without rounding the products are made of the stored pairs. Components that are not there count
as zero. -/
theorem mul_congr [EquivBEq κ] (same : ∀ r c, n.get? r c = m.get? r c) (read : σ → ℚ)
    (x : OrderedMap κ ℚ) (r : ρ) :
    ((n.map read).mul x).getD r 0 = ((m.map read).mul x).getD r 0 := by
  rw [getD_mul, getD_mul, row_map, row_map]
  exact dot_map_congr (same r) read x

theorem transposeMul_congr [EquivBEq ρ]
    (same : ∀ r c, (n.column c).get? r = (m.column c).get? r) (read : σ → ℚ)
    (y : OrderedMap ρ ℚ) (c : κ) :
    ((n.map read).transposeMul y).getD c 0 = ((m.map read).transposeMul y).getD c 0 := by
  rw [transposeMul_eq_mul, transposeMul_eq_mul, transpose_map, transpose_map]
  exact mul_congr (m := m.transpose) (n := n.transpose) (fun c r => same r c) read y c

end Incidence

namespace Relation
variable {κ σ : Type} [BEq κ] [EquivBEq κ] [BEq σ] [OfNat σ 0] {m : Relation κ σ}

/-- A copy selects everything. -/
theorem selects_copy (h : m.cells.Consistent) :
    m.Selects m.copy (fun _ => true) (fun _ => true) none :=
  selects_extract h (fun _ _ _ => rfl) (fun _ _ _ => rfl) m.capacity none

theorem consistent_copy (m : Relation κ σ) : m.copy.cells.Consistent :=
  .extract m.cells (fun _ => true) (fun _ => true) m.cells.rows.keys

theorem get?_copy (h : m.cells.Consistent) (r c : κ) :
    m.copy.cells.get? r c = m.cells.get? r c := by
  apply Option.ext
  intro v
  rw [(selects_copy h).pairs]
  simp [IsCandidate]

theorem column_get?_copy (h : m.cells.Consistent) (r c : κ) :
    (m.copy.cells.column c).get? r = (m.cells.column c).get? r := by
  rw [(consistent_copy m).agree, h.agree, get?_copy h]

/-- A copy registers a line if and only if it has a pair. -/
theorem hasRow_copy_iff (h : m.cells.Consistent) (r : κ) :
    m.copy.cells.hasRow r = true ↔ ∃ c v, m.cells.get? r c = some v := by
  rw [(selects_copy h).rows]
  simp only [get?_copy h]

theorem hasColumn_copy_iff (h : m.cells.Consistent) (c : κ) :
    m.copy.cells.hasColumn c = true ↔ ∃ r v, m.cells.get? r c = some v := by
  rw [(selects_copy h).columns]
  simp only [get?_copy h]

/-- Lines are lost if and only if some of them have no pair. -/
theorem registersAlike_copy_iff (h : m.cells.Consistent) :
    m.cells.RegistersAlike m.copy.cells ↔ m.cells.Tight := by
  constructor
  · rintro ⟨rows, columns⟩
    constructor
    · intro r registered
      exact (hasRow_copy_iff h r).1 ((rows r).trans registered)
    · intro c registered
      exact (hasColumn_copy_iff h c).1 ((columns c).trans registered)
  · intro tight
    constructor
    · intro r
      rw [Bool.eq_iff_iff, hasRow_copy_iff h]
      exact ⟨fun ⟨_, _, stored⟩ => Incidence.hasRow_of_get? stored, tight.rows r⟩
    · intro c
      rw [Bool.eq_iff_iff, hasColumn_copy_iff h]
      exact ⟨fun ⟨r, _, stored⟩ => Incidence.hasColumn_of_get? ((h.agree r c).trans stored),
        tight.columns c⟩

/-- A copy is mutable, has the same capacity and the same pairs, and without rounding its products
have the same components, where those that are missing count as zero. It registers the same rows and
columns, and so has the same components in its products, if and only if no line without a pair was
registered. -/
theorem copy_faithful_iff {m : Relation Ref Float} (reached : m.Reachable) :
    m.copy.frozen = false ∧ m.copy.capacity = m.capacity ∧ m.copy.WellIndexed ∧
    (∀ r c, m.copy.cells.get? r c = m.cells.get? r c) ∧
    (let a := m.cells.map Binary64.exact
      let b := m.copy.cells.map Binary64.exact
      ∀ x y : OrderedMap Ref ℚ, (∀ r, (b.mul x).getD r 0 = (a.mul x).getD r 0) ∧
        ∀ c, (b.transposeMul y).getD c 0 = (a.transposeMul y).getD c 0) ∧
    (m.cells.RegistersAlike m.copy.cells ↔ m.cells.Tight) ∧
    ∀ x y : OrderedMap Ref Float,
      ((∀ r, (m.copy.cells.mul x).contains r = (m.cells.mul x).contains r) ∧
        ∀ c, (m.copy.cells.transposeMul y).contains c = (m.cells.transposeMul y).contains c) ↔
        m.cells.Tight := by
  have h := reached.consistent
  refine ⟨rfl, rfl, wellIndexed_of_consistent (consistent_copy m), get?_copy h, ?_,
    registersAlike_copy_iff h, ?_⟩
  · intro a b x y
    constructor
    · exact Incidence.mul_congr (get?_copy h) Binary64.exact x
    · exact Incidence.transposeMul_congr (column_get?_copy h) Binary64.exact y
  · intro x y
    simp only [Incidence.contains_mul, Incidence.contains_transposeMul]
    exact registersAlike_copy_iff h

/-- The copy of a frozen relation has its pairs and can be written to. -/
theorem copy_faithful_smallRelation :
    smallRelation.freeze.Reachable ∧ smallRelation.freeze.copy.frozen = false ∧
      smallRelation.freeze.copy.cells.get? (Ident.ofConstr 2) (Ident.ofVar 1) = some 5 ∧
      ¬ smallRelation.freeze.cells.RegistersAlike smallRelation.freeze.copy.cells := by
  obtain ⟨mutable, _, _, pairs, _, registers, _⟩ := copy_faithful_iff reachable_smallRelation.freeze
  refine ⟨reachable_smallRelation.freeze, mutable, ?_, ?_⟩
  · rw [pairs]
    rfl
  · intro alike
    -- The third variable is registered and occurs in no constraint.
    obtain ⟨r, v, stored⟩ := (registers.1 alike).columns (Ident.ofVar 3) rfl
    rw [← reachable_smallRelation.freeze.consistent.agree] at stored
    cases stored

/-- A variable that was registered alone is no column of the copy, and has no component in its
products. -/
theorem copy_loses_column :
    smallRelation.Reachable ∧ smallRelation.cells.hasColumn (Ident.ofVar 3) = true ∧
      smallRelation.copy.cells.hasColumn (Ident.ofVar 3) = false ∧
      (smallRelation.cells.transposeMul .empty).contains (Ident.ofVar 3) = true ∧
      (smallRelation.copy.cells.transposeMul .empty).contains (Ident.ofVar 3) = false :=
  ⟨reachable_smallRelation, rfl, rfl, rfl, rfl⟩

end Relation

end Decomposition
