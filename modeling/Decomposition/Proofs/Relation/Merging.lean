import Decomposition.Proofs.Relation.Consistency

namespace Decomposition.Incidence
variable {ρ κ σ : Type} [BEq ρ] [BEq κ] [EquivBEq ρ] [EquivBEq κ] [BEq σ] [OfNat σ 0]

/-- Writes at distinct pairs are all found afterwards, and nothing else changes. -/
theorem get?_writes {α : Type} (row : α → ρ) (column : α → κ) {items : List (α × σ)}
    (distinct : items.Pairwise fun p q => (row p.1 == row q.1 && column p.1 == column q.1) = false)
    (into : Incidence ρ κ σ) (a : ρ) (b : κ) :
    (items.foldl (fun n item => n.set (row item.1) (column item.1) item.2) into).get? a b =
      ((items.find? fun item => row item.1 == a && column item.1 == b).map (·.2)).elim
        (into.get? a b) kept := by
  induction items generalizing into with
  | nil => rfl
  | cons head rest ih =>
      obtain ⟨apart, restDistinct⟩ := List.pairwise_cons.1 distinct
      rw [List.foldl_cons, ih restDistinct, get?_set]
      by_cases here : (row head.1 == a && column head.1 == b) = true
      · obtain ⟨sameRow, sameColumn⟩ := Bool.and_eq_true_iff.1 here
        have absent : (rest.find? fun item => row item.1 == a && column item.1 == b) = none := by
          refine List.find?_eq_none.2 fun item mem found => ?_
          obtain ⟨otherRow, otherColumn⟩ := Bool.and_eq_true_iff.1 found
          have different := apart item mem
          rw [BEq.trans sameRow (BEq.symm otherRow),
            BEq.trans sameColumn (BEq.symm otherColumn)] at different
          cases different
        simp [here, absent]
      · simp [here]

section Lines
variable (m : Incidence ρ κ σ)

theorem get?_addRow (r : ρ) (members : OrderedMap κ σ) (a : ρ) (b : κ) :
    (m.addRow r members).get? a b =
      if r == a then (members.get? b).elim (m.get? a b) kept else m.get? a b := by
  have distinct : members.entries.Pairwise fun p q => (r == r && p.1 == q.1) = false :=
    members.distinct.imp fun apart => by rw [apart, Bool.and_false]
  have registered : (m.registerRow r).get? a b = m.get? a b := by
    rw [get?, row_registerRow, get?]
  have written := get?_writes (fun _ => r) id distinct (m.registerRow r) a b
  refine written.trans ?_
  rw [registered]
  by_cases here : (r == a) = true
  · simp [here, OrderedMap.get?, OrderedMap.binding?]
  · rw [List.find?_eq_none.2 fun _ _ => by simp [here], if_neg here]
    rfl

theorem get?_addColumn (c : κ) (members : OrderedMap ρ σ) (a : ρ) (b : κ) :
    (m.addColumn c members).get? a b =
      if c == b then (members.get? a).elim (m.get? a b) kept else m.get? a b := by
  have distinct : members.entries.Pairwise fun p q => (p.1 == q.1 && c == c) = false :=
    members.distinct.imp fun apart => by rw [apart, Bool.false_and]
  have written := get?_writes id (fun _ => c) distinct (m.registerColumn c) a b
  refine written.trans ?_
  by_cases here : (c == b) = true
  · simp [here, OrderedMap.get?, OrderedMap.binding?, registerColumn, get?, row]
  · rw [List.find?_eq_none.2 fun _ _ => by simp [here], if_neg here]
    rfl

/-- Registering a row changes no pair. -/
theorem get?_addRow_empty (r a : ρ) (b : κ) : (m.addRow r .empty).get? a b = m.get? a b := by
  rw [get?_addRow]
  split <;> rfl

theorem get?_addColumn_empty (c : κ) (a : ρ) (b : κ) :
    (m.addColumn c .empty).get? a b = m.get? a b := by
  rw [get?_addColumn]
  split <;> rfl

/-- The row of another relation is merged into the same row. -/
theorem get?_addRow_row {source : Incidence ρ κ σ} (consistent : Consistent source) {r row : ρ}
    (same : (row == r) = true) (a : ρ) (b : κ) :
    (m.addRow row (source.row r)).get? a b =
      (if r == a then source.get? a b else none).or (m.get? a b) := by
  rw [get?_addRow, OrderedMap.beq_congr_left same]
  by_cases here : (r == a) = true
  · rw [if_pos here, if_pos here, source.row_congr here]
    cases found : source.get? a b with
    | none =>
        rw [get?] at found
        rw [found]
        rfl
    | some v =>
        have nonzero := consistent.nonzero a b v found
        rw [get?] at found
        rw [found]
        simp [kept, nonzero]
  · rw [if_neg here, if_neg here]
    rfl

/-- The column of another relation is merged into the same column. -/
theorem get?_addColumn_column {source : Incidence ρ κ σ} (consistent : Consistent source)
    {c column : κ} (same : (column == c) = true) (a : ρ) (b : κ) :
    (m.addColumn column (source.column c)).get? a b =
      (if c == b then source.get? a b else none).or (m.get? a b) := by
  rw [get?_addColumn, OrderedMap.beq_congr_left same]
  by_cases here : (c == b) = true
  · rw [if_pos here, if_pos here, source.column_congr here, consistent.agree]
    cases found : source.get? a b with
    | none => rfl
    | some v => simp [kept, consistent.nonzero a b v found]
  · rw [if_neg here, if_neg here]
    rfl

end Lines

end Decomposition.Incidence
