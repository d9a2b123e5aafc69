import Decomposition.Proofs.Relation.Extraction
import Decomposition.Proofs.Relation.Histories

namespace Decomposition.Relation
variable {κ σ : Type} [BEq κ] [BEq σ] [OfNat σ 0]

/-- A refused write leaves the relation as it was. -/
inductive Reachable : Relation κ σ → Prop
  | empty (capacity : Option Int) : Reachable (.empty capacity)
  | write {m : Relation κ σ} (reached : Reachable m) (write : Write κ σ) :
      Reachable (m.attempt write)
  | freeze {m : Relation κ σ} (reached : Reachable m) : Reachable m.freeze
  | extract {m : Relation κ σ} (reached : Reachable m) (keepRow keepColumn : κ → Bool)
      (capacity : Option Int) (candidates : Option (List κ)) :
      Reachable (m.extract keepRow keepColumn capacity candidates)

theorem Reachable.consistent [EquivBEq κ] {m : Relation κ σ} (reached : m.Reachable) :
    m.cells.Consistent := by
  induction reached with
  | empty => exact .empty
  | write _ write ih => exact attempt_consistent ih write
  | freeze _ ih => exact ih
  | extract _ keepRow keepColumn _ candidates _ =>
      exact .extract _ keepRow keepColumn (candidates.getD _)

/-- Two constraints on two variables, and a third variable that is registered alone. -/
def smallRelation : Relation Ref Float :=
  let writes : List (Write Ref Float) :=
    [.addRow (Ident.ofConstr 1) (.ofList [(Ident.ofVar 1, 2), (Ident.ofVar 2, 3)]),
      .addRow (Ident.ofConstr 2) (.ofList [(Ident.ofVar 2, 4), (Ident.ofVar 1, 5)]),
      .addColumn (Ident.ofVar 3) .empty]
  writes.foldl attempt (.empty none)

theorem reachable_smallRelation : smallRelation.Reachable :=
  (((Reachable.empty none).write _).write _).write _

end Decomposition.Relation
