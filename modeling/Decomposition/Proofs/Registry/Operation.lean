import Decomposition.Proofs.Formulation.Operation
import Decomposition.Proofs.OrderedMap
import Decomposition.Registry

namespace Decomposition.Registry

section Lookups
variable {r : Registry}

theorem get_eq_ok_iff {uid : Int} {f : Formulation} :
    r.get uid = .ok f ↔ r.forms.get? uid = some f := by
  unfold get
  split <;> simp_all

theorem get_put (r : Registry) (f : Formulation) (uid : Int) :
    (r.put f).get uid = if f.uid = uid then .ok f else r.get uid := by
  have look : (r.put f).forms.get? uid = if f.uid = uid then some f else r.forms.get? uid := by
    rw [put, OrderedMap.get?_insert]
    simp only [beq_iff_eq]
  unfold get
  rw [look]
  by_cases same : f.uid = uid
  · rw [if_pos same, if_pos same]
  · rw [if_neg same, if_neg same]

theorem onForm_of_get {α : Type} {uid : Int} {f : Formulation} (found : r.get uid = .ok f)
    (change : Formulation → Outcome Formulation α) :
    r.onForm uid change = ⟨r.put (change f).state, (change f).result⟩ := by
  rw [onForm, found]

/-- The registry is left as it was, or one of its formulations is changed. -/
theorem onForm_state {α : Type} (r : Registry) (uid : Int)
    (change : Formulation → Outcome Formulation α) :
    (r.onForm uid change).state = r ∨
      ∃ f, r.get uid = .ok f ∧ (r.onForm uid change).state = r.put (change f).state := by
  cases look : r.get uid with
  | error fault =>
      rw [onForm, look]
      exact .inl rfl
  | ok f =>
      rw [onForm_of_get look]
      exact .inr ⟨f, rfl, rfl⟩

theorem exists_of_onForm_eq_ok {α : Type} {uid : Int}
    {change : Formulation → Outcome Formulation α} {a : α}
    (done : (r.onForm uid change).result = .ok a) : ∃ f, (change f).result = .ok a := by
  cases look : r.get uid with
  | error fault =>
      rw [onForm, look] at done
      cases done
  | ok f =>
      rw [onForm_of_get look] at done
      exact ⟨f, done⟩

end Lookups

/-- One call with its arguments. -/
inductive Operation where
  | newFormulation (duty : FormDuty) (parent : Option Parent)
  | createVariable (form : Int) (draft : Formulation.Draft VarData) (column : Option Values)
  | createConstraint (form : Int) (draft : Formulation.Draft ConstrData) (row : Option Values)
  | clone (source dest : Int) (mark : Formulation.Mark) (refs : List Ref)
  | change (form : Int) (op : Formulation.Operation)

namespace Operation

/-- The registry that an operation leaves, whether it was refused or not. -/
def after (r : Registry) : Operation → Registry
  | .newFormulation duty parent =>
      match r.newFormulation duty parent with
      | .ok (next, _) => next
      | .error _ => r
  | .createVariable form draft column => (r.createVariable form draft column).state
  | .createConstraint form draft row => (r.createConstraint form draft row).state
  | .clone source dest mark refs => (r.clone source dest mark refs).state
  | .change form op => (r.onForm form fun f => .ok (op.after f) ()).state

/-- Entities come from creations and clonings alone. -/
def Quiet : Operation → Prop
  | .change _ op => op.Quiet
  | _ => True

end Operation

/-- The registries that histories lead to. -/
inductive Reachable : Registry → Prop
  | empty : Reachable .empty
  | step {r : Registry} (reached : Reachable r) (op : Operation) (quiet : op.Quiet) :
      Reachable (op.after r)

theorem Reachable.run {r : Registry} (reached : Reachable r) {operations : List Operation}
    (quiet : ∀ op ∈ operations, op.Quiet) : Reachable (operations.foldl Operation.after r) :=
  operations.foldlRecOn _ reached fun _ here op mem => .step here op (quiet op mem)

end Decomposition.Registry
