import Decomposition.Formulation.Clone
import Decomposition.Formulation.Optimize
import Decomposition.Proofs.Entity
import Decomposition.Proofs.Outcome
import Decomposition.Proofs.Relation.Histories

namespace Decomposition

/-- Variables stand under identifiers of variables, constraints under those of constraints. -/
def Element.WellKinded : Element → Prop
  | .variable v => v.id.kind = .variable
  | .constraint c => ∃ id : Ident, c.id = .ident id ∧ id.kind = .constraint

theorem Element.WellKinded.named {e : Element} (kinded : e.WellKinded) :
    ∃ id : Ident, e.id = .ident id := by
  rcases e with v | c
  · exact ⟨v.id, rfl⟩
  · obtain ⟨id, own, _⟩ := kinded
    exact ⟨id, own⟩

theorem Element.WellKinded.isKey {e : Element} (kinded : e.WellKinded) : e.id.isKey = true := by
  obtain ⟨id, own⟩ := kinded.named
  rw [own]
  rfl

/-- What is no entity is refused, so its kind does not matter. -/
def Given.WellKinded : Given → Prop
  | .element e => e.WellKinded
  | .other _ => True

/-- If an entity is given, it has the property. -/
def Given.Has (P : Element → Prop) : Given → Prop
  | .element e => P e
  | .other _ => True

theorem Given.Has.imp {P Q : Element → Prop} {given : Given} (has : given.Has P)
    (weaker : ∀ e, P e → Q e) : given.Has Q := by
  cases given with
  | element e => exact weaker e has
  | other d => trivial

namespace Formulation

/-- One call with its arguments. An entity may belong to several formulations, so that its current
values also change from outside. -/
inductive Operation where
  | add (given : Given) (membership : Option Values)
  | addAll (elements : List Given) (memberships : Option (List (Option Values)))
  | createVariable (uid : Int) (draft : Draft VarData) (column : Option Values)
  | createConstraint (uid : Int) (draft : Draft ConstrData) (row : Option Values)
  /-- One entity is cloned into the formulation without its coefficients. -/
  | cloneElement (source : Int) (e : Element) (mark : Mark)
  | cloneFrom (source : Formulation) (mark : Mark) (refs : List Ref)
  | cloneWithin (mark : Mark) (refs : List Ref)
  | setCost (ref : Ref) (cost : Float)
  | setBounds (ref : Ref) (lb ub : Option Float)
  | setRhs (ref : Ref) (rhs : Float)
  | setActive (ref : Ref) (active : Bool)
  | reset (refs : Option (List Ref))
  /-- Current values are changed through the entity itself. -/
  | changeVariable (ref : Ref) (change : VarData → VarData)
  | changeConstraint (ref : Ref) (change : ConstrData → ConstrData)
  /-- Coefficients are written without the help of an entity. -/
  | writeCells (write : Relation.Write Ref Float)
  | setCoefficient (row column : Ref) (v : Float)
  | freeze
  | registerSense (minimize : Bool)
  | improvePrimalBound (bound : Float)
  | improveDualBound (bound : Float)
  | optimize (solver : Option (Formulation → Except Fault Report)) (update : Bool)

namespace Operation

/-- A refused change leaves the formulation as it was. -/
def settled (f : Formulation) (change : Except Fault Formulation) : Formulation :=
  (Outcome.ofChange f change).state

/-- The formulation that an operation leaves, whether it was refused or not. -/
def after (f : Formulation) : Operation → Formulation
  | .add given membership => (f.add given membership).state
  | .addAll elements memberships => (f.addAll elements memberships).state
  | .createVariable uid draft column => (f.createVariable uid draft column).state
  | .createConstraint uid draft row => (f.createConstraint uid draft row).state
  | .cloneElement source e mark => (f.cloneElement source e mark).state
  | .cloneFrom source mark refs => (source.cloneInto f mark refs).state
  | .cloneWithin mark refs => (f.cloneWithin mark refs).state
  | .setCost ref cost => settled f (f.setCost ref cost)
  | .setBounds ref lb ub => settled f (f.setBounds ref lb ub)
  | .setRhs ref rhs => settled f (f.setRhs ref rhs)
  | .setActive ref active => settled f (f.setActive ref active)
  | .reset refs => (f.reset refs).state
  | .changeVariable ref change => settled f (f.modifyVariable ref (·.mapCurrent change))
  | .changeConstraint ref change => settled f (f.modifyConstraint ref (·.mapCurrent change))
  | .writeCells write => (f.writeCoefficients (f.coefficients.perform write)).state
  | .setCoefficient row column v => (f.setCoefficient row column v).state
  | .freeze => { f with coefficients := f.coefficients.freeze }
  | .registerSense minimize => settled f (f.registerSense minimize)
  | .improvePrimalBound bound => (f.improvePrimalBound bound).1
  | .improveDualBound bound => (f.improveDualBound bound).1
  | .optimize solver update => (f.optimize solver update).state

/-- Entities from outside are of the kind that their identifiers say. -/
def WellKinded : Operation → Prop
  | .add given _ => given.WellKinded
  | .addAll elements _ => ∀ given ∈ elements, given.WellKinded
  | .cloneElement _ e _ => e.WellKinded
  | _ => True

/-- Entities from outside have the property. -/
def Gives (P : Element → Prop) : Operation → Prop
  | .add given _ => given.Has P
  | .addAll elements _ => ∀ given ∈ elements, given.Has P
  | .cloneElement _ e _ => P e
  | _ => True

theorem Gives.imp {P Q : Element → Prop} {op : Operation} (gives : op.Gives P)
    (weaker : ∀ e, P e → Q e) : op.Gives Q := by
  cases op with
  | add given membership => exact Given.Has.imp gives weaker
  | addAll elements memberships => exact fun given mem => (gives given mem).imp weaker
  | cloneElement source e mark => exact weaker e gives
  | _ => trivial

theorem gives_of_wellKinded {op : Operation} (allowed : op.WellKinded) :
    op.Gives Element.WellKinded := by
  cases op <;> exact allowed

/-- The operation stores no entity. -/
def Quiet : Operation → Prop
  | .add _ _ | .addAll _ _ | .createVariable _ _ _ | .createConstraint _ _ _
  | .cloneElement _ _ _ | .cloneFrom _ _ _ | .cloneWithin _ _ => False
  | _ => True

/-- What a change leaves alone if it succeeds is left alone in any case. -/
theorem read_settled {α : Type} (read : Formulation → α) {f : Formulation}
    {change : Except Fault Formulation} (same : ∀ g, change = .ok g → read g = read f) :
    read (settled f change) = read f := by
  cases change with
  | error fault => rfl
  | ok g => exact same g rfl

/-- The other formulation that an operation reads. -/
def source? : Operation → Option Formulation
  | .cloneFrom source _ _ => some source
  | _ => none

end Operation

/-- The formulations that histories of permitted operations lead to. What is cloned comes from such
a formulation as well. -/
inductive ReachableBy (permitted : Operation → Prop) : Formulation → Prop
  | empty (uid : Int) (duty : FormDuty) (parent : Option Int) :
      ReachableBy permitted (.empty uid duty parent)
  | step {f : Formulation} (reached : ReachableBy permitted f) (op : Operation)
      (allowed : permitted op)
      (source : ∀ g, op.source? = some g → ReachableBy permitted g) :
      ReachableBy permitted (op.after f)

/-- The formulations that any history leads to. -/
abbrev Reachable : Formulation → Prop := ReachableBy Operation.WellKinded

/-- Optimising writes the best solutions and nothing else. -/
theorem optimize_state (f : Formulation) (solver : Option (Formulation → Except Fault Report))
    (update : Bool) :
    ∃ bestPrimal bestDual,
      (f.optimize solver update).state =
        { f with bestPrimal := bestPrimal, bestDual := bestDual } := by
  unfold optimize conclude record
  split
  · exact ⟨_, _, rfl⟩
  · split
    · exact ⟨_, _, rfl⟩
    · cases update with
      | false => exact ⟨_, _, rfl⟩
      | true =>
          rw [if_pos rfl, Outcome.ok_state]
          split <;> exact ⟨_, _, rfl⟩

theorem improvePrimalBound_fst (f : Formulation) (bound : Float) :
    ∃ primalBound, (f.improvePrimalBound bound).1 = { f with primalBound := primalBound } := by
  unfold improvePrimalBound
  split <;> exact ⟨_, rfl⟩

theorem improveDualBound_fst (f : Formulation) (bound : Float) :
    ∃ dualBound, (f.improveDualBound bound).1 = { f with dualBound := dualBound } := by
  unfold improveDualBound
  split <;> exact ⟨_, rfl⟩

/-- The formulation that a list of operations leaves. -/
def run (f : Formulation) (operations : List Operation) : Formulation :=
  operations.foldl Operation.after f

theorem ReachableBy.run {permitted : Operation → Prop} {f : Formulation}
    (reached : ReachableBy permitted f) {operations : List Operation}
    (allowed : ∀ op ∈ operations, permitted op ∧ op.source? = none) :
    ReachableBy permitted (f.run operations) := by
  refine operations.foldlRecOn _ reached fun g here op mem => ?_
  obtain ⟨permits, alone⟩ := allowed op mem
  exact .step here op permits fun source read => by rw [alone] at read; cases read

end Formulation

end Decomposition
