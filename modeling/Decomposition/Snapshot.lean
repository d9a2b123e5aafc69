import Decomposition.Formulation.Basic

namespace Decomposition

namespace Snapshot

/-- The duty is asked of explicit constraints alone. -/
def isCoupling (c : Constraint) : Except Fault Bool :=
  if c.isExplicit then c.duty.map fun duty => !Category.convexityConstr duty else .ok false

/-- The constraints that a snapshot keeps, in the order of the store: the active and explicit ones
that are not convexity constraints. A snapshot is refused when one of them has no duty. -/
def keptConstraints (master : Formulation) : Except Fault (List Ref) :=
  master.constrIds ⟨none, some isCoupling, true⟩

def submatrix (master : Formulation) (rows : List Ref) (columns : List Ident)
    (capacity : Option Int) : Relation Ref Float :=
  let columnRefs := columns.map Ref.ident
  (master.coefficients.extract rows.contains columnRefs.contains capacity (some rows)).freeze

end Snapshot

/-- Costs and coefficients of one group of variables. -/
structure PricedGroup (σ : Type) where
  costs : OrderedMap Ident σ
  matrix : Relation Ref σ

namespace PricedGroup

def ofMaster (master : Formulation) (category : Category) (rows : List Ref)
    (capacity : Option Int) : PricedGroup Float :=
  let priced := master.vars.filter fun _ v => v.isActive && category v.id.duty
  ⟨priced.map fun _ v => v.perennial.cost, Snapshot.submatrix master rows priced.keys capacity⟩

/-- The numbers are read in another way, the identifiers stay. -/
def map {σ τ : Type} (g : PricedGroup σ) (f : σ → τ) : PricedGroup τ :=
  ⟨g.costs.map fun _ c => f c, g.matrix.map f⟩

variable {σ : Type} [BEq σ] [OfNat σ 0] [Add σ] [Mul σ] [Sub σ]

def reducedCosts (g : PricedGroup σ) (duals : OrderedMap Ref σ) : OrderedMap Ident σ :=
  let contribution := g.matrix.cells.transposeMul duals
  g.costs.map fun id cost => cost - contribution.getD id 0

end PricedGroup

/-- Costs and coefficients for the evaluation of reduced costs, apart for the representatives of
subproblem variables and the pure master variables. -/
structure PricingSnapshot (σ : Type) where
  subproblem : PricedGroup σ
  pure : PricedGroup σ

namespace PricingSnapshot

def ofMaster (master : Formulation) (capacity : Option Int) :
    Except Fault (PricingSnapshot Float) :=
  (Snapshot.keptConstraints master).map fun rows =>
    ⟨.ofMaster master Category.masterRepDwSpVar rows capacity,
      .ofMaster master Category.originMasterVar rows capacity⟩

def map {σ τ : Type} (s : PricingSnapshot σ) (f : σ → τ) : PricingSnapshot τ :=
  ⟨s.subproblem.map f, s.pure.map f⟩

def describe {σ : Type} (s : PricingSnapshot σ) : String :=
  "ReducedCostsCalculationHelper(dw_subprob_vars=" ++ toString s.subproblem.costs.size
    ++ ", master_vars=" ++ toString s.pure.costs.size ++ ")"

variable {σ : Type} [BEq σ] [OfNat σ 0] [Add σ] [Mul σ] [Sub σ]

/-- The reduced costs of the subproblem representatives and of the pure master variables. -/
def reducedCosts (s : PricingSnapshot σ) (duals : OrderedMap Ref σ) :
    OrderedMap Ident σ × OrderedMap Ident σ :=
  (s.subproblem.reducedCosts duals, s.pure.reducedCosts duals)

end PricingSnapshot

/-- Right-hand sides and coefficients for the evaluation of Lagrangian subgradients. -/
structure SubgradientSnapshot (σ : Type) where
  rhs : OrderedMap Ref σ
  matrix : Relation Ref σ

namespace SubgradientSnapshot

/-- The recorded right-hand sides of the given constraints, in their order. -/
def recordedRhs (master : Formulation) : List Ref → Except Fault (List (Ref × Float))
  | [] => .ok []
  | ref :: rest =>
      match master.perennialRhs ref with
      | .error fault => .error fault
      | .ok rhs => (recordedRhs master rest).map ((ref, rhs) :: ·)

/-- The representatives of compact variables, whether active or not. -/
def representatives (master : Formulation) : List Ident :=
  (master.vars.filter fun _ v => Category.masterRepresentativeVar v.id.duty).keys

def ofMaster (master : Formulation) (capacity : Option Int) :
    Except Fault (SubgradientSnapshot Float) :=
  (Snapshot.keptConstraints master).bind fun rows =>
    (recordedRhs master rows).map fun recorded =>
      ⟨.ofList recorded, Snapshot.submatrix master rows (representatives master) capacity⟩

/-- The numbers are read in another way, the identifiers stay. -/
def map {σ τ : Type} (s : SubgradientSnapshot σ) (f : σ → τ) : SubgradientSnapshot τ :=
  ⟨s.rhs.map fun _ v => f v, s.matrix.map f⟩

def describe {σ : Type} (s : SubgradientSnapshot σ) : String :=
  "SubgradientCalculationHelper(constraints=" ++ toString s.rhs.size ++ ", nnz="
    ++ toString s.matrix.nnz ++ ")"

variable {σ : Type} [BEq σ] [OfNat σ 0] [OfNat σ 1] [Add σ] [Mul σ] [Sub σ]

/-- A variable without a multiplicity counts once. -/
def scale (solution : OrderedMap Ref σ) (multiplicities : Option (OrderedMap Ref σ)) :
    OrderedMap Ref σ :=
  match multiplicities with
  | none => solution
  | some m => solution.map fun id v => m.getD id 1 * v

def subgradient (s : SubgradientSnapshot σ) (solution : OrderedMap Ref σ)
    (multiplicities : Option (OrderedMap Ref σ)) : OrderedMap Ref σ :=
  let activity := s.matrix.cells.mul (scale solution multiplicities)
  s.rhs.map fun id rhs => rhs - activity.getD id 0

end SubgradientSnapshot

inductive Snapshot where
  | pricing (s : PricingSnapshot Float)
  | subgradient (s : SubgradientSnapshot Float)

namespace Snapshot

/-- The matrices of a snapshot under their names. -/
def matrices : Snapshot → List (String × Relation Ref Float)
  | .pricing s => [("dw_subprob_A", s.subproblem.matrix), ("master_A", s.pure.matrix)]
  | .subgradient s => [("A", s.matrix)]

/-- A snapshot's matrix refuses the write, as it is frozen. -/
def setCoefficient (s : Snapshot) (matrix : String) (r c : Ref) (v : Float) :
    Except Fault (Relation Ref Float) :=
  match s.matrices.lookup matrix with
  | some found => found.set r c v
  | none => .error .noSuchPart

end Snapshot

end Decomposition
