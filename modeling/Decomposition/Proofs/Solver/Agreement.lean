import Decomposition.Proofs.Solver.Cplex
import Decomposition.Proofs.Solver.Highs

namespace Decomposition.Highs
open Solver Binary64

/-- The sense and the right-hand side that an interval stands for. -/
def conditionOf (lower upper : Float) : Option (ConstrSense × ℚ) :=
  match value lower, value upper with
  | .finite l, .infinite false => some (.greater, l.exact)
  | .infinite true, .finite u => some (.less, u.exact)
  | .finite l, .finite u => if l.exact = u.exact then some (.equal, l.exact) else none
  | _, _ => none

/-- The linear program that is loaded. -/
def Loaded.linear (l : Loaded) : LinearProgram where
  columns := (l.columnIds.zip l.program.columns).map fun entry =>
    (entry.1,
      { cost := exact entry.2.cost
        lower := boundOf entry.2.lower
        upper := boundOf entry.2.upper
        integer := entry.2.integer })
  rows := (l.rowIds.zip l.program.rows).map fun entry =>
    (entry.1,
      { condition := conditionOf entry.2.lower entry.2.upper
        coefficients := coefficientsOf l.program.columns.length entry.2.entries })

/-- An interval with a finite right-hand side tells the constraint's condition. -/
theorem conditionOf_intervalOf {c : Constraint} (finite : isFinite c.current.rhs = true) :
    conditionOf (intervalOf c).1 (intervalOf c).2 =
      some (c.current.sense, exact c.current.rhs) := by
  obtain ⟨rhs, finite⟩ := exists_of_isFinite finite
  have top : value infinity = .infinite false := rfl
  have bottom : value negativeInfinity = .infinite true := rfl
  have number : exact c.current.rhs = rhs.exact := by rw [exact, finite]
  rw [number, intervalOf, conditionOf]
  cases c.current.sense with
  | greater => simp only [finite, top]
  | less => simp only [finite, bottom]
  | equal => simp only [finite, if_true]

/-- A bound that is minus infinity reaches the solver as such. -/
theorem boundOf_lower (v : Variable) :
    boundOf (boundsOf v.current).1 = lowerLimit ⊥ v := by
  rw [lowerLimit]
  split
  · rename_i infinite
    exact boundOf_of_beq_negativeInfinity infinite
  · rfl

/-- What is loaded is the formulation's program. -/
theorem linear_load {intake : Intake} {f : Formulation} (accepts : intake.Accepts f)
    (finite : ∀ entry ∈ sentConstraints f, isFinite entry.2.current.rhs = true) :
    (load intake f).linear = linearOf ⊥ f := by
  rw [load_eq accepts, Loaded.linear, linearOf, LinearProgram.mk.injEq]
  constructor
  · rw [List.zip_map', List.map_map]
    refine List.map_congr_left fun entry sent => ?_
    simp [markedColumn, columnOf, boundOf_lower]
  · rw [List.zip_map', List.map_map]
    refine List.map_congr_left fun entry sent => ?_
    have condition := conditionOf_intervalOf (finite entry sent)
    simp [offeredRow, condition, coefficientsOf_entriesOf]

end Decomposition.Highs

namespace Decomposition.Solver
open Binary64

/-- Both loads have the same columns and rows, and they are the same linear program exactly if no
variable is sent without a lower bound. -/
theorem loads_agree_iff {highs : Highs.Intake} {cplex : Cplex.Intake} {f : Formulation}
    (byHighs : highs.Accepts f) (byCplex : cplex.Accepts f)
    (finite : ∀ entry ∈ sentConstraints f, isFinite entry.2.current.rhs = true) :
    (Cplex.load cplex f).result = .ok () ∧
      (Cplex.load cplex f).state.columnIds = (Highs.load highs f).columnIds ∧
      (Cplex.load cplex f).state.rowIds = (Highs.load highs f).rowIds ∧
      (Cplex.load cplex f).state.mip = (Highs.load highs f).mip ∧
      (Cplex.load cplex f).state.linear = linearOf ((0 : WithTop ℚ) : Limit) f ∧
      ((Cplex.load cplex f).state.linear = (Highs.load highs f).linear ↔
        ∀ entry ∈ sentVariables f,
          ((boundsOf entry.2.current).1 == negativeInfinity) = false) := by
  obtain ⟨done, program⟩ := Cplex.linear_load byCplex
  have zero : ((0 : WithTop ℚ) : Limit) ≠ ⊥ := WithBot.coe_ne_bot
  refine ⟨done, ?_, ?_, ?_, program, ?_⟩
  · rw [Cplex.load_eq byCplex, Highs.load_eq byHighs, Outcome.ok_state]
  · rw [Cplex.load_eq byCplex, Highs.load_eq byHighs, Outcome.ok_state]
  · rw [Cplex.load_eq byCplex, Highs.load_eq byHighs, Outcome.ok_state]
  · rw [program, Highs.linear_load byHighs finite]
    exact linearOf_eq_iff zero f

/-- Both solvers, with their own limits, are given the same small program. -/
theorem loads_agree_smallProgram :
    Highs.Intake.limits.Accepts Highs.smallProgram ∧
      Cplex.Intake.limits.Accepts Highs.smallProgram ∧
      (Cplex.load Cplex.Intake.limits Highs.smallProgram).state.linear =
        (Highs.load Highs.Intake.limits Highs.smallProgram).linear := by
  have byHighs : Highs.Intake.limits.Accepts Highs.smallProgram :=
    { column := by decide +kernel
      row := by decide +kernel }
  have byCplex : Cplex.Intake.limits.Accepts Highs.smallProgram :=
    { bounds := by decide +kernel
      cost := by decide +kernel
      coefficient := by decide +kernel
      rhs := by decide +kernel }
  have finite : ∀ entry ∈ sentConstraints Highs.smallProgram,
      isFinite entry.2.current.rhs = true := by decide +kernel
  have bounded : ∀ entry ∈ sentVariables Highs.smallProgram,
      ((boundsOf entry.2.current).1 == negativeInfinity) = false := by decide +kernel
  obtain ⟨_, _, _, _, _, same⟩ := loads_agree_iff byHighs byCplex finite
  exact ⟨byHighs, byCplex, same.2 bounded⟩

/-- One free variable between minus infinity and four. -/
def unboundedBelow : Formulation :=
  Formulation.run (.empty 1 .dwMaster none)
    [.createVariable 1
      ⟨"x", .compactVar, ⟨1, negativeInfinity, 4, .continuous, .free, true, true⟩, .static⟩ none]

/-- A free variable is unbounded below for one solver and nonnegative for the other, although all
numbers are finite apart from its lower bound. -/
theorem unboundedBelow_loads_differ :
    Formulation.Reachable unboundedBelow ∧
      (∀ entry ∈ unboundedBelow.vars.entries, isFinite entry.2.current.cost = true ∧
        entry.2.current.lb.isNaN = false ∧ entry.2.current.ub.isNaN = false) ∧
      unboundedBelow.constrs.entries = [] ∧
      unboundedBelow.coefficients.cells.nonzeros = [] ∧
      (Highs.load Highs.Intake.limits unboundedBelow).linear.columns.map (·.2.lower) = [⊥] ∧
      (Cplex.load Cplex.Intake.limits unboundedBelow).state.linear.columns.map (·.2.lower) =
        [((0 : WithTop ℚ) : Limit)] ∧
      (Cplex.load Cplex.Intake.limits unboundedBelow).state.linear ≠
        (Highs.load Highs.Intake.limits unboundedBelow).linear := by
  have reached : Formulation.Reachable unboundedBelow := by
    refine Formulation.ReachableBy.run (.empty 1 .dwMaster none) fun op mem => ?_
    obtain rfl := List.mem_singleton.1 mem
    exact ⟨trivial, rfl⟩
  have byHighs : (Highs.load Highs.Intake.limits unboundedBelow).linear.columns.map (·.2.lower) =
      [⊥] := by decide +kernel
  have byCplex : (Cplex.load Cplex.Intake.limits unboundedBelow).state.linear.columns.map
      (·.2.lower) = [((0 : WithTop ℚ) : Limit)] := by decide +kernel
  refine ⟨reached, by decide +kernel, rfl, rfl, byHighs, byCplex, fun same => ?_⟩
  rw [same, byHighs] at byCplex
  exact WithBot.bot_ne_coe (List.head_eq_of_cons_eq byCplex)

end Decomposition.Solver
