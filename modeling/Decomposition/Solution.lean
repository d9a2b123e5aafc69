import Decomposition.Fault
import Decomposition.OrderedMap

namespace Decomposition

/-- Numbers under references. -/
abbrev Values := OrderedMap Ref Float

namespace Values

/-- A reference that cannot be a key is refused. -/
def ofRefs (entries : List (Ref × Float)) : Except Fault Values :=
  if entries.all fun entry => entry.1.isKey then .ok (.ofList entries) else .error .badType

def has (v : Values) (ref : Ref) : Except Fault Bool :=
  if ref.isKey then .ok (v.contains ref) else .error .badType

def read (v : Values) (ref : Ref) (fallback : Float) : Except Fault Float :=
  if ref.isKey then .ok (v.getD ref fallback) else .error .badType

end Values

/-- The termination status of a solver. -/
inductive SolutionStatus where
  | optimal
  | infeasible
  | unbounded
  | infOrUnbounded
  | timeLimit
  | iterationLimit
  | nodeLimit
  | notSolved
  | error
  deriving DecidableEq, Repr, Inhabited

def SolutionStatus.all : List SolutionStatus :=
  [.optimal, .infeasible, .unbounded, .infOrUnbounded, .timeLimit, .iterationLimit, .nodeLimit,
    .notSolved, .error]

def SolutionStatus.name : SolutionStatus → String
  | .optimal => "OPTIMAL"
  | .infeasible => "INFEASIBLE"
  | .unbounded => "UNBOUNDED"
  | .infOrUnbounded => "INF_OR_UNBOUNDED"
  | .timeLimit => "TIME_LIMIT"
  | .iterationLimit => "ITERATION_LIMIT"
  | .nodeLimit => "NODE_LIMIT"
  | .notSolved => "NOT_SOLVED"
  | .error => "ERROR"

/-- Only values other than zero are kept. -/
structure PrimalSolution where
  form : Option Int
  values : Values
  objective : Float

namespace PrimalSolution

def make (form : Option Int) (values : Values) (objective : Float) : PrimalSolution :=
  ⟨form, values.filter fun _ v => v != 0, objective⟩

/-- The distance to the nearest integer. -/
def fractionality (v : Float) : Except Fault Float :=
  match Binary64.round v with
  | .ok n => .ok (v - Binary64.ofInt n).abs
  | .error .nan => .error .badValue
  | .error .infinite => .error .overflow

/-- The values are looked at in order, up to the first that is not near an integer. -/
def allNearInteger (tolerance : Float) : List Float → Except Fault Bool
  | [] => .ok true
  | v :: rest =>
      match fractionality v with
      | .error fault => .error fault
      | .ok distance =>
          if distance <= tolerance then allNearInteger tolerance rest else .ok false

/-- Distances up to this one count as rounding noise. -/
def integerTolerance : Float := Binary64.ofDecimal false 1 (-6)

def isInteger (s : PrimalSolution) : Except Fault Bool :=
  allNearInteger integerTolerance s.values.values

def fractionalEntries (tolerance : Float) : List (Ref × Float) → Except Fault (List Ref)
  | [] => .ok []
  | (ref, v) :: rest =>
      match fractionality v with
      | .error fault => .error fault
      | .ok distance =>
          (fractionalEntries tolerance rest).map fun refs =>
            if distance > tolerance then ref :: refs else refs

/-- The variables whose values are further than the tolerance from every integer. -/
def fractional (s : PrimalSolution) (tolerance : Float) : Except Fault (List Ref) :=
  fractionalEntries tolerance s.values.entries

def describe (s : PrimalSolution) : String :=
  "PrimalSolution(form=" ++ Datum.optionText toString s.form ++ ", obj="
    ++ Number.fixed 4 s.objective ++ ", nnz=" ++ toString s.values.size ++ ")"

end PrimalSolution

structure DualSolution where
  form : Option Int
  values : Values
  bound : Float

namespace DualSolution

def describe (s : DualSolution) : String :=
  "DualSolution(form=" ++ Datum.optionText toString s.form ++ ", bound="
    ++ Number.fixed 4 s.bound ++ ", nnz=" ++ toString s.values.size ++ ")"

end DualSolution

/-- The outcome of optimising a formulation. Without a result the objective is infinite and there
are no solutions. -/
structure OptimizationResult where
  status : SolutionStatus
  objective : Float
  primals : List PrimalSolution
  dual : Option DualSolution

namespace OptimizationResult

def withoutResult (status : SolutionStatus) : OptimizationResult :=
  ⟨status, Binary64.infinity, [], none⟩

def hasSolution (r : OptimizationResult) : Bool := !r.primals.isEmpty

def best? (r : OptimizationResult) : Option PrimalSolution := r.primals.head?

def isOptimal (r : OptimizationResult) : Bool := r.status == .optimal

def summary (r : OptimizationResult) : String :=
  "\n".intercalate
    ["OptimizationResult:",
      "  Status: " ++ r.status.name,
      "  Objective: " ++ Number.text r.objective,
      "  Primal solutions: " ++ toString r.primals.length,
      "  Dual solution: " ++ (if r.dual.isSome then "yes" else "no")]

end OptimizationResult

/-- Everything a solver tells after a run. The values and the duals may turn out to be unreadable
when they are asked for. -/
structure Report where
  status : SolutionStatus
  resultCount : Int
  objective : Float
  primal : Except Fault Values
  duals : Except Fault (Option Values)
  dualBound : Option Float

/-- The report of a solver that has not run. -/
def Report.nothing : Report :=
  { status := .notSolved
    resultCount := 0
    objective := 0
    primal := .ok .empty
    duals := .ok none
    dualBound := none }

end Decomposition
