import Decomposition.Formulation.Basic

namespace Decomposition.Formulation

/-- The report of a solver on the formulation. -/
def solvedBy (f : Formulation) (solver : Option (Formulation → Except Fault Report)) :
    Except Fault Report :=
  match solver with
  | none => .error (.noBackend f.uid)
  | some solve => if f.minimize then solve f else .error .minimizeOnly

/-- The solutions that a report holds for this formulation. Without a result nothing is read. -/
def resultOf (f : Formulation) (report : Report) : Except Fault OptimizationResult := do
  if report.resultCount < 1 then .ok (.withoutResult report.status)
  else
    let primal := PrimalSolution.make (some f.uid) (← report.primal) report.objective
    let dual := (← report.duals).map fun values =>
      { form := some f.uid
        values := values
        bound := report.dualBound.getD primal.objective : DualSolution }
    .ok ⟨report.status, primal.objective, [primal], dual⟩

/-- The solutions of a result become the best known ones. A result without a solution changes
nothing, and one without duals keeps the dual solution. -/
def record (f : Formulation) (result : OptimizationResult) : Formulation :=
  match result.best? with
  | none => f
  | some primal =>
      { f with
        bestPrimal := some primal
        bestDual := result.dual.or f.bestDual }

/-- A report that cannot be read changes nothing. -/
def conclude (f : Formulation) (report : Report) (update : Bool) :
    Outcome Formulation OptimizationResult :=
  match f.resultOf report with
  | .error fault => .refuse f fault
  | .ok result => .ok (if update then f.record result else f) result

/-- Only minimisation is handed to a solver. The solutions of a report are read after the run has
ended, the values before the duals. -/
def optimize (f : Formulation) (solver : Option (Formulation → Except Fault Report))
    (update : Bool) : Outcome Formulation OptimizationResult :=
  match f.solvedBy solver with
  | .error fault => .refuse f fault
  | .ok report => f.conclude report update

/-- The products with the perennial costs are added in the order of the solution. -/
def costFrom (f : Formulation) (total : Float) : List (Ref × Float) → Except Fault Float
  | [] => .ok total
  | (ref, v) :: rest =>
      match f.vars.get ref with
      | .ok x => f.costFrom (total + x.perennial.cost * v) rest
      | .error fault => .error fault

/-- The cost of a solution at the perennial costs, whatever costs are in force. -/
def intrinsicCost (f : Formulation) (s : PrimalSolution) : Except Fault Float :=
  f.costFrom 0 s.values.entries

end Decomposition.Formulation
