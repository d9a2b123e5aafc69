import Decomposition.Formulation.Optimize
import Decomposition.Workspace.Basic

namespace Decomposition.Workspace
variable {α : Type}

/-- The events are written if the operation succeeded. -/
def journaled (o : Outcome Workspace α) (events : α → List Event) : Outcome Workspace α :=
  match o.result with
  | .ok a => ⟨o.state.note (events a), .ok a⟩
  | .error _ => o

def createVariable (w : Workspace) (h : FormHandle) (draft : Formulation.Draft VarData)
    (column : Option Values) : Outcome Workspace Variable :=
  w.onRegistry h (·.createVariable h.uid draft column)

def createConstraint (w : Workspace) (h : FormHandle) (draft : Formulation.Draft ConstrData)
    (row : Option Values) : Outcome Workspace Constraint :=
  w.onRegistry h (·.createConstraint h.uid draft row)

def reset (w : Workspace) (h : FormHandle) (refs : Option (List Ref)) : Outcome Workspace Nat :=
  journaled (w.onForm h (·.reset refs)) fun count => [.reset h.uid count]

/-- Entities of one formulation are cloned into another one, or within one. -/
def clone (w : Workspace) (source dest : FormHandle) (mark : Formulation.Mark)
    (refs : List Ref) : Outcome Workspace (List Element) :=
  let done :=
    if source = dest then w.onForm dest (·.cloneWithin mark refs)
    else
      match w.form source with
      | .error fault => .refuse w fault
      | .ok origin => w.onForm dest fun target => origin.cloneInto target mark refs
  journaled done fun clones => [.cloned clones.length source.uid dest.uid mark.duty]

/-- One entity is cloned without its coefficients. -/
def cloneOne (w : Workspace) (source dest : FormHandle) (mark : Formulation.Mark) (ref : Ref) :
    Outcome Workspace Element :=
  match w.form source with
  | .error fault => .refuse w fault
  | .ok origin =>
      match origin.element ref with
      | .error fault => .refuse w fault
      | .ok e => w.onForm dest fun target => target.cloneElement origin.uid e mark

/-- A report tells its status, and whether there is anything to show. -/
def solvingEvents (form : Int) (r : Report) : List Event :=
  .finished form r.status :: (if r.resultCount < 1 then [.noResult form] else [])

/-- Any function from formulations to reports can solve. The events are written once the run has
ended, whether or not its report can be read. -/
def solve (w : Workspace) (h : FormHandle) (solver : Option (Formulation → Except Fault Report))
    (update : Bool) : Outcome Workspace OptimizationResult :=
  match (w.form h).bind (·.solvedBy solver) with
  | .error fault => .refuse w fault
  | .ok report =>
      (w.note (solvingEvents h.uid report)).onForm h (·.conclude report update)

/-- A solver is left as it is after a run. A formulation that is not minimised runs none. -/
def runSolver (w : Workspace) (solver : Nat) (f : Formulation) : Workspace :=
  if f.minimize then { w with solvers := w.solvers.modify solver fun s => (s.run f).state } else w

/-- The given solver is used, or the attached one. -/
def optimize (w : Workspace) (h : FormHandle) (given : Option Nat) (update : Bool) :
    Outcome Workspace OptimizationResult :=
  match w.form h with
  | .error fault => .refuse w fault
  | .ok f =>
      let chosen := given.or (w.attached.get? h)
      let known := chosen.bind (w.solvers[·]?)
      let ready := chosen.elim w fun solver => w.runSolver solver f
      ready.solve h (known.map fun solver form => (solver.run form).result) update

def intrinsicCost (w : Workspace) (h : FormHandle) (s : PrimalSolution) :
    Outcome Workspace Float :=
  let cost := do
    let form ← w.form h
    form.intrinsicCost s
  journaled ⟨w, cost⟩ fun cost => [.intrinsicCost h.uid cost]

/-- Without a tolerance, that of the settings is taken. -/
def checkColumn (w : Workspace) (master subproblem : FormHandle) (column : Ref)
    (reducedCost : Float) (tolerance : Option Float) : Outcome Workspace (Option ColumnReport) :=
  let report := do
    let masterForm ← w.form master
    let subproblemForm ← w.form subproblem
    ColumnReport.check masterForm subproblemForm column reducedCost
      (tolerance.getD (w.settings.tolerance "reduced_cost"))
  journaled ⟨w, report⟩ fun found => found.toList.map .columnReported

/-- The size hint of a snapshot that gives none is that of the settings. -/
def capacity (w : Workspace) (given : Option Int) : Option Int := given.or w.settings.sizeHint

end Decomposition.Workspace
