import Decomposition.Formulation.Basic

namespace Decomposition

/-- A column that came back from pricing although it is active in the master with an improving
reduced cost. The report is no error, and whoever asked decides what follows. -/
structure ColumnReport where
  inMaster : Bool
  isActive : Bool
  reducedCost : Float
  column : Ident
  master : Int
  subproblem : Int

namespace ColumnReport

def text (r : ColumnReport) : String :=
  "\n".intercalate
    ["Unexpected variable state during column insertion.",
      "======",
      "Column id: " ++ toString r.column.uid ++ ".",
      "Master formulation: " ++ toString r.master ++ ". Subproblem formulation: "
        ++ toString r.subproblem ++ ".",
      "Reduced cost of the column: " ++ Number.text r.reducedCost ++ ".",
      "The column is in the master ? " ++ Datum.boolText r.inMaster ++ ".",
      "The column is active ? " ++ Datum.boolText r.isActive ++ ".",
      "======",
      "If the column is in the master and active, it means a subproblem found a solution",
      "with negative reduced cost that is already active in the master. This should not happen.",
      "======",
      "If you are using a pricing callback, make sure there is no bug in your code.",
      "If you are using a solver, check the reduced cost tolerance (config tolerance "
        ++ "'reduced_cost').",
      "======"]

def describe (r : ColumnReport) : String :=
  "ColumnAlreadyInsertedColGenWarning(column_in_master=" ++ Datum.boolText r.inMaster
    ++ ", column_is_active=" ++ Datum.boolText r.isActive ++ ", column_reduced_cost="
    ++ Number.text r.reducedCost ++ ", column_id=" ++ r.column.describe ++ ")"

/-- A column is improving when its reduced cost lies below zero by more than the tolerance. -/
def isImproving (reducedCost tolerance : Float) : Bool := reducedCost < -tolerance

/-- A column in the master that is active and improving is reported. -/
def check (master subproblem : Formulation) (column : Ref) (reducedCost tolerance : Float) :
    Except Fault (Option ColumnReport) :=
  match column with
  | .other d => if d.isKey then .ok none else .error .badType
  | .ident id =>
      match master.vars.get? id with
      | none => .ok none
      | some v =>
          if v.isActive && isImproving reducedCost tolerance then
            .ok (some ⟨true, true, reducedCost, id, master.uid, subproblem.uid⟩)
          else .ok none

end ColumnReport

end Decomposition
