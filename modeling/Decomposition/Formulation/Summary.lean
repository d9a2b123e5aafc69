import Decomposition.Formulation.Basic

namespace Decomposition.Formulation

/-- A term shows its sign apart from its absolute value. -/
def term (coefficient : Float) (name : String) : String :=
  (if coefficient < 0 then "-" else "+") ++ " " ++ Number.text coefficient.abs ++ " " ++ name

def objectiveLine (f : Formulation) : String :=
  f.objectiveSense ++ " "
    ++ " ".intercalate (f.vars.members.values.map fun v => term v.current.cost v.name)

/-- A reference that finds no variable stands for itself. -/
def displayName (f : Formulation) (ref : Ref) : String :=
  match f.vars.find? ref with
  | some v => v.name
  | none => ref.describe

/-- The line ends with the duty, so a constraint without one has no line. -/
def constraintLine (f : Formulation) (key : Ref) (c : Constraint) : Except Fault String := do
  let terms := (f.coefficients.cells.row key).entries.map fun cell =>
    term cell.2 (f.displayName cell.1)
  let duty ← c.duty
  .ok (" " ++ c.name ++ " : " ++ " ".intercalate terms ++ " " ++ c.current.sense.symbol ++ " "
    ++ Number.text c.current.rhs ++ " (" ++ duty.name ++ ")")

def boundsLine (v : Variable) : String :=
  let d := v.current
  Number.text d.lb ++ " <= " ++ v.name ++ " <= " ++ Number.text d.ub ++ " (" ++ d.kind.name
    ++ " | " ++ v.id.duty.name ++ " | " ++ v.flag.name ++ ")"

/-- The objective, the constraints and the bounds of the variables, in the order of insertion. -/
def summary (f : Formulation) : Except Fault String := do
  let header := "Formulation id = " ++ toString f.uid ++ " (" ++ f.duty.name ++ ")"
  let constraintLines ← f.constrs.entries.mapM fun entry => f.constraintLine entry.1 entry.2
  .ok ("\n".intercalate
    ([header, f.objectiveLine] ++ constraintLines ++ f.vars.members.values.map boundsLine))

end Decomposition.Formulation
