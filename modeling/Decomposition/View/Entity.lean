import Decomposition.Entity
import Decomposition.Solution
import Decomposition.View.Basic

namespace Decomposition.View

def varData (d : VarData) : Datum :=
  .table
    [("cost", .float d.cost), ("lb", .float d.lb), ("ub", .float d.ub), ("kind", .text d.kind.name),
      ("sense", .text d.sense.name), ("active", .bool d.active), ("explicit", .bool d.explicit)]

def constrData (d : ConstrData) : Datum :=
  .table
    [("rhs", .float d.rhs), ("sense", .text d.sense.name), ("kind", .text d.kind.name),
      ("active", .bool d.active), ("explicit", .bool d.explicit)]

def entityFields {δ : Type} [EntityRecord δ] (data : δ → Datum) (e : Entity Ident δ) :
    List (String × Datum) :=
  [("id", fullIdent e.id), ("name", .text e.name), ("flag", .text e.flag.name),
    ("duty", .text e.id.duty.name), ("perennial", data e.perennial), ("current", data e.current),
    ("repr", .text e.describe)]

/-- The identifier of an entity is shown in full, so it has to have one. -/
def elementFields : Element → Except Fault (List (String × Datum))
  | .variable v => .ok (entityFields varData v)
  | .constraint c => c.identified.map (entityFields constrData)

def element (e : Element) : Except Fault Datum := (elementFields e).map .table

/-- The numbers that matter in search. -/
def shortState : Element → Datum
  | .variable v =>
      .list [.float v.perennial.cost, .float v.current.cost, .bool v.isActive, .bool v.isExplicit]
  | .constraint c =>
      .list [.float c.perennial.rhs, .float c.current.rhs, .text c.current.sense.symbol,
        .bool c.isActive, .bool c.isExplicit]

/-- An entity with its numbers at hand. -/
def elementWithState (e : Element) : Except Fault Datum :=
  (elementFields e).map fun fields => .table (fields ++ [("short", shortState e)])

def names {α : Type} (name : α → String) (all : List α) : Datum :=
  list (fun a => .text (name a)) all

/-- The names of all choices, in the order of their declaration. -/
def choices : Datum :=
  .table
    [("Flag", names Flag.name Flag.all), ("VarDuty", names Duty.name Duty.ofVariables),
      ("ConstrDuty", names Duty.name Duty.ofConstraints),
      ("FormDuty", names FormDuty.name FormDuty.all), ("VarKind", names VarKind.name VarKind.all),
      ("VarSense", names VarSense.name VarSense.all),
      ("ConstrSense", names ConstrSense.name ConstrSense.all),
      ("ConstrKind", names ConstrKind.name ConstrKind.all),
      ("SolutionStatus", names SolutionStatus.name SolutionStatus.all),
      ("symbols", names ConstrSense.symbol ConstrSense.all)]

end Decomposition.View
