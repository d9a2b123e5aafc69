import Decomposition.Formulation.Basic
import Decomposition.View.Entity
import Decomposition.View.Basic

namespace Decomposition.View

def infoFields (f : Formulation) : List (String × Datum) :=
  [("uid", .int f.uid), ("duty", .text f.duty.name), ("parent_uid", option .int f.parent),
    ("nvars", nat f.vars.size), ("nconstrs", nat f.constrs.size),
    ("sense", .text f.objectiveSense), ("repr", .text f.describe)]

def info (f : Formulation) : Datum := .table (infoFields f)

/-- What a formulation tells of one entity. -/
def detail (what : String) (ref : Ref) (f : Formulation) : Except Fault Datum :=
  let onVariable (g : Variable → Datum) : Except Fault Datum := (f.vars.get ref).map g
  let onConstraint (g : Constraint → Datum) : Except Fault Datum := (f.constrs.get ref).map g
  match what with
  | "var" => (f.vars.get ref).bind fun v => element (.variable v)
  | "constr" => (f.constrs.get ref).bind fun c => element (.constraint c)
  | "has_var" => (f.vars.contains ref).map .bool
  | "has_constr" => (f.constrs.contains ref).map .bool
  | "is_active" => (f.isActive ref).map .bool
  | "is_explicit" => (f.isExplicit ref).map .bool
  | "perennial_cost" => onVariable fun v => .float v.perennial.cost
  | "cur_cost" => onVariable fun v => .float v.current.cost
  | "perennial_lb" => onVariable fun v => .float v.perennial.lb
  | "perennial_ub" => onVariable fun v => .float v.perennial.ub
  | "cur_lb" => onVariable fun v => .float v.current.lb
  | "cur_ub" => onVariable fun v => .float v.current.ub
  | "perennial_rhs" => (f.perennialRhs ref).map .float
  | "cur_rhs" => onConstraint fun c => .float c.current.rhs
  | _ => .ok .null

def recordFields (f : Formulation) : List (String × Datum) :=
  [("inc", .list [.float f.primalBound, .float f.dualBound]),
    ("primal_record", option primal f.bestPrimal), ("dual_record", option dual f.bestDual)]

/-- The best bounds and solutions known. -/
def records (f : Formulation) : Datum := .table (recordFields f)

def origins (f : Formulation) : Datum :=
  list (fun entry => .list [fullIdent entry.1, .int entry.2.1, fullIdent entry.2.2])
    f.cloneOrigins.entries

/-- Everything that a formulation holds. -/
def dump (f : Formulation) : Except Fault Datum := do
  let vars ← listOf (fun v => element (.variable v)) f.vars.members.values
  let constrs ← listOf (fun c => element (.constraint c)) f.constrs.members.values
  .ok (.table
    (infoFields f
      ++ [("is_minimize", .bool f.minimize), ("vars", vars), ("constrs", constrs),
        ("matrix", relation f.coefficients)]
      ++ recordFields f ++ [("clone_origins", origins f)]))

/-- An entity is described by its uid and its duty, so it has to have an identifier. -/
def stores (f : Formulation) : Except Fault Datum := do
  let vars ← f.vars.summary fun v => .ok v.describe
  let constrs ← f.constrs.summary fun c => c.identified.map Entity.describe
  .ok (.table
    [("vars", .text vars), ("constrs", .text constrs),
      ("reprs", .list [.text f.vars.describe, .text f.constrs.describe])])

/-- The numbers of variables and constraints. -/
def sizes (f : Formulation) : Datum := .list [nat f.vars.size, nat f.constrs.size]

end Decomposition.View
