import Decomposition.Datum.Order
import Decomposition.Number.Literal
import Decomposition.Settings.Basic

namespace Decomposition

/-- The tolerances form a table of their own, unless a plain value took its place. -/
inductive ToleranceEntry where
  | table (values : Tolerances)
  | other (value : Datum)

structure SettingsTable where
  general : OrderedMap String Datum
  tolerances : ToleranceEntry

namespace SettingsTable

def empty : SettingsTable := ⟨.empty, .table .empty⟩

instance : Inhabited SettingsTable := ⟨empty⟩

/-- The name under which the table of tolerances stands. -/
def toleranceName : String := "tolerances"

def setGeneral (t : SettingsTable) (name : String) (value : Datum) : SettingsTable :=
  if name = toleranceName then { t with tolerances := .other value }
  else { t with general := t.general.insert name value }

/-- A plain value cannot hold a tolerance. -/
def setTolerance (t : SettingsTable) (name : String) (value : Float) :
    Except Fault SettingsTable :=
  match t.tolerances with
  | .table values => .ok { t with tolerances := .table (values.insert name value) }
  | .other _ => .error .badType

end SettingsTable

namespace Settings

/-- Fractions are cut off, and texts are read. -/
def integerOf : Datum → Except Fault Int
  | .int n => .ok n
  | .bool b => .ok (if b then 1 else 0)
  | .float x =>
      match Binary64.truncate x with
      | .ok n => .ok n
      | .error .nan => .error .badValue
      | .error .infinite => .error .overflow
  | .text s =>
      match Number.readInt? s.toList with
      | some n => .ok n
      | none => .error .badValue
  | .null | .list _ | .table _ => .error .badType

/-- An empty text, list or table counts as no tolerances. -/
def tolerancesOf : ToleranceEntry → Except Fault Tolerances
  | .table values => .ok values
  | .other (.text s) => if s.isEmpty then .ok .empty else .error .badValue
  | .other (.list items) => if items.isEmpty then .ok .empty else .error .badType
  | .other (.table entries) => if entries.isEmpty then .ok .empty else .error .badValue
  | .other _ => .error .badType

/-- Names that are not known are ignored, and absent ones have their defaults. The number of threads
is converted first, then the largest number of elements and the tolerances. -/
def ofTable (env : Environment) (t : SettingsTable) : Except Fault Settings := do
  let threads ← integerOf (t.general.getD "num_threads" (.int standardThreads))
  let maxElems ← integerOf (t.general.getD "max_nb_elems" (.int standardMaxElems))
  let tolerances ← tolerancesOf t.tolerances
  .ok
    { logLevel := t.general.getD "log_level" (.text (standardLevel env))
      defaultSolver := t.general.getD "default_solver" (.text (standardSolver env))
      numThreads := .int threads
      maxElems := .int maxElems
      tolerances := completeTolerances tolerances }

def toTable (s : Settings) : SettingsTable :=
  { general :=
      .ofList
        [("log_level", s.logLevel), ("default_solver", s.defaultSolver),
          ("num_threads", s.numThreads), ("max_nb_elems", s.maxElems)]
    tolerances := .table s.tolerances }

/-- Both write the same values into a table; tolerances may stand in another order. -/
def same (a b : Settings) : Bool :=
  a.logLevel.same b.logLevel && a.defaultSolver.same b.defaultSolver
    && a.numThreads.agrees b.numThreads && a.maxElems.agrees b.maxElems
    && a.tolerances.size == b.tolerances.size
    && a.tolerances.entries.all fun entry =>
      (b.tolerances.get? entry.1).any (Datum.sameNumber entry.2)

end Settings

end Decomposition
