import Decomposition.Settings.Basic
import Decomposition.Solver.Cplex
import Decomposition.Solver.Highs

namespace Decomposition

inductive Adapter where
  | highs (backend : Highs.Backend)
  | cplex (backend : Cplex.Backend)

/-- Options under their names. -/
abbrev OptionTable := OrderedMap String Datum

namespace OptionTable

def onlyHas (t : OptionTable) (names : List String) : Bool := t.keys.all names.contains

/-- A missing limit is no limit. -/
def limit (t : OptionTable) (name : String) : Except Fault (Option Float) :=
  match t.getD name .null with
  | .null => .ok none
  | .float x => .ok (some x)
  | .int n => .ok (some (Binary64.ofInt n))
  | _ => .error .badType

end OptionTable

namespace Adapter

/-- Without a number of threads, that of the settings is taken. -/
def createHighs (settings : Settings) (t : OptionTable) : Except Fault Adapter := do
  if t.onlyHas ["time_limit", "verbosity", "num_threads"] then
    let timeLimit ← t.limit "time_limit"
    let threads := match t.getD "num_threads" .null with
      | .null => settings.numThreads
      | given => given
    .ok (.highs ⟨⟨timeLimit, t.getD "verbosity" (.int 0), threads⟩, none, .limits⟩)
  else .error .badType

/-- The number of threads of the settings plays no part here. -/
def createCplex (t : OptionTable) : Except Fault Adapter := do
  if t.onlyHas ["time_limit", "verbosity", "threads", "mip_gap"] then
    let timeLimit ← t.limit "time_limit"
    let gap ← if t.contains "mip_gap" then t.limit "mip_gap" else .ok (some Cplex.standardGap)
    .ok (.cplex
      ⟨⟨timeLimit, t.getD "verbosity" (.int 0), t.getD "threads" (.int 0), gap⟩, none, .limits⟩)
  else .error .badType

/-- Only a text is the name of a solver. -/
def nameOf : Datum → Except Fault String
  | .text name => .ok (Text.lower name)
  | _ => .error .noSuchPart

/-- A name that holds nothing counts as none. -/
def chosenName (settings : Settings) (name : Datum) : Except Fault String :=
  nameOf (if name.holdsNothing then settings.defaultSolver else name)

/-- An adapter is chosen by its name in any case, or by the default of the settings when no name is
given. An option that it does not have is refused. -/
def create (settings : Settings) (name : Datum) (options : OptionTable) :
    Except Fault Adapter := do
  let chosen ← chosenName settings name
  if chosen = "highs" then createHighs settings options
  else if chosen = "cplex" then createCplex options
  else .error (.unknownBackend chosen)

def className : Adapter → String
  | .highs _ => "HiGHSBackend"
  | .cplex _ => "CPLEXBackend"

/-- The limit applies from the next run on. -/
def setTimeLimit (limit : Option Float) : Adapter → Adapter
  | .highs b => .highs { b with options := { b.options with timeLimit := limit } }
  | .cplex b => .cplex { b with options := { b.options with timeLimit := limit } }

def setVerbosity (level : Datum) : Adapter → Adapter
  | .highs b => .highs { b with options := { b.options with verbosity := level } }
  | .cplex b => .cplex { b with options := { b.options with verbosity := level } }

def describe : Adapter → String
  | .highs b => b.describe
  | .cplex b => b.describe

/-- What a solver answers, in the terms of either one. -/
inductive Answer where
  | highs (a : Highs.Answer)
  | cplex (a : Cplex.Answer)

/-- The report of the last run; there is nothing to show before the first. -/
def report : Adapter → Report
  | .highs b =>
      match b.last with
      | some (loaded, a) => Highs.report loaded a
      | none => .nothing
  | .cplex b =>
      match b.last with
      | some (loaded, a) => Cplex.report loaded a
      | none => .nothing

/-- The formulation is loaded, and the solver gives the answer on it. An answer in the terms of the
other solver is no run. -/
def run (f : Formulation) : Adapter → Answer → Outcome Adapter Report
  | .highs b, .highs a =>
      let done := b.run f a
      ⟨.highs done.state, done.result⟩
  | .cplex b, .cplex a =>
      let done := b.run f a
      ⟨.cplex done.state, done.result⟩
  | adapter, _ => .ok adapter adapter.report

/-- The last model loaded had integer variables. -/
def mip : Adapter → Bool
  | .highs b => b.mip
  | .cplex b => b.mip

/-- One run of an adapter: as it was before, as it is afterwards, and the result. -/
structure Run where
  before : Adapter
  after : Adapter
  result : OptimizationResult

end Adapter

/-- A scripted solver gives the same report on every formulation, and counts its runs. An adapted
one loads the formulation through an adapter, and gives the answer that it was told last. -/
inductive Solver where
  | scripted (report : Report) (runs : Nat)
  | adapted (adapter : Adapter) (answer : Adapter.Answer)

namespace Solver

/-- One run on a formulation. -/
def run (f : Formulation) : Solver → Outcome Solver Report
  | .scripted report runs => .ok (.scripted report (runs + 1)) report
  | .adapted adapter answer =>
      let done := adapter.run f answer
      ⟨.adapted done.state answer, done.result⟩

def adapter? : Solver → Option Adapter
  | .scripted _ _ => none
  | .adapted adapter _ => some adapter

end Solver

end Decomposition
