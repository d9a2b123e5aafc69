import Decomposition.Solver.Sent

namespace Decomposition.Highs
open Solver

structure Column where
  cost : Float
  lower : Float
  upper : Float
  integer : Bool

structure Row where
  lower : Float
  upper : Float
  entries : Entries

structure Program where
  columns : List Column
  rows : List Row

namespace Program

def empty : Program := ⟨[], []⟩

def nonzeros (p : Program) : Nat := (p.rows.flatMap (·.entries)).length

end Program

/-- What the solver keeps of an offered column, or of an offered row in a program with a given
number of columns. -/
structure Intake where
  column : Column → Option Column
  row : Nat → Row → Option Row

/-- Bounds of this size and beyond are infinite. -/
def infiniteBound : Float := Binary64.ofDecimal false 1 20

/-- A row with an entry of this size or beyond is refused. -/
def largeEntry : Float := Binary64.ofDecimal false 1 15

/-- Entries that are not larger are left out, and so are those that are no numbers. -/
def smallEntry : Float := Binary64.ofDecimal false 1 (-9)

/-- A lower bound at plus infinity, an upper bound at minus infinity and a bound that is no number
are refused. -/
def keepBounds (lower upper : Float) : Option (Float × Float) :=
  if lower < infiniteBound ∧ upper > -infiniteBound then
    some (if lower <= -infiniteBound then Binary64.negativeInfinity else lower,
      if upper >= infiniteBound then Binary64.infinity else upper)
  else none

/-- Costs of this size and beyond are infinite. -/
def infiniteCost : Float := Binary64.ofDecimal false 1 20

def keepCost (cost : Float) : Float :=
  if cost >= infiniteCost then Binary64.infinity
  else if cost <= -infiniteCost then Binary64.negativeInfinity
  else cost

/-- The limits of the solver. -/
def Intake.limits : Intake where
  column c :=
    (keepBounds c.lower c.upper).map fun bounds =>
      { c with cost := keepCost c.cost, lower := bounds.1, upper := bounds.2 }
  row width r :=
    if r.entries.any fun entry => width ≤ entry.1 || entry.2.abs >= largeEntry then none
    else
      (keepBounds r.lower r.upper).map fun bounds =>
        ⟨bounds.1, bounds.2, r.entries.filter fun entry => entry.2.abs > smallEntry⟩

/-- Integrality is not part of the offer; it is marked afterwards. -/
def columnOf (v : Variable) : Column :=
  let bounds := boundsOf v.current
  ⟨v.current.cost, bounds.1, bounds.2, false⟩

/-- The interval of a constraint. -/
def intervalOf (c : Constraint) : Float × Float :=
  match c.current.sense with
  | .greater => (c.current.rhs, Binary64.infinity)
  | .less => (Binary64.negativeInfinity, c.current.rhs)
  | .equal => (c.current.rhs, c.current.rhs)

/-- A program together with the keys that were offered, in order. -/
structure Loaded where
  program : Program
  columnIds : List Ident
  rowIds : List Ref
  mip : Bool

namespace Loaded

def empty : Loaded := ⟨.empty, [], [], false⟩

/-- Marks the column at a position as integer, if there is one. -/
def markInteger (columns : List Column) (position : Nat) : List Column :=
  columns.modify position fun c => { c with integer := true }

def addColumn (intake : Intake) (l : Loaded) (entry : Ident × Variable) : Loaded :=
  let columns := l.program.columns ++ (intake.column (columnOf entry.2)).toList
  { l with
    program :=
      { l.program with
        columns :=
          if isInteger entry.2 then markInteger columns l.columnIds.length else columns }
    columnIds := l.columnIds ++ [entry.1]
    mip := l.mip || isInteger entry.2 }

def addRow (intake : Intake) (f : Formulation) (l : Loaded) (entry : Ref × Constraint) :
    Loaded :=
  let interval := intervalOf entry.2
  let offered : Row :=
    ⟨interval.1, interval.2, entriesOf l.columnIds (f.coefficients.cells.row entry.1)⟩
  { l with
    program :=
      { l.program with
        rows := l.program.rows ++ (intake.row l.program.columns.length offered).toList }
    rowIds := l.rowIds ++ [entry.1] }

end Loaded

/-- Columns are offered first, then rows. The solver may refuse one, and then adds nothing. -/
def load (intake : Intake) (f : Formulation) : Loaded :=
  let withColumns := (sentVariables f).foldl (Loaded.addColumn intake) .empty
  (sentConstraints f).foldl (Loaded.addRow intake f) withColumns

/-- What the solver knows after a run. Values and duals are listed by position. -/
structure Answer where
  modelStatus : String
  primalStatus : Int
  objective : Float
  mipDualBound : Float
  columnValues : List Float
  rowDuals : List Float
  dualsValid : Bool

/-- The statuses that have a meaning of their own; every other one is an error. -/
def statusTable : List (String × SolutionStatus) :=
  [("kNotset", .notSolved), ("kLoadError", .error), ("kModelError", .error),
    ("kPresolveError", .error), ("kSolveError", .error), ("kPostsolveError", .error),
    ("kModelEmpty", .optimal), ("kOptimal", .optimal), ("kInfeasible", .infeasible),
    ("kUnbounded", .unbounded), ("kUnboundedOrInfeasible", .infOrUnbounded),
    ("kTimeLimit", .timeLimit), ("kIterationLimit", .iterationLimit)]

def statusOf (modelStatus : String) : SolutionStatus :=
  (statusTable.lookup modelStatus).getD .error

def isEmptyModel (a : Answer) : Bool := a.modelStatus == "kModelEmpty"

/-- The solver's mark of a feasible point. -/
def feasible : Int := 2

/-- A program without columns has the empty point as its solution. -/
def resultCount (a : Answer) : Int :=
  if isEmptyModel a then 1 else if a.primalStatus = feasible then 1 else 0

def primalValues (l : Loaded) (a : Answer) : Except Fault Values :=
  (byPosition (l.columnIds.map Ref.ident) a.columnValues).map fun entries =>
    .ofList (entries.filter fun entry => isNonzero entry.2)

/-- An integer program has no duals. -/
def dualValues (l : Loaded) (a : Answer) : Except Fault (Option Values) :=
  if l.mip || !a.dualsValid then .ok none
  else (byPosition l.rowIds a.rowDuals).map fun entries => some (.ofList entries)

/-- Only an integer program has a dual bound of its own. -/
def dualBound (l : Loaded) (a : Answer) : Option Float :=
  if l.mip then some a.mipDualBound else none

def report (l : Loaded) (a : Answer) : Report :=
  { status := statusOf a.modelStatus
    resultCount := resultCount a
    objective := if isEmptyModel a then 0 else a.objective
    primal := primalValues l a
    duals := dualValues l a
    dualBound := dualBound l a }

/-- Options are checked when a program is loaded, and not before. -/
structure Options where
  timeLimit : Option Float
  verbosity : Datum
  threads : Datum

/-- The options as the solver takes them. -/
structure Switches where
  output : Bool
  threads : Int
  timeLimit : Float

namespace Options

/-- The largest number of threads that fits the solver's integers. -/
def mostThreads : Int := 2147483647

/-- The solver chooses the number of threads unless more than one is asked for. It refuses a number
that is no integer of its own, and then chooses as well. -/
def solverThreads (o : Options) : Except Fault Int := do
  if ← exceeds o.threads 1 then
    match o.threads with
    | .int n => .ok (if n ≤ mostThreads then n else 0)
    | _ => .ok 0
  else .ok 0

/-- The solver refuses a negative time limit, and then has none. -/
def solverTimeLimit (o : Options) : Float :=
  match o.timeLimit with
  | none => Binary64.infinity
  | some limit => if limit < 0 then Binary64.infinity else limit

def switches (o : Options) : Except Fault Switches := do
  let output ← exceeds o.verbosity 0
  let threads ← o.solverThreads
  .ok ⟨output, threads, o.solverTimeLimit⟩

end Options

/-- The adapter's options and its last run, and what the solver behind it keeps. -/
structure Backend where
  options : Options
  last : Option (Loaded × Answer)
  intake : Intake

namespace Backend

def describe (b : Backend) : String :=
  "HiGHSBackend(time_limit=" ++ Datum.optionText Number.text b.options.timeLimit
    ++ ", verbosity=" ++ b.options.verbosity.plain ++ ")"

def program (b : Backend) : Program := (b.last.map (·.1.program)).getD .empty

def mip (b : Backend) : Bool := (b.last.map (·.1.mip)).getD false

/-- The formulation is loaded, and the solver gives the answer. Refused options leave nothing
behind. -/
def run (b : Backend) (f : Formulation) (a : Answer) : Outcome Backend Report :=
  match b.options.switches with
  | .error fault => .refuse { b with last := none } fault
  | .ok _ =>
      let loaded := load b.intake f
      .ok { b with last := some (loaded, a) } (Highs.report loaded a)

end Backend

end Decomposition.Highs
