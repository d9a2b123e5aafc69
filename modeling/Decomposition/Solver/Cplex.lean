import Decomposition.Solver.Sent
import Decomposition.Text.Case

namespace Decomposition.Cplex
open Solver

structure Column where
  name : String
  lower : Float
  upper : Float
  integer : Bool

structure Row where
  name : String
  entries : Entries
  sense : ConstrSense
  rhs : Float

structure Program where
  name : String
  columns : List Column
  objective : Entries
  rows : List Row

/-- What the solver makes of offered bounds, either of which may be missing, and of costs,
coefficients and right-hand sides. -/
structure Intake where
  bounds : Option Float → Option Float → Option (Float × Float)
  number : Float → Option Float

/-- Numbers beyond this size are cut to it. -/
def largest : Float := Binary64.ofDecimal false 1 20

/-- A zero loses its sign. -/
def cut (x : Float) : Float :=
  if x >= largest then largest else if x <= -largest then -largest else if x == 0 then 0 else x

def keepLower : Option Float → Float
  | none => 0
  | some x => if x <= -largest then -largest else x

def keepUpper : Option Float → Float
  | none => largest
  | some x => if x >= largest then largest else x

/-- Bounds exclude each other when both are given and the lower one is the greater. -/
def excluding : Option Float → Option Float → Bool
  | some lower, some upper => lower > upper
  | _, _ => false

/-- The limits of the solver. What is no number is refused. -/
def Intake.limits : Intake where
  bounds lower upper :=
    if lower.any Float.isNaN || upper.any Float.isNaN || excluding lower upper then none
    else some (keepLower lower, keepUpper upper)
  number x := if x.isNaN then none else some (cut x)

/-- An infinite bound is sent as a missing one. -/
def offeredLower (x : Float) : Option Float :=
  if x == Binary64.negativeInfinity then none else some x

def offeredUpper (x : Float) : Option Float := if x == Binary64.infinity then none else some x

def columnOf? (intake : Intake) (v : Variable) : Option Column :=
  let offered := boundsOf v.current
  (intake.bounds (offeredLower offered.1) (offeredUpper offered.2)).map fun bounds =>
    ⟨v.name, bounds.1, bounds.2, isInteger v⟩

def entriesOf? (intake : Intake) (offered : Entries) : Option Entries :=
  offered.mapM fun cell => (intake.number cell.2).map fun x => (cell.1, x)

/-- Terms with a zero coefficient vanish. -/
def objectiveOf? (intake : Intake) (sent : List (Ident × Variable)) : Option Entries :=
  (entriesOf? intake (sent.zipIdx.map fun entry => (entry.2, entry.1.2.current.cost))).map
    fun costs => costs.filter (·.2 != 0)

def rowOf? (intake : Intake) (f : Formulation) (columnIds : List Ident)
    (entry : Ref × Constraint) : Option Row := do
  let entries ←
    entriesOf? intake (entriesOf columnIds (f.coefficients.cells.row entry.1))
  let rhs ← intake.number entry.2.current.rhs
  some ⟨entry.2.name, entries, entry.2.current.sense, rhs⟩

/-- A program together with the keys of its columns and rows. -/
structure Loaded where
  program : Program
  columnIds : List Ident
  rowIds : List Ref
  mip : Bool

namespace Loaded

/-- Each program is named after the uid of its formulation. -/
def empty (uid : Int) : Loaded := ⟨⟨"form_" ++ toString uid, [], [], []⟩, [], [], false⟩

/-- Without what is to be added, the load is refused. -/
def extend {α : Type} (l : Loaded) (addition : Option α) (put : α → Loaded) :
    Outcome Loaded Unit :=
  match addition with
  | some a => .ok (put a) ()
  | none => .refuse l .refusedBySolver

def addColumn (intake : Intake) (l : Loaded) (entry : Ident × Variable) : Outcome Loaded Unit :=
  l.extend (columnOf? intake entry.2) fun column =>
    { l with
      program := { l.program with columns := l.program.columns ++ [column] }
      columnIds := l.columnIds ++ [entry.1]
      mip := l.mip || column.integer }

def setObjective (intake : Intake) (l : Loaded) (sent : List (Ident × Variable)) :
    Outcome Loaded Unit :=
  l.extend (objectiveOf? intake sent) fun objective =>
    { l with program := { l.program with objective := objective } }

def addRow (intake : Intake) (f : Formulation) (l : Loaded) (entry : Ref × Constraint) :
    Outcome Loaded Unit :=
  l.extend (rowOf? intake f l.columnIds entry) fun row =>
    { l with
      program := { l.program with rows := l.program.rows ++ [row] }
      rowIds := l.rowIds ++ [entry.1] }

end Loaded

/-- Columns come first, then the objective, then the rows. A refusal ends the load, and what has
been loaded before it stays. -/
def load (intake : Intake) (f : Formulation) : Outcome Loaded Unit :=
  let columns := Outcome.forEach (Loaded.addColumn intake) (.empty f.uid) (sentVariables f)
  let withObjective := columns.andThen fun l _ => l.setObjective intake (sentVariables f)
  withObjective.andThen fun l _ => .forEach (Loaded.addRow intake f) l (sentConstraints f)

/-- A solution lists a value, if any, for every column. -/
structure Answer where
  solution : Option (List (Option Float))
  solveStatus : Option String
  objective : Float
  bestBound : Float
  duals : List (Option Float)

/-- What is known without a run. -/
def Answer.withoutRun (solution : Option (List (Option Float))) : Answer :=
  ⟨solution, none, 0, 0, []⟩

/-- One text occurs within another. -/
def occursIn (part : List Char) : List Char → Bool
  | [] => part.isEmpty
  | c :: rest => part.isPrefixOf (c :: rest) || occursIn part rest

/-- The words of a status are looked for in a fixed order, whatever their case. -/
def statusOf : Option String → SolutionStatus
  | none => .notSolved
  | some status =>
      let lowered := (Text.lower status).toList
      let mentions (word : String) : Bool := occursIn word.toList lowered
      if mentions "optimal" then .optimal
      else if mentions "infeasible" && mentions "unbounded" then .infOrUnbounded
      else if mentions "infeasible" then .infeasible
      else if mentions "unbounded" then .unbounded
      else if mentions "time" || mentions "limit" || mentions "feasible" then .timeLimit
      else .error

/-- Without a solution and without a status the program counts as infeasible. -/
def terminationOf (a : Answer) : SolutionStatus :=
  if a.solution.isNone && a.solveStatus.isNone then .infeasible else statusOf a.solveStatus

def resultCount (a : Answer) : Int := if a.solution.isSome then 1 else 0

def primalValues (l : Loaded) (a : Answer) : Values :=
  .ofList ((l.columnIds.zip (a.solution.getD [])).filterMap fun entry =>
    match entry.2 with
    | some v => if isNonzero v then some (.ident entry.1, v) else none
    | none => none)

/-- A missing dual is zero; an integer program has none. -/
def dualValues (l : Loaded) (a : Answer) : Option Values :=
  if l.mip || a.solution.isNone then none
  else some (.ofList ((l.rowIds.zip a.duals).map fun entry => (entry.1, entry.2.getD 0)))

def dualBound (l : Loaded) (a : Answer) : Option Float :=
  if l.mip && a.solution.isSome then some a.bestBound else none

def report (l : Loaded) (a : Answer) : Report :=
  { status := terminationOf a
    resultCount := resultCount a
    objective := a.objective
    primal := .ok (primalValues l a)
    duals := .ok (dualValues l a)
    dualBound := dualBound l a }

/-- Options are checked when a program is loaded, and not before. -/
structure Options where
  timeLimit : Option Float
  verbosity : Datum
  threads : Datum
  mipGap : Option Float

/-- The options as the solver takes them. -/
structure Switches where
  output : Bool
  threads : Int
  timeLimit : Float
  mipGap : Float

/-- The gap at which a search stops unless another is asked for. -/
def standardGap : Float := Binary64.ofDecimal false 1 (-4)

/-- The solver's time limit when none is asked for. -/
def noTimeLimit : Float := Binary64.ofDecimal false 1 75

namespace Options

/-- A limit below one second is raised to it; a negative one and one beyond the solver's own are
refused. -/
def solverTimeLimit (o : Options) : Except Fault Float :=
  match o.timeLimit with
  | none => .ok noTimeLimit
  | some limit =>
      if 0 <= limit ∧ limit < 1 then .ok 1
      else if 1 <= limit ∧ limit <= noTimeLimit then .ok limit
      else .error .refusedBySolver

/-- The largest number of threads that the solver takes. -/
def mostThreads : Int := 2100000000

/-- A number of threads that is not positive leaves the choice to the solver. -/
def solverThreads (o : Options) : Except Fault Int := do
  if ← exceeds o.threads 0 then
    match o.threads with
    | .int n => if n ≤ mostThreads then .ok n else .error .refusedBySolver
    | _ => .error .refusedBySolver
  else .ok 0

/-- A gap is a share of the whole: what lies outside of it is refused. A gap has to be given, as it
has a standard value. -/
def solverGap (o : Options) : Except Fault Float :=
  match o.mipGap with
  | some gap => if gap < 0 ∨ gap > 1 then .error .refusedBySolver else .ok gap
  | none => .error .badType

def switches (o : Options) : Except Fault Switches := do
  let output ← exceeds o.verbosity 0
  let timeLimit ← o.solverTimeLimit
  let threads ← o.solverThreads
  let gap ← o.solverGap
  .ok ⟨output, threads, timeLimit, gap⟩

end Options

/-- The adapter's options and its last run, or what is left of one that was refused, and what the
solver behind it keeps. -/
structure Backend where
  options : Options
  last : Option (Loaded × Answer)
  intake : Intake

namespace Backend

def describe (b : Backend) : String :=
  "CPLEXBackend(time_limit=" ++ Datum.optionText Number.text b.options.timeLimit
    ++ ", threads=" ++ b.options.threads.plain ++ ")"

def columnCount (b : Backend) : Nat := (b.last.map (·.1.program.columns.length)).getD 0

def rowCount (b : Backend) : Nat := (b.last.map (·.1.program.rows.length)).getD 0

def mip (b : Backend) : Bool := (b.last.map (·.1.mip)).getD false

/-- The solution that is known after the last run. -/
def solution (b : Backend) : Option (List (Option Float)) := b.last.bind (·.2.solution)

/-- The formulation is loaded, and the solver gives the answer. Refused options leave an empty
program behind, and the solution known before; a refused load leaves the part loaded and no
solution. -/
def run (b : Backend) (f : Formulation) (a : Answer) : Outcome Backend Report :=
  match b.options.switches with
  | .error fault => .refuse { b with last := some (.empty f.uid, .withoutRun b.solution) } fault
  | .ok _ =>
      let loaded := load b.intake f
      match loaded.result with
      | .error fault => .refuse { b with last := some (loaded.state, .withoutRun none) } fault
      | .ok _ => .ok { b with last := some (loaded.state, a) } (Cplex.report loaded.state a)

end Backend

end Decomposition.Cplex
