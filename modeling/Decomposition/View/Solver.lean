import Decomposition.Solver.Adapter
import Decomposition.View.Basic

namespace Decomposition.View

def stats : Adapter → Datum
  | .highs b =>
      .table
        [("num_columns", nat b.program.columns.length), ("num_rows", nat b.program.rows.length),
          ("num_nonzeros", nat b.program.nonzeros)]
  | .cplex b =>
      .table [("num_variables", nat b.columnCount), ("num_constraints", nat b.rowCount)]

/-- The entries are shown by position. -/
def entries (row : Solver.Entries) : Datum :=
  list (fun entry => .list [nat entry.1, .float entry.2]) row

def highsColumn (entry : Ident × Highs.Column) : Datum :=
  .list [ident entry.1, .float entry.2.cost, .float entry.2.lower, .float entry.2.upper,
    .bool entry.2.integer]

def highsRow (entry : Ref × Highs.Row) : Datum :=
  .list [key entry.1, .float entry.2.lower, .float entry.2.upper,
    entries (Solver.sortEntries entry.2.entries)]

def highsOptions (o : Highs.Switches) : Datum :=
  .table
    [("output_flag", .bool o.output), ("log_to_console", .bool o.output),
      ("threads", .int o.threads), ("time_limit", .float o.timeLimit)]

def highsModel (o : Highs.Switches) (l : Highs.Loaded) : Datum :=
  .table
    [("cols", list highsColumn (l.columnIds.zip l.program.columns)),
      ("rows", list highsRow (l.rowIds.zip l.program.rows)), ("options", highsOptions o)]

def cplexSense : ConstrSense → String
  | .greater => "GE"
  | .less => "LE"
  | .equal => "EQ"

def cplexColumn (c : Cplex.Column) : Datum :=
  .list [.text c.name, .float c.lower, .float c.upper, .bool c.integer]

def cplexRow (r : Cplex.Row) : Datum :=
  .list [.text r.name, entries (Solver.sortEntries r.entries), .text (cplexSense r.sense),
    .float r.rhs]

def cplexModel (o : Cplex.Switches) (l : Cplex.Loaded) : Datum :=
  .table
    [("name", .text l.program.name), ("vars", list cplexColumn l.program.columns),
      ("objective", entries l.program.objective), ("constrs", list cplexRow l.program.rows),
      ("mipgap", .float o.mipGap), ("time_limit", .float o.timeLimit), ("threads", .int o.threads),
      ("log_output", .bool o.output)]

/-- The model of the last run, with the options that were in force. -/
def model : Adapter → Datum
  | .highs b =>
      match b.last, b.options.switches with
      | some run, .ok switches => highsModel switches run.1
      | _, _ => .null
  | .cplex b =>
      match b.last, b.options.switches with
      | some run, .ok switches => cplexModel switches run.1
      | _, _ => .null

/-- What an adapter knows of its last run. -/
def adapterState (a : Adapter) : Datum :=
  .list [stats a, .text a.report.status.name, .int a.report.resultCount]

def run (r : Adapter.Run) : Datum :=
  .table
    [("before", adapterState r.before), ("loaded", model r.after), ("result", result r.result),
      ("is_mip", .bool r.after.mip), ("stats", stats r.after),
      ("dual_bound", option .float r.after.report.dualBound), ("repr", .text r.after.describe)]

/-- A scripted solver loads a formulation each time it runs; an adapter counts nothing. -/
def runs : Solver → Except Fault Datum
  | .scripted report count =>
      .ok (.table
        [("loads", nat count), ("runs", nat count), ("dual_bound", option .float report.dualBound)])
  | .adapted _ _ => .error .noSuchPart

end Decomposition.View
