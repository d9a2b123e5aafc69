import Decomposition.ColumnReport
import Decomposition.Snapshot
import Decomposition.View.Basic

namespace Decomposition.View

def snapshot : Snapshot → Datum
  | .pricing s =>
      .table
        [("dw_subprob_c", values s.subproblem.costs),
          ("dw_subprob_A", relation s.subproblem.matrix),
          ("master_c", values s.pure.costs), ("master_A", relation s.pure.matrix),
          ("repr", .text s.describe)]
  | .subgradient s =>
      .table [("a", values s.rhs), ("A", relation s.matrix), ("repr", .text s.describe)]

def reducedCosts (found : OrderedMap Ident Float × OrderedMap Ident Float) : Datum :=
  .table [("subproblem", values found.1), ("master", values found.2)]

def reportTexts (r : ColumnReport) : List (String × Datum) :=
  [("str", .text r.text), ("repr", .text r.describe)]

def columnReport (r : ColumnReport) : Datum :=
  .table (reportTexts r ++ [("id", fullIdent r.column)])

end Decomposition.View
