import Decomposition.Registry
import Decomposition.View.Basic

namespace Decomposition.View

def formName (name : Formulation → Option String) (f : Formulation) : Datum :=
  option .text (name f)

def formNames (name : Formulation → Option String) (forms : List Formulation) : Datum :=
  list (formName name) forms

/-- A counter whose value has no text cannot be described. -/
def describedCounter (c : Counter) : Except Fault Datum :=
  if Number.hasText c.value then .ok (.text c.describe) else .error .badValue

def counter (c : Counter) : Except Fault Datum :=
  (describedCounter c).map fun text => .list [.int c.value, text]

/-- The number drawn is shown before the counter that the draw leaves. -/
def draw (c : Counter) : Except Fault Datum :=
  (describedCounter c).map fun text => .list [.int c.value, .int c.value, text]

/-- A counter and its next draws. -/
def draws (c : Counter) (count : Nat) : Except Fault Datum := do
  let start ← counter c
  let drawn ← (c.draws count).mapM draw
  .ok (.list (start :: drawn))

/-- The formulations of a duty and the presence of uids are shown when they are asked for. -/
def registry (r : Registry) (name : Formulation → Option String)
    (duty : Option (Option FormDuty)) (uids : Option (List Int)) : Datum :=
  .table
    ([("len", nat r.size), ("repr", .text r.describe),
      ("names", formNames name (r.formulations none)),
      ("counters",
        .list [.text r.formCounter.describe, .int r.varCounter.value, .int r.constrCounter.value])]
      ++ duty.toList.map (fun d => ("by_duty", formNames name (r.formulations d)))
      ++ uids.toList.map fun us => ("contains", list (fun uid => .bool (r.contains uid)) us))

end Decomposition.View
