import Decomposition.Formulation.Basic

namespace Decomposition.Solver

/-- Active and explicit entities are sent, in the order of their stores. -/
def sentVariables (f : Formulation) : List (Ident × Variable) :=
  f.vars.entries.filter fun entry => entry.2.isActive && entry.2.isExplicit

def sentConstraints (f : Formulation) : List (Ref × Constraint) :=
  f.constrs.entries.filter fun entry => entry.2.isActive && entry.2.isExplicit

/-- The bounds are cut to the sign restriction. -/
def boundsOf (d : VarData) : Float × Float :=
  match d.sense with
  | .positive => (raiseTo 0 d.lb, d.ub)
  | .negative => (d.lb, lowerTo 0 d.ub)
  | .free => (d.lb, d.ub)

/-- Binary variables are sent as integer ones. -/
def isInteger (v : Variable) : Bool := v.current.kind != .continuous

/-- The entries of a row, as positions with coefficients. -/
abbrev Entries := List (Nat × Float)

/-- Coefficients of variables that are not sent are left out. -/
def entriesOf (columnIds : List Ident) (row : Values) : Entries :=
  row.entries.filterMap fun cell =>
    (columnIds.findIdx? (Ref.ident · == cell.1)).map fun position => (position, cell.2)

def sortEntries (entries : Entries) : Entries := entries.mergeSort fun a b => a.1 ≤ b.1

/-- The numbers by the references whose positions they stand at. Each reference has to have one. -/
def byPosition (refs : List Ref) (numbers : List Float) : Except Fault (List (Ref × Float)) :=
  if refs.length ≤ numbers.length then .ok (refs.zip numbers)
  else .error .noSuchPosition

/-- An option that is compared with a number has to be one itself. -/
def exceeds (option : Datum) (n : Int) : Except Fault Bool :=
  match option.exceeds? n with
  | some larger => .ok larger
  | none => .error .badType

/-- Values up to this size count as zero in a solution. -/
def zeroThreshold : Float := Binary64.ofDecimal false 1 (-10)

def isNonzero (v : Float) : Bool := v.abs > zeroThreshold

end Decomposition.Solver
