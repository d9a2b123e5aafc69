import Decomposition.Fault
import Decomposition.OrderedMap
import Decomposition.Text.Case

namespace Decomposition

/-- The environment may name a log level and a solver. -/
structure Environment where
  logLevel : Option String
  solver : Option String
  deriving Inhabited

abbrev Tolerances := OrderedMap String Float

/-- The level and the solver should be texts, and the two numbers integers. What is given in their
place is kept. -/
structure Settings where
  logLevel : Datum
  defaultSolver : Datum
  numThreads : Datum
  maxElems : Datum
  tolerances : Tolerances

namespace Settings

/-- Levels from the environment are written in upper case. -/
def standardLevel (env : Environment) : String := Text.upper (env.logLevel.getD "INFO")

/-- Solver names from the environment are written in lower case. -/
def standardSolver (env : Environment) : String := Text.lower (env.solver.getD "highs")

def standardThreads : Int := 1

/-- The size of the identifier space that extracted relations are expected to need. -/
def standardMaxElems : Int := 10000000

/-- The tolerance under a name that is not known. -/
def fallbackTolerance : Float := Binary64.ofDecimal false 1 (-6)

def standardTolerances : List (String × Float) :=
  [("optimality", Binary64.ofDecimal false 1 (-6)),
    ("feasibility", Binary64.ofDecimal false 1 (-6)),
    ("integrality", Binary64.ofDecimal false 1 (-5)),
    ("reduced_cost", Binary64.ofDecimal false 1 (-6))]

/-- The given tolerances are written over the standard ones. -/
def completeTolerances (given : Tolerances) : Tolerances :=
  (OrderedMap.ofList standardTolerances).insertAll given.entries

def standard (env : Environment) : Settings :=
  { logLevel := .text (standardLevel env)
    defaultSolver := .text (standardSolver env)
    numThreads := .int standardThreads
    maxElems := .int standardMaxElems
    tolerances := completeTolerances .empty }

def tolerance (s : Settings) (name : String) : Float := s.tolerances.getD name fallbackTolerance

/-- The size hint for extracted relations, if it is a number that can serve as one. -/
def sizeHint (s : Settings) : Option Int :=
  match s.maxElems with
  | .int n => some n
  | _ => none

def setTolerance (s : Settings) (name : String) (value : Float) : Settings :=
  { s with tolerances := s.tolerances.insert name value }

end Settings

end Decomposition
