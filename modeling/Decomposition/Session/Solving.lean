import Decomposition.Session.Basic

namespace Decomposition.Session

def optimize (s : Session) (form : String) (choice : Option SolverChoice) (update : Bool) :
    Outcome Session OptimizationResult :=
  let (ready, given) := s.solver choice
  ready.onSpace (ready.space.optimize (ready.handle form) given update)

/-- Which adapter is to run: a kept one, or a new one. -/
inductive AdapterChoice where
  | kept (name : String)
  | fresh (solver : String) (options : OptionTable)

/-- A solver of another kind is not run through an adapter. -/
def adapter (s : Session) : AdapterChoice → Except Fault Adapter
  | .kept name =>
      match (s.findSolver name).bind Solver.adapter? with
      | some a => .ok a
      | none => .error .noSuchPart
  | .fresh solver options => Adapter.create s.space.settings (.text solver) options

/-- The adapter with its answer becomes a solver of the session. A kept one stays where it is, under
the names that it has. -/
def installAdapter (s : Session) (choice : AdapterChoice) (keepAs : Option String) (a : Adapter)
    (answer : Adapter.Answer) : Session × Nat :=
  match choice with
  | .kept name =>
      let index := s.solvers.getD name 0
      let solvers := s.space.solvers.set index (.adapted a answer)
      ({ s with space := { s.space with solvers := solvers } }, index)
  | .fresh _ _ => s.newSolver keepAs (.adapted a answer)

/-- The settings and the answer of the adapter are changed first, and stay changed when the run is
refused. -/
def runAdapter (s : Session) (form : String) (choice : AdapterChoice) (keepAs : Option String)
    (adjust : Adapter → Adapter) (answer : Adapter.Answer) (update : Bool) :
    Outcome Session Adapter.Run :=
  match (s.adapter choice).map adjust with
  | .error fault => .refuse s fault
  | .ok before =>
      let (ready, index) := s.installAdapter choice keepAs before answer
      (ready.onSpace (ready.space.optimize (ready.handle form) (some index) update)).andThen
        fun solved result =>
          let after := (solved.space.solvers[index]?.bind Solver.adapter?).getD before
          .ok solved ⟨before, after, result⟩

def keepSnapshot (s : Session) (name : String) (taken : Except Fault Snapshot) :
    Outcome Session Snapshot :=
  match taken with
  | .error fault => .refuse s fault
  | .ok snapshot => .ok { s with snapshots := s.snapshots.insert name snapshot } snapshot

def takePricing (s : Session) (form name : String) (capacity : Option Int) :
    Outcome Session Snapshot :=
  s.keepSnapshot name do
    let f ← s.space.form (s.handle form)
    (PricingSnapshot.ofMaster f (s.space.capacity capacity)).map .pricing

def takeSubgradient (s : Session) (form name : String) (capacity : Option Int) :
    Outcome Session Snapshot :=
  s.keepSnapshot name do
    let f ← s.space.form (s.handle form)
    (SubgradientSnapshot.ofMaster f (s.space.capacity capacity)).map .subgradient

/-- Only a pricing snapshot has reduced costs. -/
def reducedCosts (s : Session) (name : String) (duals : Values) :
    Except Fault (OrderedMap Ident Float × OrderedMap Ident Float) :=
  match s.snapshots.get? name with
  | some (.pricing p) => .ok (p.reducedCosts duals)
  | _ => .error .noSuchPart

/-- Only a subgradient snapshot has a subgradient. -/
def subgradient (s : Session) (name : String) (solution : Values)
    (multiplicities : Option Values) : Except Fault Values :=
  match s.snapshots.get? name with
  | some (.subgradient g) => .ok (g.subgradient solution multiplicities)
  | _ => .error .noSuchPart

def mapSettings (s : Session) (f : Settings → Settings) : Session :=
  { s with space := { s.space with settings := f s.space.settings } }

end Decomposition.Session
