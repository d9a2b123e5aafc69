import Decomposition.Snapshot
import Decomposition.Workspace.Operations

namespace Decomposition

/-- A workspace whose objects have names. A name that is given again stands for the newer object,
and a registry is made when it is first named. -/
structure Session where
  space : Workspace
  registries : OrderedMap String Nat
  forms : OrderedMap String FormHandle
  elements : OrderedMap String Nat
  snapshots : OrderedMap String Snapshot
  solvers : OrderedMap String Nat

/-- A solver is named, or its report is given. -/
inductive SolverChoice where
  | named (name : String)
  | reporting (report : Report)

/-- A formulation of a registry, or one outside every registry. -/
inductive FormPlace where
  | registered (registry : String) (parent : Option String)
  | loose (uid : Int) (parent : Option Int)

/-- The names that a request takes for granted. -/
structure SessionNames where
  forms : List String
  elements : List String
  snapshots : List String
  solvers : List String

namespace Session
variable {α : Type}

def start (env : Environment) : Session :=
  ⟨.empty env, .empty, .empty, .empty, .empty, .empty⟩

/-- Nothing is done for a request with a name that stands for nothing. -/
def require (s : Session) (names : SessionNames) : Except Fault Unit :=
  if names.forms.all s.forms.contains && names.elements.all s.elements.contains
    && names.snapshots.all s.snapshots.contains && names.solvers.all s.solvers.contains then
    .ok ()
  else .error .unknownName

def handle (s : Session) (form : String) : FormHandle := s.forms.getD form default

/-- An operation of the workspace. -/
def onSpace (s : Session) (o : Outcome Workspace α) : Outcome Session α :=
  ⟨{ s with space := o.state }, o.result⟩

def onForm (s : Session) (form : String) (change : Formulation → Outcome Formulation α) :
    Outcome Session α :=
  s.onSpace (s.space.onForm (s.handle form) change)

/-- Looking changes nothing. -/
def view (s : Session) (form : String) (look : Formulation → Except Fault α) :
    Outcome Session α :=
  ⟨s, (s.space.form (s.handle form)).bind look⟩

/-- The formulation as it is after a change. -/
def changeForm (s : Session) (form : String) (change : Formulation → Outcome Formulation Unit) :
    Outcome Session Formulation :=
  (s.onForm form change).andThen fun changed _ => changed.view form .ok

def registry (s : Session) (name : String) : Session × Nat :=
  match s.registries.get? name with
  | some index => (s, index)
  | none =>
      let (space, index) := s.space.newRegistry
      ({ s with space := space, registries := s.registries.insert name index }, index)

def solver (s : Session) : Option SolverChoice → Session × Option Nat
  | none => (s, none)
  | some (.named name) => (s, s.solvers.get? name)
  | some (.reporting report) =>
      let (space, index) := s.space.newSolver (.scripted report 0)
      ({ s with space := space }, some index)

/-- A solver may be given a name. -/
def nameSolver (s : Session) (name : Option String) (index : Nat) : Session :=
  { s with solvers := name.elim s.solvers fun n => s.solvers.insert n index }

def newSolver (s : Session) (name : Option String) (solver : Solver) : Session × Nat :=
  let (space, index) := s.space.newSolver solver
  ({ s with space := space }.nameSolver name index, index)

def findSolver (s : Session) (name : String) : Option Solver :=
  (s.solvers.get? name).bind (s.space.solvers[·]?)

def nameForm (s : Session) (name : String) (h : FormHandle) : Session :=
  { s with forms := s.forms.insert name h }

def newForm (s : Session) (name : String) (duty : FormDuty) (place : FormPlace)
    (solver : Option SolverChoice) : Outcome Session Formulation :=
  let (ready, attached) := s.solver solver
  match place with
  | .loose uid parent =>
      let (space, h) := ready.space.newLooseForm uid duty parent attached
      ({ ready with space := space }.nameForm name h).view name .ok
  | .registered registry parent =>
      let (withRegistry, index) := ready.registry registry
      let created :=
        withRegistry.space.newForm index duty (parent.map withRegistry.handle) attached
      (withRegistry.onSpace created).andThen fun s h => (s.nameForm name h).view name .ok

/-- The name of a registry's formulation. -/
def formName (s : Session) (registry : Nat) (f : Formulation) : Option String :=
  (s.forms.entries.find? (·.2 == ⟨registry, f.uid⟩)).map (·.1)

/-- The registry of a name, with the names of its formulations at hand. -/
def onRegistry (s : Session) (name : String)
    (look : Registry → (Formulation → Option String) → Except Fault α) : Outcome Session α :=
  let (ready, index) := s.registry name
  ⟨ready, look (ready.space.registry index) (ready.formName index)⟩

end Session

end Decomposition
