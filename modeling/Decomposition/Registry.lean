import Decomposition.Formulation.Clone

namespace Decomposition

/-- A registry gives out the uids of its formulations, and the uids of variables and constraints for
all of them alike. -/
structure Registry where
  forms : OrderedMap Int Formulation
  formCounter : Counter
  varCounter : Counter
  constrCounter : Counter
  deriving Inhabited

/-- A formulation that is offered as a parent lives in this registry or elsewhere. -/
inductive Parent where
  | own (uid : Int)
  | foreign (uid : Int)

namespace Registry

def empty : Registry := ⟨.empty, .zero, .zero, .zero⟩

/-- A parent from elsewhere is refused, also when its uid is in use here. -/
def parentUid (r : Registry) : Option Parent → Except Fault (Option Int)
  | none => .ok none
  | some (.own uid) =>
      if r.forms.contains uid then .ok (some uid) else .error (.foreignFormulation uid)
  | some (.foreign uid) => .error (.foreignFormulation uid)

/-- The uid of the new formulation is the next value of the counter. -/
def newFormulation (r : Registry) (duty : FormDuty) (parent : Option Parent) :
    Except Fault (Registry × Formulation) :=
  (r.parentUid parent).map fun parentUid =>
    let counter := r.formCounter.next
    let form := Formulation.empty counter.value duty parentUid
    ({ r with forms := r.forms.insert form.uid form, formCounter := counter }, form)

def get (r : Registry) (uid : Int) : Except Fault Formulation :=
  match r.forms.get? uid with
  | some form => .ok form
  | none => .error (.missingFormulation uid)

def put (r : Registry) (form : Formulation) : Registry :=
  { r with forms := r.forms.insert form.uid form }

def parentOf (r : Registry) (form : Formulation) : Except Fault (Option Formulation) :=
  match form.parent with
  | none => .ok none
  | some uid => (r.get uid).map some

def childrenOf (r : Registry) (form : Formulation) : List Formulation :=
  r.forms.values.filter fun f => f.parent == some form.uid

/-- All formulations, or those of one duty. -/
def formulations (r : Registry) (duty : Option FormDuty) : List Formulation :=
  r.forms.values.filter fun f => duty.all (· == f.duty)

def contains (r : Registry) (uid : Int) : Bool := r.forms.contains uid

def size (r : Registry) : Nat := r.forms.size

def describe (r : Registry) : String :=
  "FormulationRegistry(formulations=" ++ toString r.size ++ ")"

/-- One formulation is changed where it is kept. -/
def onForm {α : Type} (r : Registry) (uid : Int) (change : Formulation → Outcome Formulation α) :
    Outcome Registry α :=
  match r.get uid with
  | .error fault => .refuse r fault
  | .ok form =>
      let done := change form
      ⟨r.put done.state, done.result⟩

/-- The uid is drawn before anything else, and stays drawn when the creation is refused. -/
def createVariable (r : Registry) (form : Int) (draft : Formulation.Draft VarData)
    (column : Option Values) : Outcome Registry Variable :=
  let counter := r.varCounter.next
  { r with varCounter := counter }.onForm form (·.createVariable counter.value draft column)

def createConstraint (r : Registry) (form : Int) (draft : Formulation.Draft ConstrData)
    (row : Option Values) : Outcome Registry Constraint :=
  let counter := r.constrCounter.next
  { r with constrCounter := counter }.onForm form (·.createConstraint counter.value draft row)

/-- Entities of one formulation are cloned into another one, or within one. -/
def clone (r : Registry) (source dest : Int) (mark : Formulation.Mark) (refs : List Ref) :
    Outcome Registry (List Element) :=
  if source = dest then r.onForm dest (·.cloneWithin mark refs)
  else
    match r.get source with
    | .error fault => .refuse r fault
    | .ok origin => r.onForm dest fun target => origin.cloneInto target mark refs

end Registry

end Decomposition
