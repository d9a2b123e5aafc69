import Decomposition.Entity
import Decomposition.Relation.Freezing
import Decomposition.Solution
import Decomposition.Store

namespace Decomposition

/-- One mathematical program of the decomposition. Beside its entities and the coefficients between
them it has the right-hand side that each constraint had when it was added, the best bounds and
solutions known, and the origins of its clones. Entities are never deleted, only deactivated. -/
structure Formulation where
  uid : Int
  duty : FormDuty
  parent : Option Int
  vars : Store Ident Variable
  constrs : Store Ref Constraint
  coefficients : Relation Ref Float
  recordedRhs : OrderedMap Ref Float
  minimize : Bool
  primalBound : Float
  dualBound : Float
  bestPrimal : Option PrimalSolution
  bestDual : Option DualSolution
  cloneOrigins : OrderedMap Ident (Int × Ident)
  deriving Inhabited

namespace Formulation

def empty (uid : Int) (duty : FormDuty) (parent : Option Int) : Formulation :=
  { uid := uid
    duty := duty
    parent := parent
    vars := .empty ("variables of form " ++ toString uid)
    constrs := .empty ("constraints of form " ++ toString uid)
    coefficients := .empty none
    recordedRhs := .empty
    minimize := true
    primalBound := Binary64.infinity
    dualBound := Binary64.negativeInfinity
    bestPrimal := none
    bestDual := none
    cloneOrigins := .empty }

def objectiveSense (f : Formulation) : String := if f.minimize then "Min" else "Max"

def describe (f : Formulation) : String :=
  "Formulation(uid=" ++ toString f.uid ++ ", duty=" ++ f.duty.name ++ ", vars="
    ++ toString f.vars.size ++ ", constrs=" ++ toString f.constrs.size ++ ")"

/-- The relation is the last thing that an addition writes, and a frozen one refuses. What was
written before stays. -/
def writeCoefficients (f : Formulation) (m : Except Fault (Relation Ref Float)) :
    Outcome Formulation Unit :=
  .ofChange f (m.map fun coefficients => { f with coefficients := coefficients })

/-- A given column replaces the present one; without one the column is only registered. -/
def addVariable (f : Formulation) (v : Variable) (column : Option Values) :
    Outcome Formulation Unit :=
  let stored := { f with vars := f.vars.set v.id v }
  stored.writeCoefficients
    (match column with
      | none => f.coefficients.addColumn v.id .empty
      | some members => f.coefficients.resetColumn v.id members)

/-- The perennial right-hand side is recorded beside the store. A plain value that cannot be a key
is refused before anything is written. -/
def addConstraint (f : Formulation) (c : Constraint) (row : Option Values) :
    Outcome Formulation Unit :=
  match f.constrs.put c.id c with
  | .error fault => .refuse f fault
  | .ok constrs =>
      let stored :=
        { f with
          constrs := constrs
          recordedRhs := f.recordedRhs.insert c.id c.perennial.rhs }
      stored.writeCoefficients
        (match row with
          | none => f.coefficients.addRow c.id .empty
          | some members => f.coefficients.resetRow c.id members)

def addElement (f : Formulation) (e : Element) (membership : Option Values) :
    Outcome Formulation Unit :=
  match e with
  | .variable v => f.addVariable v membership
  | .constraint c => f.addConstraint c membership

def add (f : Formulation) (given : Given) (membership : Option Values) :
    Outcome Formulation Unit :=
  match given with
  | .element e => f.addElement e membership
  | .other d => .refuse f (.notAnEntity d.typeName)

def addEach (f : Formulation) (additions : List (Given × Option Values)) :
    Outcome Formulation Unit :=
  Outcome.forEach (fun g addition => g.add addition.1 addition.2) f additions

def addAll (f : Formulation) (elements : List Given)
    (memberships : Option (List (Option Values))) : Outcome Formulation Unit :=
  match memberships with
  | none => f.addEach (elements.map fun e => (e, none))
  | some members =>
      if elements.length = members.length then f.addEach (elements.zip members)
      else .refuse f (.lengthMismatch elements.length members.length)

/-- What a new entity is made from, apart from its identifier. -/
structure Draft (δ : Type) where
  name : String
  duty : Duty
  data : δ
  flag : Flag

/-- A new entity originates in the formulation and belongs to it. -/
def freshIdent (f : Formulation) (kind : EntityKind) (uid : Int) (duty : Duty) : Ident :=
  ⟨kind, uid, duty, some f.uid, some f.uid⟩

def createVariable (f : Formulation) (uid : Int) (draft : Draft VarData) (column : Option Values) :
    Outcome Formulation Variable :=
  let id := f.freshIdent .variable uid draft.duty
  let v := Entity.make id (id.nameOr draft.name) draft.data draft.flag
  (f.addVariable v column).map fun _ => v

def createConstraint (f : Formulation) (uid : Int) (draft : Draft ConstrData)
    (row : Option Values) : Outcome Formulation Constraint :=
  let id := f.freshIdent .constraint uid draft.duty
  let c := Entity.make (Ref.ident id) (id.nameOr draft.name) draft.data draft.flag
  (f.addConstraint c row).map fun _ => c

/-- The store that an identifier's kind belongs to is asked. -/
def element (f : Formulation) (ref : Ref) : Except Fault Element :=
  match ref with
  | .ident id =>
      match id.kind with
      | .variable => (f.vars.get ref).map .variable
      | .constraint => (f.constrs.get ref).map .constraint
  | .other d => .error (.notAnIdent d.typeName)

/-- The value recorded when the constraint was added. -/
def perennialRhs (f : Formulation) (ref : Ref) : Except Fault Float :=
  match f.recordedRhs.get? ref with
  | some rhs => .ok rhs
  | none =>
      .error (if ref.isKey then .missing ref ("form " ++ toString f.uid) else .badType)

/-- A reference that is no variable's identifier is looked for among the constraints. -/
def stored (f : Formulation) (ref : Ref) : Except Fault Element :=
  match ref with
  | .ident ⟨.variable, _, _, _, _⟩ => (f.vars.get ref).map .variable
  | _ => (f.constrs.get ref).map .constraint

/-- The column of a reference, which is empty when it is not registered. -/
def column (f : Formulation) (ref : Ref) : Except Fault Values :=
  if ref.isKey then .ok (f.coefficients.cells.column ref) else .error .badType

def row (f : Formulation) (ref : Ref) : Except Fault Values :=
  if ref.isKey then .ok (f.coefficients.cells.row ref) else .error .badType

/-- The row is registered before the column is looked at, so it stays when the column is refused. -/
def setCoefficient (f : Formulation) (row column : Ref) (v : Float) : Outcome Formulation Unit :=
  if f.coefficients.frozen || (row.isKey && column.isKey) then
    f.writeCoefficients (f.coefficients.set row column v)
  else if row.isKey then
    (f.writeCoefficients (f.coefficients.addRow row .empty)).andThen fun registered _ =>
      .refuse registered .badType
  else .refuse f .badType

def modifyVariable (f : Formulation) (ref : Ref) (change : Variable → Variable) :
    Except Fault Formulation :=
  (f.vars.get ref).map fun _ => { f with vars := f.vars.modify ref change }

def modifyConstraint (f : Formulation) (ref : Ref) (change : Constraint → Constraint) :
    Except Fault Formulation :=
  (f.constrs.get ref).map fun _ => { f with constrs := f.constrs.modify ref change }

def setCost (f : Formulation) (ref : Ref) (cost : Float) : Except Fault Formulation :=
  f.modifyVariable ref (·.mapCurrent fun d => { d with cost := cost })

/-- A bound that is not given stays. -/
def setBounds (f : Formulation) (ref : Ref) (lb ub : Option Float) : Except Fault Formulation :=
  f.modifyVariable ref (·.mapCurrent fun d => { d with lb := lb.getD d.lb, ub := ub.getD d.ub })

def setRhs (f : Formulation) (ref : Ref) (rhs : Float) : Except Fault Formulation :=
  f.modifyConstraint ref (·.mapCurrent fun d => { d with rhs := rhs })

/-- The same change for an entity of either kind. -/
def modifyElement (f : Formulation) (ref : Ref) (onVariable : Variable → Variable)
    (onConstraint : Constraint → Constraint) : Except Fault Formulation :=
  match f.element ref with
  | .error fault => .error fault
  | .ok (.variable _) => f.modifyVariable ref onVariable
  | .ok (.constraint _) => f.modifyConstraint ref onConstraint

def setActive (f : Formulation) (ref : Ref) (active : Bool) : Except Fault Formulation :=
  f.modifyElement ref (·.setActive active) (·.setActive active)

def isActive (f : Formulation) (ref : Ref) : Except Fault Bool :=
  (f.element ref).map Element.isActive

def isExplicit (f : Formulation) (ref : Ref) : Except Fault Bool :=
  (f.element ref).map Element.isExplicit

def resetElement (f : Formulation) (ref : Ref) : Except Fault Formulation :=
  f.modifyElement ref Entity.reset Entity.reset

/-- The resets run in order and stop at the first that is refused. -/
def resetEach (f : Formulation) : List Ref → Outcome Formulation Unit
  | [] => .ok f ()
  | ref :: rest =>
      match f.resetElement ref with
      | .ok done => done.resetEach rest
      | .error fault => .refuse f fault

/-- Every entity of the formulation: variables first, and what stands under plain values last, since
that cannot be reset. -/
def allRefs (f : Formulation) : List Ref :=
  f.vars.ids.map .ident ++ f.constrs.ids.filter Ref.isIdent
    ++ f.constrs.ids.filter fun ref => !ref.isIdent

/-- The current values of the listed entities, or of all, go back to the perennial ones. -/
def reset (f : Formulation) (refs : Option (List Ref)) : Outcome Formulation Nat :=
  let targets := refs.getD f.allRefs
  (f.resetEach targets).map fun _ => targets.length

/-- The filters of a selection; those that are absent let everything pass. -/
structure Selection (κ δ : Type) [EntityRecord δ] where
  category : Option Category
  predicate : Option (Entity κ δ → Except Fault Bool)
  activeOnly : Bool

namespace Selection
variable {κ δ : Type} [RefKey κ] [EntityRecord δ]

def fitsCategory (s : Selection κ δ) (e : Entity κ δ) : Except Fault Bool :=
  match s.category with
  | none => .ok true
  | some category => e.duty.map category

/-- The predicate is asked last, and only of what the other filters let pass. -/
def keeps (s : Selection κ δ) (e : Entity κ δ) : Except Fault Bool := do
  let fits ← s.fitsCategory e
  if fits && (!s.activeOnly || e.isActive) then
    match s.predicate with
    | none => .ok true
    | some holds => holds e
  else .ok false

/-- The keys of the entries that pass, up to the first that has no answer. -/
def keys (s : Selection κ δ) : List (κ × Entity κ δ) → Except Fault (List κ)
  | [] => .ok []
  | (key, e) :: rest => do
      let kept ← s.keeps e
      let others ← s.keys rest
      .ok (if kept then key :: others else others)

end Selection

/-- The store's keys of the variables that pass the selection. -/
def varIds (f : Formulation) (s : Selection Ident VarData) : Except Fault (List Ident) :=
  s.keys f.vars.entries

def constrIds (f : Formulation) (s : Selection Ref ConstrData) : Except Fault (List Ref) :=
  s.keys f.constrs.entries

/-- Maximisation is refused; costs are never negated. -/
def registerSense (f : Formulation) (minimize : Bool) : Except Fault Formulation :=
  if minimize then .ok { f with minimize := true } else .error (.maximization f.uid)

/-- A bound counts only if it is better than the one known. -/
def improvePrimalBound (f : Formulation) (bound : Float) : Formulation × Bool :=
  if bound < f.primalBound then ({ f with primalBound := bound }, true) else (f, false)

def improveDualBound (f : Formulation) (bound : Float) : Formulation × Bool :=
  if bound > f.dualBound then ({ f with dualBound := bound }, true) else (f, false)

end Formulation

end Decomposition
