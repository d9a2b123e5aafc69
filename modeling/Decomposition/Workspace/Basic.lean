import Decomposition.Journal
import Decomposition.Registry
import Decomposition.Solver.Adapter

namespace Decomposition

structure FormHandle where
  registry : Nat
  uid : Int
  deriving DecidableEq, Inhabited

/-- One entity may be added to several formulations, and a change through one of them is then seen
in all: its state is kept once, in a slot. A formulation may have a solver attached, which is known
by its position. -/
structure Workspace where
  registries : List Registry
  slots : List Element
  solvers : List Solver
  attached : OrderedMap FormHandle Nat
  settings : Settings
  journal : List Event

namespace Workspace

def empty (env : Environment) : Workspace := ⟨[], [], [], .empty, .standard env, []⟩

def note (w : Workspace) (events : List Event) : Workspace :=
  { w with journal := w.journal ++ events }

/-- The present state of a variable. -/
def presentVariable (slots : List Element) (v : Variable) : Variable :=
  match v.slot.bind (slots[·]?) with
  | some (.variable present) => { present with slot := v.slot }
  | _ => v

def presentConstraint (slots : List Element) (c : Constraint) : Constraint :=
  match c.slot.bind (slots[·]?) with
  | some (.constraint present) => { present with slot := c.slot }
  | _ => c

/-- The formulation with the present states of its entities. -/
def checkout (slots : List Element) (f : Formulation) : Formulation :=
  { f with
    vars := f.vars.map (presentVariable slots)
    constrs := f.constrs.map (presentConstraint slots) }

section Slots
variable {κ δ : Type} [BEq κ] [EntityRecord δ]

/-- The stored entities that have no slot yet. -/
def unplaced (s : Store κ (Entity κ δ)) : List κ :=
  (s.filter fun _ e => e.slot.isNone).keys

/-- Entities without a slot get the slots from `first` on, in the order of the store. -/
def place (first : Nat) (s : Store κ (Entity κ δ)) : Store κ (Entity κ δ) :=
  let fresh := unplaced s
  { s with
    members := s.members.map fun key e =>
      { e with slot := some (e.slot.getD (first + fresh.findIdx (· == key))) } }

end Slots

/-- The state of an entity with a slot goes into that slot. -/
def keep (slots : List Element) (e : Element) : List Element :=
  match e.slot with
  | none => slots
  | some n => slots.set n e

/-- The slots hold the states of the formulation's entities, variables before constraints. -/
def commit (slots : List Element) (f : Formulation) : List Element × Formulation :=
  let vars := place slots.length f.vars
  let middle := slots.length + (unplaced f.vars).length
  let constrs := place middle f.constrs
  let fresh := (unplaced f.vars).length + (unplaced f.constrs).length
  let elements :=
    vars.members.values.map Element.variable
      ++ constrs.members.values.map Element.constraint
  (elements.foldl keep (slots ++ List.replicate fresh default),
    { f with vars := vars, constrs := constrs })

def registry (w : Workspace) (index : Nat) : Registry := w.registries.getD index .empty

def putRegistry (w : Workspace) (index : Nat) (r : Registry) : Workspace :=
  { w with registries := w.registries.set index r }

/-- The formulation with the present states of its entities. -/
def form (w : Workspace) (h : FormHandle) : Except Fault Formulation :=
  ((w.registry h.registry).get h.uid).map (checkout w.slots)

/-- One formulation of a registry is checked out, the registry is changed, and the formulation is
committed. -/
def onRegistry {α : Type} (w : Workspace) (h : FormHandle)
    (change : Registry → Outcome Registry α) : Outcome Workspace α :=
  match w.form h with
  | .error fault => .refuse w fault
  | .ok form =>
      let done := change ((w.registry h.registry).put form)
      match done.state.get h.uid with
      | .error fault => .refuse w fault
      | .ok changed =>
          let (slots, placed) := commit w.slots changed
          ⟨{ w.putRegistry h.registry (done.state.put placed) with slots := slots }, done.result⟩

def onForm {α : Type} (w : Workspace) (h : FormHandle)
    (change : Formulation → Outcome Formulation α) : Outcome Workspace α :=
  w.onRegistry h (·.onForm h.uid change)

def newRegistry (w : Workspace) : Workspace × Nat :=
  ({ w with registries := w.registries ++ [.empty] }, w.registries.length)

def newSolver (w : Workspace) (solver : Solver) : Workspace × Nat :=
  ({ w with solvers := w.solvers ++ [solver] }, w.solvers.length)

def attach (w : Workspace) (h : FormHandle) : Option Nat → Workspace
  | none => w
  | some solver => { w with attached := w.attached.insert h solver }

/-- A formulation is a parent of its own registry's formulations only. -/
def newForm (w : Workspace) (index : Nat) (duty : FormDuty) (parent : Option FormHandle)
    (solver : Option Nat) : Outcome Workspace FormHandle :=
  let offered := parent.map fun h =>
    if h.registry = index then Parent.own h.uid else Parent.foreign h.uid
  match (w.registry index).newFormulation duty offered with
  | .error fault => .refuse w fault
  | .ok (registry, form) =>
      let handle : FormHandle := ⟨index, form.uid⟩
      .ok ((w.putRegistry index registry).attach handle solver) handle

/-- A formulation outside every registry may have any uid and name any parent. -/
def newLooseForm (w : Workspace) (uid : Int) (duty : FormDuty) (parent : Option Int)
    (solver : Option Nat) : Workspace × FormHandle :=
  let (added, index) := w.newRegistry
  let handle : FormHandle := ⟨index, uid⟩
  ((added.putRegistry index (Registry.empty.put (.empty uid duty parent))).attach handle solver,
    handle)

/-- An entity outside every formulation gets a slot of its own. -/
def newElement (w : Workspace) (e : Element) : Workspace × Nat :=
  let slot := w.slots.length
  ({ w with slots := w.slots ++ [e.withSlot (some slot)] }, slot)

def element (w : Workspace) (slot : Nat) : Element := w.slots.getD slot default

def modifyElement (w : Workspace) (slot : Nat) (f : Element → Element) : Workspace :=
  { w with slots := w.slots.modify slot f }

/-- The slot of an entity that a formulation holds. -/
def slotOf (w : Workspace) (h : FormHandle) (ref : Ref) : Except Fault (Option Nat) := do
  let form ← w.form h
  let e ← form.stored ref
  .ok e.slot

end Workspace

end Decomposition
