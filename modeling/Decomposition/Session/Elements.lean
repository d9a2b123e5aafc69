import Decomposition.Session.Basic

namespace Decomposition.Session

/-- The entity as it is now. -/
def stored (s : Session) (form : String) (ref : Ref) : Except Fault Element := do
  let f ← s.space.form (s.handle form)
  f.stored ref

/-- A name for an entity that a formulation holds. -/
def nameElement (s : Session) (form : String) (ref : Ref) (name : Option String) :
    Outcome Session Element :=
  let named :=
    match name, s.space.slotOf (s.handle form) ref with
    | some n, .ok (some slot) => { s with elements := s.elements.insert n slot }
    | _, _ => s
  ⟨named, s.stored form ref⟩

def createVariable (s : Session) (form : String) (name : Option String)
    (draft : Formulation.Draft VarData) (column : Option Values) : Outcome Session Element :=
  (s.onSpace (s.space.createVariable (s.handle form) draft column)).andThen fun s v =>
    s.nameElement form (.ident v.id) name

def createConstraint (s : Session) (form : String) (name : Option String)
    (draft : Formulation.Draft ConstrData) (row : Option Values) : Outcome Session Element :=
  (s.onSpace (s.space.createConstraint (s.handle form) draft row)).andThen fun s c =>
    s.nameElement form c.id name

/-- An entity outside every formulation. -/
def make (s : Session) (name : String) (e : Element) : Session :=
  let (space, slot) := s.space.newElement e
  { s with space := space, elements := s.elements.insert name slot }

def slot (s : Session) (name : String) : Nat := s.elements.getD name 0

def element (s : Session) (name : String) : Element := s.space.element (s.slot name)

/-- A change of the entity is seen in every formulation that holds it. -/
def modifyElement (s : Session) (name : String) (f : Element → Element) :
    Outcome Session Element :=
  let changed := { s with space := s.space.modifyElement (s.slot name) f }
  .ok changed (changed.element name)

/-- The entity that a reference names, as it is after a change of its formulation. -/
def changeElement (s : Session) (form : String) (ref : Ref)
    (change : Formulation → Except Fault Formulation) : Outcome Session Element :=
  (s.changeForm form fun f => .ofChange f (change f)).andThen fun s f => ⟨s, f.stored ref⟩

def clone (s : Session) (source dest : String) (mark : Formulation.Mark) (refs : List Ref) :
    Outcome Session (List Element) :=
  s.onSpace (s.space.clone (s.handle source) (s.handle dest) mark refs)

def cloneOne (s : Session) (source dest : String) (mark : Formulation.Mark) (ref : Ref) :
    Outcome Session Element :=
  s.onSpace (s.space.cloneOne (s.handle source) (s.handle dest) mark ref)

end Decomposition.Session
