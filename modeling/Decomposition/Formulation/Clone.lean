import Decomposition.Formulation.Basic

namespace Decomposition.Formulation

/-- How clones are marked. -/
structure Mark where
  flag : Flag
  duty : Duty

/-- One entity is added to the destination without coefficients, and its origin is noted. What
stands under a plain value has no clone. -/
def cloneElement (dest : Formulation) (source : Int) (e : Element) (mark : Mark) :
    Outcome Formulation Element :=
  match e.id.toIdent with
  | .error fault => .refuse dest fault
  | .ok origin =>
      let id := origin.cloned mark.duty dest.uid
      let copy := e.copy id mark.flag
      (dest.addElement copy none).andThen fun added _ =>
        .ok { added with cloneOrigins := added.cloneOrigins.insert id (source, origin) } copy

/-- The coefficients of an identifier: the column of a variable, the row of a constraint. -/
def membership (f : Formulation) (id : Ident) : Values :=
  match id.kind with
  | .variable => f.coefficients.cells.column id
  | .constraint => f.coefficients.cells.row id

/-- Further coefficients are written next to those that the entity has. -/
def mergeMembership (f : Formulation) (e : Element) (members : Values) :
    Outcome Formulation Unit :=
  f.writeCoefficients
    (match e with
      | .variable v => f.coefficients.addColumn v.id members
      | .constraint c => f.coefficients.addRow c.id members)

/-- One entity is cloned together with its coefficients. The clone keeps the uid of its origin, so
that these can be taken over as they are. -/
def cloneOne (source dest : Formulation) (mark : Mark) (ref : Ref) :
    Outcome Formulation Element :=
  match ref, source.element ref with
  | _, .error fault => .refuse dest fault
  | .other d, .ok _ => .refuse dest (.notAnIdent d.typeName)
  | .ident id, .ok e =>
      (dest.cloneElement source.uid e mark).andThen fun cloned copy =>
        (cloned.mergeMembership copy (source.membership id)).map fun _ => copy

/-- The clones are made in order, and the first that is refused ends the run. -/
def cloneInto (source dest : Formulation) (mark : Mark) :
    List Ref → Outcome Formulation (List Element)
  | [] => .ok dest []
  | ref :: rest =>
      (cloneOne source dest mark ref).andThen fun next copy =>
        (cloneInto source next mark rest).map (copy :: ·)

/-- Source and destination are one formulation, so each clone is read from the state that the ones
before it have left. -/
def cloneWithin (f : Formulation) (mark : Mark) : List Ref → Outcome Formulation (List Element)
  | [] => .ok f []
  | ref :: rest =>
      (cloneOne f f mark ref).andThen fun next copy =>
        (cloneWithin next mark rest).map (copy :: ·)

end Decomposition.Formulation
