import Decomposition.Fault

namespace Decomposition

inductive VarKind where
  | continuous | integer | binary
  deriving DecidableEq, Repr, Inhabited

def VarKind.all : List VarKind := [.continuous, .integer, .binary]

def VarKind.name : VarKind → String
  | .continuous => "CONTINUOUS"
  | .integer => "INTEGER"
  | .binary => "BINARY"

/-- The sign restriction of a variable. -/
inductive VarSense where
  | positive | negative | free
  deriving DecidableEq, Repr, Inhabited

def VarSense.all : List VarSense := [.positive, .negative, .free]

def VarSense.name : VarSense → String
  | .positive => "POSITIVE"
  | .negative => "NEGATIVE"
  | .free => "FREE"

inductive ConstrSense where
  | greater | less | equal
  deriving DecidableEq, Repr, Inhabited

def ConstrSense.all : List ConstrSense := [.greater, .less, .equal]

def ConstrSense.name : ConstrSense → String
  | .greater => "GREATER"
  | .less => "LESS"
  | .equal => "EQUAL"

def ConstrSense.symbol : ConstrSense → String
  | .greater => ">="
  | .less => "<="
  | .equal => "=="

/-- A facultative constraint is a valid inequality that feasibility does not need. -/
inductive ConstrKind where
  | essential | facultative
  deriving DecidableEq, Repr, Inhabited

def ConstrKind.all : List ConstrKind := [.essential, .facultative]

def ConstrKind.name : ConstrKind → String
  | .essential => "ESSENTIAL"
  | .facultative => "FACULTATIVE"

/-- A value below the floor is raised to it. -/
def raiseTo (floor x : Float) : Float := if floor > x then floor else x

theorem raiseTo_raiseTo {floor : Float} (least : ¬ floor > floor) (x : Float) :
    raiseTo floor (raiseTo floor x) = raiseTo floor x := by
  unfold raiseTo
  by_cases below : floor > x
  · rw [if_pos below, if_neg least]
  · rw [if_neg below, if_neg below]

/-- A value above the ceiling is lowered to it. -/
def lowerTo (ceiling x : Float) : Float := if ceiling < x then ceiling else x

theorem lowerTo_lowerTo {ceiling : Float} (greatest : ¬ ceiling < ceiling) (x : Float) :
    lowerTo ceiling (lowerTo ceiling x) = lowerTo ceiling x := by
  unfold lowerTo
  by_cases above : ceiling < x
  · rw [if_pos above, if_neg greatest]
  · rw [if_neg above, if_neg above]

structure VarData where
  cost : Float
  lb : Float
  ub : Float
  kind : VarKind
  sense : VarSense
  active : Bool
  explicit : Bool

/-- A free choice among the nonnegative reals at no cost. -/
def VarData.plain : VarData := ⟨0, 0, Binary64.infinity, .continuous, .positive, true, true⟩

instance : Inhabited VarData := ⟨.plain⟩

structure ConstrData where
  rhs : Float
  sense : ConstrSense
  kind : ConstrKind
  active : Bool
  explicit : Bool

def ConstrData.plain : ConstrData := ⟨0, .greater, .essential, true, true⟩

instance : Inhabited ConstrData := ⟨.plain⟩

/-- What the records of variables and of constraints have in common. -/
class EntityRecord (δ : Type) where
  /-- The form that a record takes when it is built. -/
  settle : δ → δ
  /-- Building a record again changes nothing more. -/
  settle_settle (d : δ) : settle (settle d) = settle d
  isActive : δ → Bool
  setActive : Bool → δ → δ
  isExplicit : δ → Bool
  /-- The word for the entity. -/
  noun : String

/-- The bounds of a binary variable are cut to the unit interval. -/
def VarData.settle (d : VarData) : VarData :=
  if d.kind = .binary then { d with lb := raiseTo 0 d.lb, ub := lowerTo 1 d.ub } else d

theorem VarData.settle_settle (d : VarData) : d.settle.settle = d.settle := by
  have zero : ¬ (0 : Float) > 0 := by decide +kernel
  have one : ¬ (1 : Float) < 1 := by decide +kernel
  by_cases binary : d.kind = .binary
  · simp [VarData.settle, binary, raiseTo_raiseTo zero, lowerTo_lowerTo one]
  · simp [VarData.settle, binary]

instance : EntityRecord VarData where
  settle := VarData.settle
  settle_settle := VarData.settle_settle
  isActive := VarData.active
  setActive active d := { d with active := active }
  isExplicit := VarData.explicit
  noun := "Variable"

instance : EntityRecord ConstrData where
  settle := id
  settle_settle _ := rfl
  isActive := ConstrData.active
  setActive active d := { d with active := active }
  isExplicit := ConstrData.explicit
  noun := "Constraint"

/-- The perennial record has the values of the model, and the current one those in force during
search. -/
structure Entity (κ δ : Type) [EntityRecord δ] where
  id : κ
  name : String
  flag : Flag
  perennial : δ
  current : δ
  /-- Where a workspace keeps the state of an entity that several formulations share. An entity
  outside a workspace has no slot. -/
  slot : Option Nat
  /-- The perennial record has been built, and nothing changes it afterwards. -/
  built : EntityRecord.settle perennial = perennial

abbrev Variable := Entity Ident VarData

/-- A constraint may stand under a plain value, and is then refused wherever a uid or a duty is
asked of it. -/
abbrev Constraint := Entity Ref ConstrData

/-- An unnamed entity is called after its uid. -/
def Ident.nameOr (id : Ident) (name : String) : String :=
  if name.isEmpty then
    (match id.kind with
      | .variable => "x"
      | .constraint => "c") ++ toString id.uid
  else name

/-- A plain value has no uid, so an entity under one has to be named. -/
def Ref.nameOr (ref : Ref) (name : String) : Except Fault String :=
  if name.isEmpty then ref.toIdent.map (·.nameOr name) else .ok name

namespace Entity
variable {κ δ : Type} [EntityRecord δ]

def make (id : κ) (name : String) (data : δ) (flag : Flag) : Entity κ δ :=
  let perennial := EntityRecord.settle data
  ⟨id, name, flag, perennial, EntityRecord.settle perennial, none, EntityRecord.settle_settle data⟩

instance [Inhabited κ] [Inhabited δ] : Inhabited (Entity κ δ) :=
  ⟨make default default default default⟩

def ref [RefKey κ] (e : Entity κ δ) : Ref := RefKey.toRef e.id

/-- Only an identifier carries a duty. -/
def duty [RefKey κ] (e : Entity κ δ) : Except Fault Duty := e.ref.toIdent.map (·.duty)

/-- The same entity, with its identifier at hand. -/
def identified [RefKey κ] (e : Entity κ δ) : Except Fault (Entity Ident δ) :=
  e.ref.toIdent.map fun id => { e with id := id }

def isActive (e : Entity κ δ) : Bool := EntityRecord.isActive e.current
def isExplicit (e : Entity κ δ) : Bool := EntityRecord.isExplicit e.current

def setActive (active : Bool) (e : Entity κ δ) : Entity κ δ :=
  { e with current := EntityRecord.setActive active e.current }

def mapCurrent (f : δ → δ) (e : Entity κ δ) : Entity κ δ := { e with current := f e.current }

/-- The current values go back to those of the model. -/
def reset (e : Entity κ δ) : Entity κ δ := { e with current := EntityRecord.settle e.perennial }

/-- A distinct entity under another identifier. It keeps the name and both records. -/
def copy (e : Entity κ δ) (id : κ) (flag : Flag) : Entity κ δ :=
  { make id e.name e.perennial flag with current := EntityRecord.settle e.current }

def describe (e : Entity Ident δ) : String :=
  EntityRecord.noun δ ++ "(" ++ toString e.id.uid ++ ", " ++ Text.quoted e.name ++ ", "
    ++ e.id.duty.name ++ ")"

end Entity

/-- A variable or a constraint. -/
inductive Element where
  | variable (v : Variable)
  | constraint (c : Constraint)
  deriving Inhabited

namespace Element

def id : Element → Ref
  | .variable v => v.ref
  | .constraint c => c.ref

def isActive : Element → Bool
  | .variable v => v.isActive
  | .constraint c => c.isActive

def isExplicit : Element → Bool
  | .variable v => v.isExplicit
  | .constraint c => c.isExplicit

def reset : Element → Element
  | .variable v => .variable v.reset
  | .constraint c => .constraint c.reset

def copy (e : Element) (id : Ident) (flag : Flag) : Element :=
  match e with
  | .variable v => .variable (v.copy id flag)
  | .constraint c => .constraint (c.copy id flag)

def slot : Element → Option Nat
  | .variable v => v.slot
  | .constraint c => c.slot

def withSlot (slot : Option Nat) : Element → Element
  | .variable v => .variable { v with slot := slot }
  | .constraint c => .constraint { c with slot := slot }

end Element

/-- What a caller gives where a variable or a constraint is expected. -/
inductive Given where
  | element (e : Element)
  | other (value : Datum)

end Decomposition
