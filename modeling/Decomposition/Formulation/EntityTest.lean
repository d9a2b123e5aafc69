import Decomposition.Formulation.Basic

namespace Decomposition

inductive NumberOrder where
  | less
  | greater
  | equal

/-- What cannot be compared is not equal, and it is refused to ask which is the greater one. -/
def NumberOrder.holds : NumberOrder → Comparison → Except Fault Bool
  | .equal, c => .ok (c == .ordered .eq)
  | .less, .incomparable | .greater, .incomparable => .error .badType
  | .less, c => .ok (c == .ordered .lt)
  | .greater, c => .ok (c == .ordered .gt)

/-- A part of an entity: a plain value, or something of another kind. -/
inductive EntityPart where
  | plain (value : Datum)
  | other

def EntityPart.compare (part : EntityPart) (bound : Float) : Comparison :=
  match part with
  | .plain value => value.compare (.float bound)
  | .other => .incomparable

/-- An identifier is no plain value. -/
def Ref.part : Ref → EntityPart
  | .ident _ => .other
  | .other value => .plain value

/-- Parts that every value has are named between double underscores. -/
def universalParts : List String :=
  ["class", "delattr", "dict", "dir", "doc", "eq", "format", "ge", "getattribute", "getstate", "gt",
    "hash", "init", "init_subclass", "le", "lt", "module", "ne", "new", "reduce", "reduce_ex",
    "repr", "setattr", "sizeof", "str", "subclasshook", "weakref"].map fun word =>
    "__" ++ word ++ "__"

/-- The names of further parts, none of which is a plain number. -/
def otherParts : List String :=
  ["name", "flag", "perennial_data", "current_data", "copy", "reset_to_perennial", "_copy",
    "_prefix"]

/-- The parts that variables and constraints have in common. -/
def Entity.part {κ δ : Type} [RefKey κ] [EntityRecord δ] (e : Entity κ δ) (name : String) :
    Except Fault EntityPart :=
  match name with
  | "is_active" => .ok (.plain (.bool e.isActive))
  | "is_explicit" => .ok (.plain (.bool e.isExplicit))
  | "id" => .ok e.ref.part
  | "duty" => e.duty.map fun _ => .other
  | _ =>
      if otherParts.contains name || universalParts.contains name then .ok .other
      else .error .noSuchPart

def Variable.part (v : Variable) (name : String) : Except Fault EntityPart :=
  match name with
  | "cost" => .ok (.plain (.float v.current.cost))
  | "perennial_cost" => .ok (.plain (.float v.perennial.cost))
  | _ => Entity.part v name

def Constraint.part (c : Constraint) (name : String) : Except Fault EntityPart :=
  match name with
  | "rhs" => .ok (.plain (.float c.current.rhs))
  | "perennial_rhs" => .ok (.plain (.float c.perennial.rhs))
  | "sense" => .ok .other
  | _ => Entity.part c name

/-- A test of explicitness, of the name, of the flag, or of a part that is given by its own name.
One that has no answer is refused by the first entity that is put to it. -/
inductive EntityTest where
  | explicit (wanted : Bool)
  | named (name : String)
  | flagged (flag : String)
  | compared (part : String) (order : NumberOrder) (bound : Float)
  | anything

/-- The parts of an entity are found by their names. -/
def EntityTest.holds {κ δ : Type} [EntityRecord δ] (t : EntityTest)
    (part : Entity κ δ → String → Except Fault EntityPart) (e : Entity κ δ) : Except Fault Bool :=
  match t with
  | .explicit wanted => .ok (e.isExplicit == wanted)
  | .named name => .ok (e.name == name)
  | .flagged flag => .ok (e.flag.name == flag)
  | .compared name order bound => (part e name).bind fun found => order.holds (found.compare bound)
  | .anything => .ok true

namespace Formulation

def chooseVariables (f : Formulation) (category : Option Category) (activeOnly : Bool)
    (test : EntityTest) : Except Fault (List Ident) :=
  f.varIds ⟨category, some (test.holds Variable.part), activeOnly⟩

def chooseConstraints (f : Formulation) (category : Option Category) (activeOnly : Bool)
    (test : EntityTest) : Except Fault (List Ref) :=
  f.constrIds ⟨category, some (test.holds Constraint.part), activeOnly⟩

end Formulation

end Decomposition
