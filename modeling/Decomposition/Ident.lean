import Decomposition.Duty

namespace Decomposition

inductive EntityKind where
  | variable | constraint
  deriving DecidableEq, Repr, Inhabited

/-- The duty and the formulations of origin and assignment are carried along and take no part in
comparisons, so that a clone, which keeps the uid, is found wherever its origin was. -/
structure Ident where
  kind : EntityKind
  uid : Int
  duty : Duty
  origin : Option Int
  assigned : Option Int
  deriving Repr, Inhabited

namespace Ident

/-- A variable's identifier without history. -/
def ofVar (uid : Int) : Ident := ⟨.variable, uid, .compactVar, none, none⟩

/-- A constraint's identifier without history. -/
def ofConstr (uid : Int) : Ident := ⟨.constraint, uid, .compactConstr, none, none⟩

/-- Kind and uid decide. -/
def same (a b : Ident) : Bool := a.kind == b.kind && a.uid == b.uid

instance : BEq Ident := ⟨same⟩

theorem beq_iff {a b : Ident} : (a == b) = true ↔ a.kind = b.kind ∧ a.uid = b.uid := by
  change (a.kind == b.kind && a.uid == b.uid) = true ↔ _
  simp

instance : EquivBEq Ident where
  rfl := beq_iff.2 ⟨rfl, rfl⟩
  symm h := beq_iff.2 ⟨(beq_iff.1 h).1.symm, (beq_iff.1 h).2.symm⟩
  trans h h' := beq_iff.2 ⟨(beq_iff.1 h).1.trans (beq_iff.1 h').1,
    (beq_iff.1 h).2.trans (beq_iff.1 h').2⟩

def typeName (a : Ident) : String :=
  match a.kind with
  | .variable => "VarId"
  | .constraint => "ConstrId"

def describe (a : Ident) : String := a.typeName ++ "(" ++ toString a.uid ++ ")"

/-- The identifier of a clone has a new duty and belongs to another formulation. -/
def cloned (a : Ident) (duty : Duty) (form : Int) : Ident :=
  { a with duty := duty, assigned := some form }

/-- Identifiers of different kinds are not ordered. -/
def compare? (a b : Ident) : Option Ordering :=
  if a.kind = b.kind then some (compare a.uid b.uid) else none

/-- Ordered by uid, keeping the order of equal uids. -/
def sortByUid (ids : List Ident) : List Ident :=
  ids.mergeSort fun a b => a.uid ≤ b.uid

/-- A list with identifiers of both kinds cannot be sorted. -/
def sort? (ids : List Ident) : Option (List Ident) :=
  if ids.all fun a => ids.all fun b => a.kind == b.kind then some (sortByUid ids) else none

/-- Constraints before variables, each ordered by uid. -/
def sortByKind (ids : List Ident) : List Ident :=
  sortByUid (ids.filter (·.kind == .constraint)) ++ sortByUid (ids.filter (·.kind == .variable))

/-- The first of each class of equal identifiers. -/
def unique (ids : List Ident) : List Ident :=
  ids.foldl (fun found a => if found.any (· == a) then found else found ++ [a]) []

end Ident

/-- A source of fresh integers; the value is the last one handed out. -/
structure Counter where
  value : Int
  deriving DecidableEq, Repr

namespace Counter

def zero : Counter := ⟨0⟩

instance : Inhabited Counter := ⟨zero⟩

/-- The number drawn is the new value. -/
def next (c : Counter) : Counter := ⟨c.value + 1⟩

/-- The counter after each of the next draws. -/
def draws (c : Counter) : Nat → List Counter
  | 0 => []
  | n + 1 => c.next :: c.next.draws n

def describe (c : Counter) : String := "IdCounter(value=" ++ toString c.value ++ ")"

end Counter

end Decomposition
