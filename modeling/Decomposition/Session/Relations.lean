import Decomposition.Relation.Freezing

namespace Decomposition

/-- A number with the mark that it got when it was entered. Copies carry the mark along, so that an
undefined number, which equals no number at all, agrees with its own copies and nothing else. -/
structure Coefficient where
  value : Float
  mark : Nat

namespace Coefficient

instance : BEq Coefficient := ⟨fun a b => a.value == b.value || a.mark == b.mark⟩

/-- The mark of the zero that stands for an absent coefficient. -/
def absentMark : Nat := 0

instance : OfNat Coefficient 0 := ⟨⟨0, absentMark⟩⟩

/-- Numbers that are entered together get marks that follow on each other. -/
def enter {κ : Type} [BEq κ] (first : Nat) (entries : List (κ × Float)) :
    OrderedMap κ Coefficient :=
  .ofList ((entries.zipIdx first).map fun entry => (entry.1.1, ⟨entry.1.2, entry.2⟩))

end Coefficient

/-- All identifiers, those with a listed uid, or those whose uid leaves a given remainder. -/
inductive UidChoice where
  | all
  | listed (uids : List Int)
  | remainder (divisor rest : Int)

namespace UidChoice

/-- Quotients are rounded down. -/
def holds (c : UidChoice) (id : Ident) : Bool :=
  match c with
  | .all => true
  | .listed uids => uids.contains id.uid
  | .remainder divisor rest => Int.fmod id.uid divisor == rest

/-- Division by zero leaves no remainder. -/
def isUndefined : UidChoice → Bool
  | .all | .listed _ => false
  | .remainder divisor _ => divisor == 0

def test (c : UidChoice) (id : Ident) : Except Fault Bool :=
  if c.isUndefined then .error .zeroDivisor else .ok (c.holds id)

end UidChoice

/-- Relations under names, where a name that is given again stands for the newer relation. The
numbers that are entered are counted, so that no two of them get the same mark. -/
structure RelationSession where
  relations : OrderedMap String (Relation Ident Coefficient)
  entered : Nat

namespace RelationSession

def start : RelationSession := ⟨.empty, Coefficient.absentMark⟩

def find (s : RelationSession) (name : String) : Relation Ident Coefficient :=
  s.relations.getD name (.empty none)

/-- Nothing is done for a request with a name that stands for nothing. -/
def require (s : RelationSession) (names : List String) : Except Fault Unit :=
  if names.all s.relations.contains then .ok () else .error .unknownName

/-- The relation with its numbers alone. -/
def numbers (s : RelationSession) (name : String) : Relation Ident Float :=
  (s.find name).map Coefficient.value

def put (s : RelationSession) (name : String) (m : Relation Ident Coefficient) :
    RelationSession :=
  { s with relations := s.relations.insert name m }

/-- Numbers are entered and written. A refused write changes no relation. -/
def write (s : RelationSession) (name : String) (entries : List (Ident × Float))
    (f : Relation Ident Coefficient → OrderedMap Ident Coefficient →
      Except Fault (Relation Ident Coefficient)) : Outcome RelationSession Unit :=
  let marked := Coefficient.enter (s.entered + 1) entries
  let counted := { s with entered := s.entered + entries.length }
  .ofChange counted ((f (s.find name) marked).map (counted.put name))

def set (s : RelationSession) (name : String) (r c : Ident) (v : Float) :
    Outcome RelationSession Unit :=
  s.write name [(c, v)] fun m line => m.set r c (line.getD c 0)

def addRow (s : RelationSession) (name : String) (r : Ident) (entries : List (Ident × Float)) :
    Outcome RelationSession Unit :=
  s.write name entries (·.addRow r ·)

def addColumn (s : RelationSession) (name : String) (c : Ident) (entries : List (Ident × Float)) :
    Outcome RelationSession Unit :=
  s.write name entries (·.addColumn c ·)

def resetRow (s : RelationSession) (name : String) (r : Ident) (entries : List (Ident × Float)) :
    Outcome RelationSession Unit :=
  s.write name entries (·.resetRow r ·)

def resetColumn (s : RelationSession) (name : String) (c : Ident)
    (entries : List (Ident × Float)) : Outcome RelationSession Unit :=
  s.write name entries (·.resetColumn c ·)

/-- Rows are chosen among the candidates, and then columns among the entries of the chosen rows. -/
def extract (s : RelationSession) (name : String) (rows columns : UidChoice)
    (capacity : Option Int) (candidates : Option (List Ident)) :
    Except Fault (Relation Ident Coefficient) :=
  let source := s.find name
  let looked := candidates.getD source.cells.rows.keys
  let chosen := looked.filter rows.holds
  if rows.isUndefined && !looked.isEmpty then .error .zeroDivisor
  else if columns.isUndefined && chosen.any fun r => (source.cells.row r).size != 0 then
    .error .zeroDivisor
  else .ok (source.extract rows.holds columns.holds capacity candidates)

def same (s : RelationSession) (a b : String) : Bool := (s.find a).same (s.find b)

end RelationSession

end Decomposition
