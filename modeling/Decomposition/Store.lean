import Decomposition.Fault
import Decomposition.OrderedMap

namespace Decomposition

/-- A named store. Setting a key that is already present replaces the value and keeps the first key
and its place. -/
structure Store (κ β : Type) [BEq κ] where
  name : String
  members : OrderedMap κ β

namespace Store
variable {κ β : Type} [BEq κ]

def empty (name : String) : Store κ β := ⟨name, .empty⟩

instance : Inhabited (Store κ β) := ⟨empty "store"⟩

def set (s : Store κ β) (key : κ) (value : β) : Store κ β :=
  { s with members := s.members.insert key value }

def get? (s : Store κ β) (key : κ) : Option β := s.members.get? key

def size (s : Store κ β) : Nat := s.members.size

def entries (s : Store κ β) : List (κ × β) := s.members.entries

def ids (s : Store κ β) : List κ := s.members.keys

def filter (s : Store κ β) (keep : κ → β → Bool) : OrderedMap κ β := s.members.filter keep

/-- Every value is replaced, the keys stay. -/
def map {γ : Type} (s : Store κ β) (f : β → γ) : Store κ γ :=
  ⟨s.name, s.members.map fun _ value => f value⟩

def describe (s : Store κ β) : String :=
  "EntityStore('" ++ s.name ++ "', size=" ++ toString s.size ++ ")"

/-- A reference that cannot be a key is refused. -/
def put (s : Store Ref β) (ref : Ref) (value : β) : Except Fault (Store Ref β) :=
  if ref.isKey then .ok (s.set ref value) else .error .badType

variable [RefKey κ]

/-- The value that a reference finds. -/
def find? (s : Store κ β) (ref : Ref) : Option β := (RefKey.ofRef? ref).bind s.get?

def get (s : Store κ β) (ref : Ref) : Except Fault β :=
  match s.find? ref with
  | some value => .ok value
  | none => .error (if ref.isKey then .missing ref s.name else .badType)

def contains (s : Store κ β) (ref : Ref) : Except Fault Bool :=
  if ref.isKey then .ok (s.find? ref).isSome else .error .badType

/-- The value under a present key is changed in place. -/
def modify (s : Store κ β) (ref : Ref) (f : β → β) : Store κ β :=
  match RefKey.ofRef? ref with
  | some key => { s with members := s.members.modify key f }
  | none => s

/-- A value that cannot be rendered leaves no summary. -/
def summary (s : Store κ β) (render : β → Except Fault String) : Except Fault String := do
  let header := "EntityStore '" ++ s.name ++ "' (" ++ toString s.size ++ " entries):"
  let lines ← s.entries.mapM fun entry =>
    (render entry.2).map fun text => "  " ++ RefKey.describe entry.1 ++ " => " ++ text
  .ok ("\n".intercalate (header :: lines))

end Store

end Decomposition
