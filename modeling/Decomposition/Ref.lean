import Decomposition.Datum.Order
import Decomposition.Ident

namespace Decomposition

/-- What a caller gives where an identifier is expected. References serve as keys of coefficients
and of solutions, where a plain value is a key like any other. -/
inductive Ref where
  | ident (id : Ident)
  | other (value : Datum)
  deriving Inhabited

/-- What decides whether two references are equal. -/
inductive KeyForm where
  | entity (kind : EntityKind) (uid : Int)
  | null
  | integer (n : Int)
  | fraction (bits : UInt64)
  | text (s : String)
  | compound
  deriving DecidableEq

/-- A float without a fraction is the same key as its integer. -/
def Datum.keyForm : Datum → KeyForm
  | .null => .null
  | .bool b => .integer (if b then 1 else 0)
  | .int n => .integer n
  | .float x =>
      match Binary64.truncate x with
      | .ok n => if Binary64.ofInt n == x then .integer n else .fraction x.toBits
      | .error _ => .fraction x.toBits
  | .text s => .text s
  | .list _ | .table _ => .compound

namespace Ref

instance : Coe Ident Ref := ⟨.ident⟩

def keyForm : Ref → KeyForm
  | .ident id => .entity id.kind id.uid
  | .other d => d.keyForm

instance : BEq Ref := ⟨fun a b => a.keyForm == b.keyForm⟩

theorem beq_iff_keyForm {a b : Ref} : (a == b) = true ↔ a.keyForm = b.keyForm := by
  change (a.keyForm == b.keyForm) = true ↔ _
  exact beq_iff_eq

instance : EquivBEq Ref where
  rfl := beq_iff_keyForm.2 rfl
  symm h := beq_iff_keyForm.2 (beq_iff_keyForm.1 h).symm
  trans h h' := beq_iff_keyForm.2 ((beq_iff_keyForm.1 h).trans (beq_iff_keyForm.1 h'))

/-- As references, identifiers agree as they do by themselves. -/
theorem ident_beq_ident {a b : Ident} : (Ref.ident a == Ref.ident b) = (a == b) := by
  rw [Bool.eq_iff_iff, beq_iff_keyForm, Ident.beq_iff]
  simp [keyForm]

/-- An identifier is never equal to a plain value. -/
theorem ident_beq_other (id : Ident) (d : Datum) :
    (Ref.ident id == Ref.other d) = false := by
  have apart : d.keyForm ≠ .entity id.kind id.uid := by
    unfold Datum.keyForm
    repeat' split
    all_goals simp
  cases same : Ref.ident id == Ref.other d with
  | false => rfl
  | true => exact absurd (Ref.beq_iff_keyForm.1 same).symm apart

def isIdent : Ref → Bool
  | .ident _ => true
  | .other _ => false

/-- Lists and tables cannot be keys. -/
def isKey : Ref → Bool
  | .ident _ => true
  | .other d => d.isKey

def typeName : Ref → String
  | .ident id => id.typeName
  | .other d => d.typeName

def describe : Ref → String
  | .ident id => id.describe
  | .other d => d.literal

def compare : Ref → Ref → Comparison
  | .ident a, .ident b =>
      match a.compare? b with
      | some order => .ordered order
      | none => .incomparable
  | .other a, .other b => a.compare b
  | _, _ => .incomparable

end Ref

/-- The keys of a kind, as seen from the references: what a reference finds among them, and the
reference that a key is. -/
class RefKey (κ : Type) where
  ofRef? : Ref → Option κ
  toRef : κ → Ref

/-- A plain value is never found among identifiers. -/
instance : RefKey Ident where
  ofRef?
    | .ident id => some id
    | .other _ => none
  toRef := .ident

instance : RefKey Ref := ⟨some, id⟩

def RefKey.describe {κ : Type} [RefKey κ] (key : κ) : String := (RefKey.toRef key).describe

end Decomposition
