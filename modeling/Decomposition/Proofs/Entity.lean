import Decomposition.Entity

namespace Decomposition

/-- The values of a variable that is built from the values of another. The bounds of a binary
variable are cut to the unit interval, and nothing else differs. -/
structure VarData.Cuts (given built : VarData) : Prop where
  lb : built.lb = if given.kind = .binary ∧ given.lb < 0 then 0 else given.lb
  ub : built.ub = if given.kind = .binary ∧ 1 < given.ub then 1 else given.ub
  rest : { built with lb := given.lb, ub := given.ub } = given

theorem VarData.cuts_settle (d : VarData) : d.Cuts d.settle := by
  by_cases binary : d.kind = .binary
  · have settled : d.settle = { d with lb := raiseTo 0 d.lb, ub := lowerTo 1 d.ub } := by
      rw [settle, if_pos binary]
    rw [settled]
    constructor
    · simp only [binary, true_and]
      rfl
    · simp only [binary, true_and]
      rfl
    · rfl
  · have settled : d.settle = d := by rw [settle, if_neg binary]
    rw [settled]
    constructor
    · simp [binary]
    · simp [binary]
    · rfl

/-- The identifier of a clone. Nothing but the duty and the assigned formulation is new. -/
structure Ident.Reassigns (duty : Duty) (form : Int) (id clone : Ident) : Prop where
  kind : clone.kind = id.kind
  uid : clone.uid = id.uid
  origin : clone.origin = id.origin
  duty : clone.duty = duty
  assigned : clone.assigned = some form

theorem Ident.reassigns_cloned (id : Ident) (duty : Duty) (form : Int) :
    Reassigns duty form id (id.cloned duty form) :=
  ⟨rfl, rfl, rfl, rfl, rfl⟩

namespace Entity
variable {κ δ : Type} [EntityRecord δ]

section Copies
variable (e : Entity κ δ) (id : κ) (flag : Flag)

@[simp] theorem copy_id : (e.copy id flag).id = id := rfl

@[simp] theorem copy_perennial : (e.copy id flag).perennial = e.perennial := e.built

end Copies

/-- A distinct entity with the flag. It has the name and the perennial record of the origin, and
its current record is built from that of the origin. -/
structure IsCopy (builds : δ → δ → Prop) (flag : Flag) (origin copy : Entity κ δ) : Prop where
  flagged : copy.flag = flag
  name : copy.name = origin.name
  perennial : copy.perennial = origin.perennial
  current : builds origin.current copy.current
  apart : copy.slot = none

theorem isCopy_copy {builds : δ → δ → Prop} (settles : ∀ d, builds d (EntityRecord.settle d))
    (e : Entity κ δ) (id : κ) (flag : Flag) : IsCopy builds flag e (e.copy id flag) where
  flagged := rfl
  name := rfl
  perennial := e.copy_perennial id flag
  current := settles e.current
  apart := rfl

end Entity

/-- One element is a copy of the other. A constraint has nothing that building would change. -/
def Element.IsCopy (flag : Flag) : Element → Element → Prop
  | .variable v, .variable w => Entity.IsCopy VarData.Cuts flag v w
  | .constraint c, .constraint d => Entity.IsCopy Eq flag c d
  | _, _ => False

theorem Element.isCopy_copy (e : Element) (id : Ident) (flag : Flag) :
    IsCopy flag e (e.copy id flag) := by
  rcases e with v | c
  · exact Entity.isCopy_copy VarData.cuts_settle v id flag
  · exact Entity.isCopy_copy (fun _ => rfl) c id flag

end Decomposition
