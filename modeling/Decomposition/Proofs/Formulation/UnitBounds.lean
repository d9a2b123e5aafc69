import Decomposition.Proofs.Formulation.Frame
import Decomposition.Proofs.Formulation.Undo
import Decomposition.Proofs.Number.Comparison

namespace Decomposition
open Binary64

theorem zero_le_raiseTo {x : Float} (number : x.isNaN = false) : 0 ≤ raiseTo 0 x := by
  unfold raiseTo
  split
  · decide +kernel
  · exact Binary64.le_of_not_lt rfl number ‹_›

theorem lowerTo_le_one {x : Float} (number : x.isNaN = false) : lowerTo 1 x ≤ 1 := by
  unfold lowerTo
  split
  · decide +kernel
  · exact Binary64.le_of_not_lt number rfl ‹_›

namespace VarData

/-- A binary record has its bounds within the unit interval. -/
def InUnit (d : VarData) : Prop := d.kind = .binary → 0 ≤ d.lb ∧ d.ub ≤ 1

/-- A binary record has numbers for bounds. -/
def HasNumbers (d : VarData) : Prop := d.kind = .binary → d.lb.isNaN = false ∧ d.ub.isNaN = false

theorem inUnit_settle {d : VarData} (numbers : d.HasNumbers) : d.settle.InUnit := by
  intro kind
  by_cases binary : d.kind = .binary
  · obtain ⟨lower, upper⟩ := numbers binary
    rw [settle, if_pos binary]
    exact ⟨zero_le_raiseTo lower, lowerTo_le_one upper⟩
  · rw [settle, if_neg binary] at kind
    exact absurd kind binary

theorem InUnit.settle {d : VarData} (within : d.InUnit) : d.settle.InUnit :=
  inUnit_settle fun binary =>
    ⟨(le_iff_place.1 (within binary).1).2.1, (le_iff_place.1 (within binary).2).1⟩

end VarData

/-- Both records have their bounds within the unit interval, if they are binary. -/
structure Variable.InUnit (v : Variable) : Prop where
  perennial : v.perennial.InUnit
  current : v.current.InUnit

/-- If the entity is a variable, it has the property. -/
def Element.IfVariable (P : Variable → Prop) : Element → Prop
  | .variable v => P v
  | .constraint _ => True

/-- The bounds that are given do not leave the unit interval. -/
def BoundsInUnit (lb ub : Option Float) : Prop := (∀ x ∈ lb, 0 ≤ x) ∧ ∀ x ∈ ub, x ≤ 1

namespace Formulation

/-- Every stored variable has the property. -/
def AllVars (P : Variable → Prop) (f : Formulation) : Prop := ∀ entry ∈ f.vars.entries, P entry.2

namespace Operation

/-- Entities from outside have their perennial bounds within the unit interval, and drafts have
numbers for bounds. -/
def Measured : Operation → Prop
  | .createVariable _ draft _ => draft.data.HasNumbers
  | op => op.Gives fun e => e.WellKinded ∧ e.IfVariable (·.perennial.InUnit)

/-- In addition, no bound of a binary variable is set that leaves the unit interval: bounds are cut
where records are built, and not where they are set. -/
def Confines (f : Formulation) : Operation → Prop
  | .createVariable _ draft _ => draft.data.HasNumbers
  | .setBounds ref lb ub => ∀ v, f.vars.get ref = .ok v → v.current.kind = .binary →
      BoundsInUnit lb ub
  | .changeVariable ref change => ∀ v, f.vars.get ref = .ok v → (change v.current).InUnit
  | op => op.Gives (Element.IfVariable Variable.InUnit)

end Operation

/-- The formulations that such histories lead to. What is cloned comes from such a formulation as
well. -/
inductive Confined : Formulation → Prop
  | empty (uid : Int) (duty : FormDuty) (parent : Option Int) : Confined (.empty uid duty parent)
  | step {f : Formulation} (confined : Confined f) (op : Operation) (within : op.Confines f)
      (source : ∀ g, op.source? = some g → Confined g) : Confined (op.after f)

section AllVars
variable {P : Variable → Prop} {f g : Formulation}

theorem AllVars.element (all : AllVars P f) {ref : Ref} {e : Element}
    (found : f.element ref = .ok e) : e.IfVariable P := by
  cases ref with
  | other d => cases found
  | ident id =>
      unfold Formulation.element at found
      dsimp only at found
      split at found
      · obtain ⟨v, look, rfl⟩ := Fault.exists_of_map_eq_ok found
        obtain ⟨entry, mem, rfl⟩ := Store.mem_of_get look
        exact all entry mem
      · obtain ⟨c, _, rfl⟩ := Fault.exists_of_map_eq_ok found
        trivial

/-- What building records anew keeps, all variables keep. -/
theorem frame_allVars (copy : ∀ (v : Variable) id flag, P v → P (v.copy id flag))
    (reset : ∀ v : Variable, P v → P v.reset)
    (setActive : ∀ (v : Variable) active, P v → P (v.setActive active))
    (setCost : ∀ (v : Variable) cost, P v → P (v.mapCurrent fun d => { d with cost := cost })) :
    Frame (Element.IfVariable P) (AllVars P) where
  element f ref e all found := all.element found
  copy e id flag here := by
    rcases e with v | c
    · exact copy v id flag here
    · trivial
  reset := reset
  setActive := setActive
  setCost := setCost
  storeVariable f v all new := by
    intro entry mem
    rcases Store.mem_set mem with ⟨_, same⟩ | ⟨_, old⟩
    · exact same ▸ new
    · exact all entry old
  writeConstraints f _ _ all := all
  changeVariable f ref change all changed := by
    intro entry mem
    obtain ⟨old, oldMem, _, same | ⟨found, same⟩⟩ := Store.mem_modify_found mem
    · exact same ▸ all old oldMem
    · exact same ▸ changed old.2 found (all old oldMem)
  writeCells f _ all := all
  noteOrigins f _ all := all

/-- Notes do not touch the stores. -/
theorem vars_after_of_notes {op : Operation} (notes : op.Notes) (f : Formulation) :
    (op.after f).vars = f.vars := by
  cases op with
  | registerSense minimize =>
      refine Operation.read_settled Formulation.vars fun g done => ?_
      unfold registerSense at done
      split at done
      · cases done
        rfl
      · cases done
  | improvePrimalBound bound =>
      obtain ⟨_, noted⟩ := f.improvePrimalBound_fst bound
      rw [Operation.after, noted]
  | improveDualBound bound =>
      obtain ⟨_, noted⟩ := f.improveDualBound_fst bound
      rw [Operation.after, noted]
  | optimize solver update =>
      obtain ⟨_, _, noted⟩ := f.optimize_state solver update
      rw [Operation.after, noted]
  | _ => exact notes.elim

theorem AllVars.after (frame : Frame (Element.IfVariable P) (AllVars P)) (all : AllVars P f)
    {op : Operation} (respects : op.Respects (Element.IfVariable P) f) :
    AllVars P (op.after f) := by
  by_cases notes : op.Notes
  · intro entry mem
    rw [vars_after_of_notes notes] at mem
    exact all entry mem
  · exact frame.after all notes respects

end AllVars

section Records

theorem frame_perennial :
    Frame (Element.IfVariable (·.perennial.InUnit)) (AllVars (·.perennial.InUnit)) :=
  frame_allVars (fun _ _ _ within => VarData.InUnit.settle within) (fun _ within => within)
    (fun _ _ within => within) fun _ _ within => within

theorem frame_inUnit :
    Frame (Element.IfVariable Variable.InUnit) (AllVars Variable.InUnit) :=
  frame_allVars
    (fun _ _ _ within => ⟨within.perennial.settle, within.current.settle⟩)
    (fun _ within => ⟨within.perennial, within.perennial.settle⟩)
    (fun _ _ within => ⟨within.perennial, within.current⟩)
    fun _ _ within => ⟨within.perennial, within.current⟩

theorem inUnit_make {data : VarData} (numbers : data.HasNumbers) (id : Ident) (name : String)
    (flag : Flag) : Variable.InUnit (Entity.make id name data flag) where
  perennial := VarData.inUnit_settle numbers
  current := (VarData.inUnit_settle numbers).settle

/-- Setting bounds keeps a variable within if the bounds are. -/
theorem inUnit_setBounds {v : Variable} {lb ub : Option Float} (here : v.InUnit)
    (given : v.current.kind = .binary → BoundsInUnit lb ub) :
    Variable.InUnit
      (v.mapCurrent fun d => { d with lb := lb.getD d.lb, ub := ub.getD d.ub }) where
  perennial := here.perennial
  current binary := by
    obtain ⟨lower, upper⟩ := given binary
    obtain ⟨oldLower, oldUpper⟩ := here.current binary
    constructor
    · cases lb with
      | none => exact oldLower
      | some x => exact lower x rfl
    · cases ub with
      | none => exact oldUpper
      | some x => exact upper x rfl

variable {f : Formulation}

theorem respects_of_measured {op : Operation} (measured : op.Measured)
    (source : ∀ g, op.source? = some g → AllVars (·.perennial.InUnit) g) :
    op.Respects (Element.IfVariable (·.perennial.InUnit)) f := by
  cases op with
  | add given membership => exact Given.Has.imp measured fun _ both => both.2
  | addAll elements memberships =>
      exact fun given mem => (measured given mem).imp fun _ both => both.2
  | createVariable uid draft column => exact (inUnit_make measured _ _ _).perennial
  | cloneElement origin e mark => exact measured.2
  | cloneFrom other mark refs => exact fun ref _ e found => (source other rfl).element found
  | setBounds | changeVariable => exact fun v _ here => here
  | _ => trivial

theorem respects_of_confines {op : Operation} (within : op.Confines f)
    (source : ∀ g, op.source? = some g → AllVars Variable.InUnit g) :
    op.Respects (Element.IfVariable Variable.InUnit) f := by
  cases op with
  | createVariable uid draft column => exact inUnit_make within _ _ _
  | cloneFrom other mark refs => exact fun ref _ e found => (source other rfl).element found
  | setBounds ref lb ub => exact fun v found here => inUnit_setBounds here (within v found)
  | changeVariable ref change => exact fun v found here => ⟨here.perennial, within v found⟩
  | add | addAll | cloneElement => exact within
  | _ => trivial

/-- The perennial bounds stay within, whatever current bounds are set. -/
theorem ReachableBy.perennial_inUnit (reached : ReachableBy Operation.Measured f) :
    AllVars (·.perennial.InUnit) f := by
  induction reached with
  | empty => exact fun _ mem => nomatch mem
  | step _ op measured _ ih ihSource =>
      exact ih.after frame_perennial (respects_of_measured measured ihSource)

theorem Confined.inUnit (confined : Confined f) : AllVars Variable.InUnit f := by
  induction confined with
  | empty => exact fun _ mem => nomatch mem
  | step _ op within _ ih ihSource =>
      exact ih.after frame_inUnit (respects_of_confines within ihSource)

theorem Confined.run (confined : Confined f) {operations : List Operation}
    (within : ∀ op ∈ operations, (∀ g, op.Confines g) ∧ op.source? = none) :
    Confined (f.run operations) := by
  refine operations.foldlRecOn _ confined fun g here op mem => ?_
  obtain ⟨confines, alone⟩ := within op mem
  exact .step here op (confines g) fun source read => by rw [alone] at read; cases read

theorem gives_of_measured {op : Operation} (measured : op.Measured) :
    op.Gives Element.WellKinded := by
  have gives : op.Gives fun e => e.WellKinded ∧ e.IfVariable (·.perennial.InUnit) := by
    cases op with
    | createVariable => trivial
    | _ => exact measured
  exact gives.imp fun _ both => both.1

/-- A reset of everything brings all binary variables back. -/
theorem ReachableBy.reset_inUnit (reached : ReachableBy Operation.Measured f) :
    AllVars Variable.InUnit (f.reset none).state := by
  have sound : f.Sound := reached.sound Permit.open_kinded fun _ => gives_of_measured
  rw [sound.reset_all]
  intro entry mem
  obtain ⟨old, oldMem, rfl⟩ := List.mem_map.1 mem
  have perennial := reached.perennial_inUnit old oldMem
  exact ⟨perennial, perennial.settle⟩

/-- The bounds that are set decide. -/
theorem inUnit_setBounds_iff (all : AllVars Variable.InUnit f) {ref : Ref} {v : Variable}
    (found : f.vars.get ref = .ok v) (lb ub : Option Float) :
    AllVars Variable.InUnit ((Operation.setBounds ref lb ub).after f) ↔
      (v.current.kind = .binary → BoundsInUnit lb ub) := by
  constructor
  · intro within binary
    have changed : (f.setBounds ref lb ub) = .ok { f with
        vars := f.vars.modify ref
          (·.mapCurrent fun d => { d with lb := lb.getD d.lb, ub := ub.getD d.ub }) } := by
      rw [setBounds, modifyVariable, found]
      rfl
    rw [Operation.after, changed] at within
    have look := Store.get_modify_self found
      (·.mapCurrent fun d => { d with lb := lb.getD d.lb, ub := ub.getD d.ub })
    obtain ⟨entry, mem, same⟩ := Store.mem_of_get look
    have here : entry.2.InUnit := within entry mem
    rw [same] at here
    obtain ⟨lower, upper⟩ := here.current binary
    constructor
    · rintro x ⟨⟩
      exact lower
    · rintro x ⟨⟩
      exact upper
  · intro given
    refine all.after frame_inUnit fun other look here => ?_
    rw [found] at look
    cases look
    exact inUnit_setBounds here given

end Records

end Formulation

end Decomposition
