import Decomposition.Proofs.Formulation.Change

namespace Decomposition.Formulation

/-- A property of formulations that outlasts the writes. It may depend on what is stored, which
clones, resets, activations and new costs then go on to be. -/
structure Frame (stores : Element → Prop) (P : Formulation → Prop) : Prop where
  element : ∀ f ref e, P f → f.element ref = .ok e → stores e
  copy : ∀ e id flag, stores e → stores (e.copy id flag)
  reset : ∀ v : Variable, stores (.variable v) → stores (.variable v.reset)
  setActive : ∀ (v : Variable) active, stores (.variable v) →
    stores (.variable (v.setActive active))
  setCost : ∀ (v : Variable) cost, stores (.variable v) →
    stores (.variable (v.mapCurrent fun d => { d with cost := cost }))
  storeVariable : ∀ f v, P f → stores (.variable v) → P { f with vars := f.vars.set v.id v }
  writeConstraints : ∀ f constrs recordedRhs, P f →
    P { f with constrs := constrs, recordedRhs := recordedRhs }
  changeVariable : ∀ f ref change, P f →
    (∀ v, f.vars.get ref = .ok v → stores (.variable v) → stores (.variable (change v))) →
    P { f with vars := f.vars.modify ref change }
  writeCells : ∀ f cells, P f → P { f with coefficients := cells }
  noteOrigins : ∀ f origins, P f → P { f with cloneOrigins := origins }

namespace Operation

/-- What the operation stores, and what it makes of a variable that it changes at will, is
allowed. -/
def Respects (stores : Element → Prop) (f : Formulation) : Operation → Prop
  | .createVariable uid draft _ => stores (.variable (f.madeVariable uid draft))
  | .createConstraint uid draft _ => stores (.constraint (f.madeConstraint uid draft))
  | .cloneFrom source _ refs => ∀ ref ∈ refs, ∀ e, source.element ref = .ok e → stores e
  | .setBounds ref lb ub => ∀ v, f.vars.get ref = .ok v → stores (.variable v) →
      stores (.variable (v.mapCurrent fun d => { d with lb := lb.getD d.lb, ub := ub.getD d.ub }))
  | .changeVariable ref change => ∀ v, f.vars.get ref = .ok v → stores (.variable v) →
      stores (.variable (v.mapCurrent change))
  | op => op.Gives stores

theorem respects_all (op : Operation) (f : Formulation) : op.Respects (fun _ => True) f := by
  have has (given : Given) : given.Has fun _ => True := by cases given <;> trivial
  cases op with
  | add given => exact has given
  | addAll elements => exact fun given _ => has given
  | cloneFrom => exact fun _ _ _ _ => trivial
  | setBounds | changeVariable => exact fun _ _ _ => trivial
  | _ => trivial

/-- The operation is about the sense, the bounds or the best solutions. -/
def Notes : Operation → Prop
  | .registerSense _ | .improvePrimalBound _ | .improveDualBound _ | .optimize _ _ => True
  | _ => False

end Operation

namespace Frame
variable {stores : Element → Prop} {P : Formulation → Prop} {f g : Formulation}

theorem settled {change : Except Fault Formulation} (h : P f)
    (kept : ∀ g, change = .ok g → P g) : P (Operation.settled f change) := by
  cases change with
  | error fault => exact h
  | ok g => exact kept g rfl

variable (frame : Frame stores P)
include frame

theorem writeCoefficients (h : P f) (m : Except Fault (Relation Ref Float)) :
    P (f.writeCoefficients m).state := by
  cases m with
  | error fault => exact h
  | ok cells => exact frame.writeCells f cells h

theorem addElement (h : P f) {e : Element} (new : stores e) (membership : Option Values) :
    P (f.addElement e membership).state := by
  rcases e with v | c
  · exact frame.writeCoefficients (frame.storeVariable f v h new) _
  · unfold Formulation.addElement addConstraint
    dsimp only
    split
    · exact h
    · exact frame.writeCoefficients (frame.writeConstraints f _ _ h) _

theorem add (h : P f) {given : Given} (new : given.Has stores) (membership : Option Values) :
    P (f.add given membership).state := by
  cases given with
  | element e => exact frame.addElement h new membership
  | other d => exact h

theorem addEach (h : P f) {additions : List (Given × Option Values)}
    (new : ∀ addition ∈ additions, addition.1.Has stores) : P (f.addEach additions).state := by
  exact Outcome.forEach_state h fun g addition mem here =>
    frame.add here (new addition mem) addition.2

theorem addAll (h : P f) {elements : List Given} (new : ∀ given ∈ elements, given.Has stores)
    (memberships : Option (List (Option Values))) :
    P (f.addAll elements memberships).state := by
  cases memberships with
  | none =>
      refine frame.addEach h fun addition mem => ?_
      obtain ⟨given, listed, rfl⟩ := List.mem_map.1 mem
      exact new given listed
  | some members =>
      rw [Formulation.addAll]
      split
      · exact frame.addEach h fun addition mem => new addition.1 (List.of_mem_zip mem).1
      · exact h

theorem cloneElement (h : P f) {e : Element} (here : stores e) (source : Int) (mark : Mark) :
    P (f.cloneElement source e mark).state := by
  unfold Formulation.cloneElement
  split
  · exact h
  · rename_i origin _
    have copied := frame.copy e (origin.cloned mark.duty f.uid) mark.flag here
    have added := frame.addElement h copied none
    exact Outcome.andThen_state added fun _ _ => frame.noteOrigins _ _ added

theorem cloneOne (h : P f) {source : Formulation} {ref : Ref}
    (here : ∀ e, source.element ref = .ok e → stores e) (mark : Mark) :
    P (Formulation.cloneOne source f mark ref).state := by
  unfold Formulation.cloneOne
  split
  · exact h
  · exact h
  · rename_i e found
    have cloned := frame.cloneElement h (here e found) source.uid mark
    exact Outcome.andThen_state cloned fun _ _ => frame.writeCoefficients cloned _

theorem cloneInto (h : P f) {source : Formulation} {refs : List Ref}
    (here : ∀ ref ∈ refs, ∀ e, source.element ref = .ok e → stores e) (mark : Mark) :
    P (source.cloneInto f mark refs).state := by
  induction refs generalizing f with
  | nil => exact h
  | cons ref rest ih =>
      have first := frame.cloneOne h (here ref List.mem_cons_self) mark
      exact Outcome.andThen_state first fun _ _ =>
        ih first fun other mem => here other (List.mem_cons_of_mem _ mem)

/-- The source is the formulation itself, whatever the clones before have made of it. -/
theorem cloneWithin (h : P f) (mark : Mark) (refs : List Ref) :
    P (f.cloneWithin mark refs).state := by
  induction refs generalizing f with
  | nil => exact h
  | cons ref rest ih =>
      have first := frame.cloneOne h (fun e => frame.element f ref e h) mark
      exact Outcome.andThen_state first fun _ _ => ih first

theorem modifyVariable (h : P f) {ref : Ref} {change : Variable → Variable}
    (changed : ∀ v, f.vars.get ref = .ok v → stores (.variable v) → stores (.variable (change v)))
    (done : f.modifyVariable ref change = .ok g) : P g := by
  obtain ⟨_, _, rfl⟩ := Fault.exists_of_map_eq_ok done
  exact frame.changeVariable f ref change h changed

theorem modifyConstraint (h : P f) {ref : Ref} {change : Constraint → Constraint}
    (done : f.modifyConstraint ref change = .ok g) : P g := by
  obtain ⟨_, _, rfl⟩ := Fault.exists_of_map_eq_ok done
  exact frame.writeConstraints f _ _ h

theorem modifyElement (h : P f) {ref : Ref} {onVariable : Variable → Variable}
    {onConstraint : Constraint → Constraint}
    (changed : ∀ v, stores (.variable v) → stores (.variable (onVariable v)))
    (done : f.modifyElement ref onVariable onConstraint = .ok g) : P g := by
  unfold Formulation.modifyElement at done
  split at done
  · cases done
  · exact frame.modifyVariable h (fun v _ => changed v) done
  · exact frame.modifyConstraint h done

theorem resetEach (h : P f) (refs : List Ref) : P (f.resetEach refs).state := by
  induction refs generalizing f with
  | nil => exact h
  | cons ref rest ih =>
      unfold Formulation.resetEach
      split
      · rename_i done reset
        exact ih (frame.modifyElement h frame.reset reset)
      · exact h

theorem setCoefficient (h : P f) (row column : Ref) (v : Float) :
    P (f.setCoefficient row column v).state := by
  unfold Formulation.setCoefficient
  split
  · exact frame.writeCoefficients h _
  · split
    · have first := frame.writeCoefficients h (f.coefficients.addRow row .empty)
      exact Outcome.andThen_state first fun _ _ => first
    · exact h

/-- The property outlasts every operation on entities and coefficients. -/
theorem after (h : P f) {op : Operation} (writes : ¬ op.Notes) (respects : op.Respects stores f) :
    P (op.after f) := by
  cases op with
  | add given membership => exact frame.add h respects membership
  | addAll elements memberships => exact frame.addAll h respects memberships
  | createVariable uid draft column => exact frame.addElement h respects column
  | createConstraint uid draft row => exact frame.addElement h respects row
  | cloneElement source e mark => exact frame.cloneElement h respects source mark
  | cloneFrom source mark refs => exact frame.cloneInto h respects mark
  | cloneWithin mark refs => exact frame.cloneWithin h mark refs
  | setCost ref cost =>
      exact settled h fun g => frame.modifyVariable h fun v _ => frame.setCost v cost
  | setBounds ref lb ub => exact settled h fun g => frame.modifyVariable h respects
  | changeVariable ref change => exact settled h fun g => frame.modifyVariable h respects
  | setRhs | changeConstraint => exact settled h fun g => frame.modifyConstraint h
  | setActive ref active =>
      exact settled h fun g => frame.modifyElement h fun v => frame.setActive v active
  | reset refs => exact frame.resetEach h _
  | writeCells write => exact frame.writeCoefficients h _
  | setCoefficient row column v => exact frame.setCoefficient h row column v
  | freeze => exact frame.writeCells f _ h
  | registerSense | improvePrimalBound | improveDualBound | optimize =>
      exact absurd trivial writes

end Frame

end Decomposition.Formulation
