import Decomposition.Proofs.Formulation.Operation
import Decomposition.Proofs.Outcome
import Decomposition.Proofs.Store
import Mathlib.Logic.Relation

namespace Decomposition

/-- The write of a new variable's column, which is only registered when none is given. -/
def Relation.Write.ofColumn (id : Ident) (column : Option Values) : Relation.Write Ref Float :=
  column.elim (.addColumn id .empty) (.resetColumn id)

def Relation.Write.ofRow (ref : Ref) (row : Option Values) : Relation.Write Ref Float :=
  row.elim (.addRow ref .empty) (.resetRow ref)

namespace Formulation

/-- A property of entities that does not look at their current values. -/
structure Lasting (P : Element → Prop) : Prop where
  ofVariable : ∀ v values, P (.variable v) → P (.variable { v with current := values })
  ofConstraint : ∀ c values, P (.constraint c) → P (.constraint { c with current := values })

/-- What changes may store, and which origins of clones they may note. What may be stored may be
stored as a clone as well. -/
structure Permit where
  stores : Element → Prop
  notes : Int × Ident → Prop
  wellKinded : ∀ e, stores e → e.WellKinded
  lasting : Lasting stores
  copies : ∀ e origin duty form flag, stores e → e.id.toIdent = .ok origin →
    stores (e.copy (origin.cloned duty form) flag)

namespace Permit

/-- Clones of what may be stored may be noted as coming from the formulation. -/
def NotesFrom (permit : Permit) (source : Int) : Prop :=
  ∀ e origin, permit.stores e → e.id.toIdent = .ok origin → permit.notes (source, origin)

/-- What is made anew may be stored, and every origin may be noted. -/
structure Open (permit : Permit) : Prop where
  makesVariable : ∀ id name data flag, id.kind = .variable →
    permit.stores (.variable (Entity.make id name data flag))
  makesConstraint : ∀ id name data flag, id.kind = .constraint →
    permit.stores (.constraint (Entity.make (Ref.ident id) name data flag))
  notes : ∀ origin, permit.notes origin

end Permit

/-- An elementary change of a formulation. Every operation is a sequence of these, so what all
operations keep is shown for the changes alone. -/
inductive Change (permit : Permit) (f : Formulation) : Formulation → Prop
  | storeVariable (v : Variable) (permitted : permit.stores (.variable v))
      (column : Option Values) :
      Change permit f
        { f with
          vars := f.vars.set v.id v
          coefficients := f.coefficients.attempt (.ofColumn v.id column) }
  | storeConstraint (c : Constraint) (permitted : permit.stores (.constraint c))
      (row : Option Values) :
      Change permit f
        { f with
          constrs := f.constrs.set c.id c
          recordedRhs := f.recordedRhs.insert c.id c.perennial.rhs
          coefficients := f.coefficients.attempt (.ofRow c.id row) }
  | writeCells (write : Relation.Write Ref Float) :
      Change permit f { f with coefficients := f.coefficients.attempt write }
  | freeze : Change permit f { f with coefficients := f.coefficients.freeze }
  | currentVariable (ref : Ref) (values : Variable → VarData) :
      Change permit f
        { f with vars := f.vars.modify ref fun v => { v with current := values v } }
  | currentConstraint (ref : Ref) (values : Constraint → ConstrData) :
      Change permit f
        { f with constrs := f.constrs.modify ref fun c => { c with current := values c } }
  | noteOrigin (id : Ident) (origin : Int × Ident) (permitted : permit.notes origin) :
      Change permit f { f with cloneOrigins := f.cloneOrigins.insert id origin }
  /-- The sense, the bounds and the best solutions. -/
  | note (minimize : Bool) (primalBound dualBound : Float) (bestPrimal : Option PrimalSolution)
      (bestDual : Option DualSolution) :
      Change permit f
        { f with
          minimize := minimize
          primalBound := primalBound
          dualBound := dualBound
          bestPrimal := bestPrimal
          bestDual := bestDual }

/-- A sequence of elementary changes. -/
abbrev Changes (permit : Permit) : Formulation → Formulation → Prop :=
  Relation.ReflTransGen (Change permit)

/-- Every stored entity has the property. -/
structure AllStored (P : Element → Prop) (f : Formulation) : Prop where
  ofVariable : ∀ entry ∈ f.vars.entries, P (.variable entry.2)
  ofConstraint : ∀ entry ∈ f.constrs.entries, P (.constraint entry.2)

/-- The stored entities are of the kind that their identifiers say. -/
abbrev Kinded : Formulation → Prop := AllStored Element.WellKinded

section Kept
variable {permit : Permit} {f g : Formulation}

/-- What holds of all entities, and of those that may be stored, goes on to hold. -/
theorem Change.allStored {P : Element → Prop} (change : Change permit f g) (lasting : Lasting P)
    (permitted : ∀ e, permit.stores e → P e) (h : AllStored P f) : AllStored P g := by
  cases change with
  | storeVariable v stored column =>
      refine ⟨fun entry mem => ?_, h.ofConstraint⟩
      rcases Store.mem_set mem with ⟨_, same⟩ | ⟨_, old⟩
      · exact same ▸ permitted _ stored
      · exact h.ofVariable entry old
  | storeConstraint c stored row =>
      refine ⟨h.ofVariable, fun entry mem => ?_⟩
      rcases Store.mem_set mem with ⟨_, same⟩ | ⟨_, old⟩
      · exact same ▸ permitted _ stored
      · exact h.ofConstraint entry old
  | currentVariable ref values =>
      refine ⟨fun entry mem => ?_, h.ofConstraint⟩
      obtain ⟨old, oldMem, _, same | same⟩ := Store.mem_modify mem
      · exact same ▸ h.ofVariable old oldMem
      · rw [same]
        exact lasting.ofVariable _ _ (h.ofVariable old oldMem)
  | currentConstraint ref values =>
      refine ⟨h.ofVariable, fun entry mem => ?_⟩
      obtain ⟨old, oldMem, _, same | same⟩ := Store.mem_modify mem
      · exact same ▸ h.ofConstraint old oldMem
      · rw [same]
        exact lasting.ofConstraint _ _ (h.ofConstraint old oldMem)
  | writeCells | freeze | noteOrigin | note => exact ⟨h.ofVariable, h.ofConstraint⟩

theorem Changes.allStored {P : Element → Prop} (changes : Changes permit f g)
    (lasting : Lasting P) (permitted : ∀ e, permit.stores e → P e) (h : AllStored P f) :
    AllStored P g := by
  induction changes with
  | refl => exact h
  | tail _ change ih => exact change.allStored lasting permitted ih

theorem Changes.uid_eq (changes : Changes permit f g) : g.uid = f.uid := by
  induction changes with
  | refl => rfl
  | tail _ change ih => cases change <;> exact ih

theorem AllStored.imp {P Q : Element → Prop} (implies : ∀ e, P e → Q e) (h : AllStored P f) :
    AllStored Q f :=
  ⟨fun entry mem => implies _ (h.ofVariable entry mem),
    fun entry mem => implies _ (h.ofConstraint entry mem)⟩

/-- An entity that is found has what all stored entities have. -/
theorem AllStored.element {P : Element → Prop} (h : AllStored P f) {ref : Ref} {e : Element}
    (found : f.element ref = .ok e) : P e := by
  cases ref with
  | other d => cases found
  | ident id =>
      unfold Formulation.element at found
      dsimp only at found
      split at found
      · obtain ⟨v, look, rfl⟩ := Fault.exists_of_map_eq_ok found
        obtain ⟨entry, mem, rfl⟩ := Store.mem_of_get look
        exact h.ofVariable entry mem
      · obtain ⟨c, look, rfl⟩ := Fault.exists_of_map_eq_ok found
        obtain ⟨entry, mem, rfl⟩ := Store.mem_of_get look
        exact h.ofConstraint entry mem

end Kept

section Steps
variable {permit : Permit} {f : Formulation}

theorem writeCoefficients_state (f : Formulation) (write : Relation.Write Ref Float) :
    (f.writeCoefficients (f.coefficients.perform write)).state =
      { f with coefficients := f.coefficients.attempt write } := by
  rw [Relation.perform_eq_write]
  unfold Relation.write Relation.attempt writeCoefficients
  split <;> rfl

theorem addVariable_state (f : Formulation) (v : Variable) (column : Option Values) :
    (f.addVariable v column).state =
      { f with
        vars := f.vars.set v.id v
        coefficients := f.coefficients.attempt (.ofColumn v.id column) } := by
  rw [← writeCoefficients_state { f with vars := f.vars.set v.id v }]
  cases column <;> rfl

theorem addConstraint_state (f : Formulation) {c : Constraint} (key : c.id.isKey = true)
    (row : Option Values) :
    (f.addConstraint c row).state =
      { f with
        constrs := f.constrs.set c.id c
        recordedRhs := f.recordedRhs.insert c.id c.perennial.rhs
        coefficients := f.coefficients.attempt (.ofRow c.id row) } := by
  have stored : f.constrs.put c.id c = .ok (f.constrs.set c.id c) := by
    rw [Store.put, if_pos key]
  unfold addConstraint
  rw [stored, ← writeCoefficients_state
    { f with
      constrs := f.constrs.set c.id c
      recordedRhs := f.recordedRhs.insert c.id c.perennial.rhs }]
  cases row <;> rfl

namespace Changes

theorem addElement {e : Element} (permitted : permit.stores e) (membership : Option Values) :
    Changes permit f (f.addElement e membership).state := by
  rcases e with v | c
  · rw [Formulation.addElement, addVariable_state]
    exact .single (.storeVariable v permitted membership)
  · have key : c.id.isKey = true := by
      obtain ⟨id, same, _⟩ := permit.wellKinded _ permitted
      rw [same]
      rfl
    rw [Formulation.addElement, addConstraint_state f key]
    exact .single (.storeConstraint c permitted membership)

theorem add {given : Given} (permitted : given.Has permit.stores) (membership : Option Values) :
    Changes permit f (f.add given membership).state := by
  cases given with
  | element e => exact addElement permitted membership
  | other d => exact .refl

theorem addEach {additions : List (Given × Option Values)}
    (permitted : ∀ addition ∈ additions, addition.1.Has permit.stores) :
    Changes permit f (f.addEach additions).state := by
  exact Outcome.forEach_state .refl fun g addition mem here =>
    here.trans (add (permitted addition mem) addition.2)

theorem addAll {elements : List Given}
    (permitted : ∀ given ∈ elements, given.Has permit.stores)
    (memberships : Option (List (Option Values))) :
    Changes permit f (f.addAll elements memberships).state := by
  cases memberships with
  | none =>
      refine addEach fun addition mem => ?_
      obtain ⟨given, listed, rfl⟩ := List.mem_map.1 mem
      exact permitted given listed
  | some members =>
      rw [Formulation.addAll]
      split
      · exact addEach fun addition mem => permitted addition.1 (List.of_mem_zip mem).1
      · exact .refl

theorem cloneElement {source : Int} (noted : permit.NotesFrom source) {e : Element}
    (permitted : permit.stores e) (mark : Mark) :
    Changes permit f (f.cloneElement source e mark).state := by
  unfold Formulation.cloneElement
  split
  · exact .refl
  · rename_i origin found
    have copied : permit.stores (e.copy (origin.cloned mark.duty f.uid) mark.flag) :=
      permit.copies e origin mark.duty f.uid mark.flag permitted found
    refine Outcome.andThen_state (addElement copied none) fun _ _ => ?_
    exact (addElement copied none).tail (.noteOrigin _ _ (noted e origin permitted found))

theorem mergeMembership (f : Formulation) (e : Element) (members : Values) :
    Changes permit f (f.mergeMembership e members).state := by
  rcases e with v | c
  · have merged := writeCoefficients_state f (.addColumn v.id members)
    exact merged ▸ .single (.writeCells _)
  · have merged := writeCoefficients_state f (.addRow c.id members)
    exact merged ▸ .single (.writeCells _)

theorem cloneOne {source : Formulation} {ref : Ref}
    (stored : ∀ e, source.element ref = .ok e → permit.stores e)
    (noted : permit.NotesFrom source.uid) (f : Formulation) (mark : Mark) :
    Changes permit f (Formulation.cloneOne source f mark ref).state := by
  unfold Formulation.cloneOne
  split
  · exact .refl
  · exact .refl
  · rename_i e found
    have cloned := cloneElement (f := f) noted (stored e found) mark
    refine Outcome.andThen_state cloned fun copy _ => ?_
    exact cloned.trans (mergeMembership _ copy _)

/-- Only what is listed need be permitted. -/
theorem cloneListed {source : Formulation} {refs : List Ref}
    (stored : ∀ ref ∈ refs, ∀ e, source.element ref = .ok e → permit.stores e)
    (noted : permit.NotesFrom source.uid) (f : Formulation) (mark : Mark) :
    Changes permit f (source.cloneInto f mark refs).state := by
  induction refs generalizing f with
  | nil => exact .refl
  | cons ref rest ih =>
      have first := cloneOne (stored ref List.mem_cons_self) noted f mark
      have others : ∀ other ∈ rest, ∀ e, source.element other = .ok e → permit.stores e :=
        fun other mem => stored other (List.mem_cons_of_mem _ mem)
      exact Outcome.andThen_state first fun _ _ => first.trans (ih others _)

theorem cloneInto {source : Formulation} (stored : AllStored permit.stores source)
    (noted : permit.NotesFrom source.uid) (f : Formulation) (mark : Mark) (refs : List Ref) :
    Changes permit f (source.cloneInto f mark refs).state :=
  cloneListed (fun _ _ _ found => stored.element found) noted f mark

/-- The source changes along the way, and all that it stores may be stored. -/
theorem cloneWithin (stored : AllStored permit.stores f) (noted : permit.NotesFrom f.uid)
    (mark : Mark) (refs : List Ref) : Changes permit f (f.cloneWithin mark refs).state := by
  induction refs generalizing f with
  | nil => exact .refl
  | cons ref rest ih =>
      have here : ∀ e, f.element ref = .ok e → permit.stores e :=
        fun _ found => stored.element found
      have first := cloneOne here noted f mark
      refine Outcome.andThen_state first fun _ _ => first.trans (ih ?_ ?_)
      · exact first.allStored permit.lasting (fun _ permitted => permitted) stored
      · rw [first.uid_eq]
        exact noted

theorem settled {change : Except Fault Formulation}
    (done : ∀ g, change = .ok g → Changes permit f g) :
    Changes permit f (Operation.settled f change) := by
  cases change with
  | error fault => exact .refl
  | ok g => exact done g rfl

theorem modifyVariable {ref : Ref} {values : Variable → VarData} {g : Formulation}
    (done : (f.modifyVariable ref fun v => { v with current := values v }) = .ok g) :
    Changes permit f g := by
  obtain ⟨_, _, rfl⟩ := Fault.exists_of_map_eq_ok done
  exact .single (.currentVariable ref values)

theorem modifyConstraint {ref : Ref} {values : Constraint → ConstrData} {g : Formulation}
    (done : (f.modifyConstraint ref fun c => { c with current := values c }) = .ok g) :
    Changes permit f g := by
  obtain ⟨_, _, rfl⟩ := Fault.exists_of_map_eq_ok done
  exact .single (.currentConstraint ref values)

theorem modifyElement {ref : Ref} {ofVariable : Variable → VarData}
    {ofConstraint : Constraint → ConstrData} {g : Formulation}
    (done : (f.modifyElement ref (fun v => { v with current := ofVariable v })
      fun c => { c with current := ofConstraint c }) = .ok g) : Changes permit f g := by
  unfold Formulation.modifyElement at done
  split at done
  · cases done
  · exact modifyVariable done
  · exact modifyConstraint done

theorem resetEach (f : Formulation) (refs : List Ref) :
    Changes permit f (f.resetEach refs).state := by
  induction refs generalizing f with
  | nil => exact .refl
  | cons ref rest ih =>
      unfold Formulation.resetEach
      split
      · rename_i done reset
        have restored : (f.modifyElement ref
            (fun v => { v with current := EntityRecord.settle v.perennial })
            fun c => { c with current := EntityRecord.settle c.perennial }) = .ok done := reset
        exact (modifyElement restored).trans (ih done)
      · exact .refl

theorem setCoefficient (f : Formulation) (row column : Ref) (v : Float) :
    Changes permit f (f.setCoefficient row column v).state := by
  unfold Formulation.setCoefficient
  split
  · have written := writeCoefficients_state f (.set row column v)
    exact written ▸ .single (.writeCells _)
  · split
    · have registered := writeCoefficients_state f (.addRow row .empty)
      have first :
          Changes permit f (f.writeCoefficients (f.coefficients.addRow row .empty)).state :=
        registered ▸ .single (.writeCells _)
      exact Outcome.andThen_state first fun _ _ => first
    · exact .refl

theorem optimize (f : Formulation) (solver : Option (Formulation → Except Fault Report))
    (update : Bool) : Changes permit f (f.optimize solver update).state := by
  obtain ⟨_, _, noted⟩ := f.optimize_state solver update
  rw [noted]
  exact .single (.note _ _ _ _ _)

end Changes

/-- An operation that stores nothing needs no permit. -/
theorem Operation.Quiet.changes {op : Operation} (quiet : op.Quiet) :
    Changes permit f (op.after f) := by
  cases op with
  | add | addAll | createVariable | createConstraint | cloneElement | cloneFrom | cloneWithin =>
      exact quiet.elim
  | setCost ref cost => exact .settled fun g done => .modifyVariable done
  | setBounds ref lb ub => exact .settled fun g done => .modifyVariable done
  | setRhs ref rhs => exact .settled fun g done => .modifyConstraint done
  | setActive ref active => exact .settled fun g done => .modifyElement done
  | reset refs => exact .resetEach f _
  | changeVariable ref change => exact .settled fun g done => .modifyVariable done
  | changeConstraint ref change => exact .settled fun g done => .modifyConstraint done
  | writeCells write =>
      rw [Operation.after, writeCoefficients_state]
      exact .single (.writeCells write)
  | setCoefficient row column v => exact .setCoefficient f row column v
  | freeze => exact .single .freeze
  | registerSense minimize =>
      refine .settled fun g done => ?_
      unfold Formulation.registerSense at done
      split at done
      · cases done
        exact .single (.note _ _ _ _ _)
      · cases done
  | improvePrimalBound bound =>
      obtain ⟨_, noted⟩ := f.improvePrimalBound_fst bound
      rw [Operation.after, noted]
      exact .single (.note _ _ _ _ _)
  | improveDualBound bound =>
      obtain ⟨_, noted⟩ := f.improveDualBound_fst bound
      rw [Operation.after, noted]
      exact .single (.note _ _ _ _ _)
  | optimize solver update => exact .optimize f solver update

/-- The variable that a draft makes. -/
def madeVariable (f : Formulation) (uid : Int) (draft : Draft VarData) : Variable :=
  let id := f.freshIdent .variable uid draft.duty
  Entity.make id (id.nameOr draft.name) draft.data draft.flag

/-- The constraint that a draft makes. -/
def madeConstraint (f : Formulation) (uid : Int) (draft : Draft ConstrData) : Constraint :=
  let id := f.freshIdent .constraint uid draft.duty
  Entity.make (Ref.ident id) (id.nameOr draft.name) draft.data draft.flag

theorem createVariable_state (f : Formulation) (uid : Int) (draft : Draft VarData)
    (column : Option Values) :
    (f.createVariable uid draft column).state =
      (f.addElement (.variable (f.madeVariable uid draft)) column).state := rfl

theorem createConstraint_state (f : Formulation) (uid : Int) (draft : Draft ConstrData)
    (row : Option Values) :
    (f.createConstraint uid draft row).state =
      (f.addElement (.constraint (f.madeConstraint uid draft)) row).state := rfl

/-- An operation is a sequence of elementary changes if the permit is open to all that is made. -/
theorem Operation.changes (op : Operation) (isOpen : permit.Open)
    (given : op.Gives permit.stores) (own : AllStored permit.stores f)
    (source : ∀ g, op.source? = some g → AllStored permit.stores g) :
    Changes permit f (op.after f) := by
  have notes (uid : Int) : permit.NotesFrom uid := fun _ _ _ _ => isOpen.notes _
  cases op with
  | add entity membership => exact .add given membership
  | addAll elements memberships => exact .addAll given memberships
  | createVariable uid draft column =>
      rw [Operation.after, createVariable_state]
      exact .addElement (isOpen.makesVariable _ _ _ _ rfl) column
  | createConstraint uid draft row =>
      rw [Operation.after, createConstraint_state]
      exact .addElement (isOpen.makesConstraint _ _ _ _ rfl) row
  | cloneElement origin e mark => exact .cloneElement (notes origin) given mark
  | cloneFrom other mark refs => exact .cloneInto (source other rfl) (notes other.uid) f mark refs
  | cloneWithin mark refs => exact .cloneWithin own (notes f.uid) mark refs
  | _ => exact Quiet.changes trivial

end Steps

end Formulation

end Decomposition
