import Decomposition.Proofs.Formulation.Soundness
import Decomposition.Proofs.Registry.Operation
import Decomposition.Proofs.Relation.Registration

namespace Decomposition.Formulation

/-- What the stores hold is registered and on record. These are written one after the other, and a
frozen relation stops the last of the writes. -/
structure InStep (f : Formulation) : Prop where
  columns : ∀ entry ∈ f.vars.entries, f.coefficients.cells.hasColumn entry.1 = true
  rows : ∀ entry ∈ f.constrs.entries, f.coefficients.cells.hasRow entry.1 = true
  /-- The stored constraints and no others are on record, with their perennial right-hand sides. -/
  recorded : f.recordedRhs = f.constrs.members.map fun _ c => c.perennial.rhs
  keyed : Keyed f

/-- Everything that is stored or registered keeps its place, and what is new goes to the end. -/
structure Grows (f g : Formulation) : Prop where
  vars : f.vars.ids <+: g.vars.ids
  constrs : f.constrs.ids <+: g.constrs.ids
  cells : Incidence.Extends f.coefficients.cells g.coefficients.cells

theorem Grows.refl (f : Formulation) : Grows f f := ⟨List.prefix_rfl, List.prefix_rfl, .refl _⟩

theorem Grows.trans {f g h : Formulation} (before : Grows f g) (after : Grows g h) : Grows f h where
  vars := before.vars.trans after.vars
  constrs := before.constrs.trans after.constrs
  cells := before.cells.trans after.cells

theorem inStep_empty (uid : Int) (duty : FormDuty) (parent : Option Int) :
    InStep (.empty uid duty parent) where
  columns _ mem := nomatch mem
  rows _ mem := nomatch mem
  recorded := rfl
  keyed := (sound_empty uid duty parent).keyed

variable {permit : Permit} {f g : Formulation}

theorem Change.grows (change : Change permit f g) : Grows f g := by
  cases change with
  | storeVariable v permitted column =>
      have ids := f.vars.members.keys_insert v.id v
      exact ⟨ids, List.prefix_rfl, f.coefficients.attempt_extends _⟩
  | storeConstraint c permitted row =>
      have ids := f.constrs.members.keys_insert c.id c
      exact ⟨List.prefix_rfl, ids, f.coefficients.attempt_extends _⟩
  | writeCells write =>
      exact ⟨List.prefix_rfl, List.prefix_rfl, f.coefficients.attempt_extends write⟩
  | currentVariable ref values =>
      have ids : f.vars.ids <+:
          (f.vars.modify ref fun v => { v with current := values v }).ids := by
        simp
      exact ⟨ids, List.prefix_rfl, .refl _⟩
  | currentConstraint ref values =>
      have ids : f.constrs.ids <+:
          (f.constrs.modify ref fun c => { c with current := values c }).ids := by
        simp
      exact ⟨List.prefix_rfl, ids, .refl _⟩
  | freeze | noteOrigin | note => exact ⟨List.prefix_rfl, List.prefix_rfl, .refl _⟩

theorem Changes.grows (changes : Changes permit f g) : Grows f g := by
  induction changes with
  | refl => exact .refl f
  | tail _ change ih => exact ih.trans change.grows

/-- Nothing sets a frozen relation free. -/
theorem Change.frozen (change : Change permit f g) (mutable : g.coefficients.frozen = false) :
    f.coefficients.frozen = false := by
  cases change with
  | storeVariable | storeConstraint | writeCells =>
      rwa [Relation.attempt_frozen] at mutable
  | freeze => cases mutable
  | currentVariable | currentConstraint | noteOrigin | note => exact mutable

theorem hasColumn_attempt {m : Relation Ref Float} (mutable : m.frozen = false) (id : Ident)
    (column : Option Values) : (m.attempt (.ofColumn id column)).cells.hasColumn id = true := by
  rw [Relation.attempt, mutable]
  cases column with
  | none => exact m.cells.hasColumn_addColumn id .empty
  | some members => exact (m.cells.clearColumn id).hasColumn_addColumn id members

theorem hasRow_attempt {m : Relation Ref Float} (mutable : m.frozen = false) (ref : Ref)
    (row : Option Values) : (m.attempt (.ofRow ref row)).cells.hasRow ref = true := by
  rw [Relation.attempt, mutable]
  cases row with
  | none => exact m.cells.hasRow_addRow ref .empty
  | some members => exact (m.cells.clearRow ref).hasRow_addRow ref members

/-- A variable is registered together with the store. -/
theorem Change.columns (change : Change permit f g) (mutable : f.coefficients.frozen = false)
    (h : ∀ entry ∈ f.vars.entries, f.coefficients.cells.hasColumn entry.1 = true) :
    ∀ entry ∈ g.vars.entries, g.coefficients.cells.hasColumn entry.1 = true := by
  have kept : ∀ entry ∈ f.vars.entries, g.coefficients.cells.hasColumn entry.1 = true :=
    fun entry mem => change.grows.cells.hasColumn (h entry mem)
  cases change with
  | storeVariable v permitted column =>
      intro entry mem
      rcases Store.mem_set mem with ⟨same, _⟩ | ⟨_, old⟩
      · rw [← Incidence.hasColumn_congr _ (Ref.ident_beq_ident.trans same)]
        exact hasColumn_attempt mutable v.id column
      · exact kept entry old
  | currentVariable ref values =>
      intro entry mem
      obtain ⟨old, oldMem, key, _⟩ := Store.mem_modify mem
      rw [key]
      exact kept old oldMem
  | storeConstraint | writeCells | freeze | currentConstraint | noteOrigin | note => exact kept

theorem Change.rows (change : Change permit f g) (mutable : f.coefficients.frozen = false)
    (h : ∀ entry ∈ f.constrs.entries, f.coefficients.cells.hasRow entry.1 = true) :
    ∀ entry ∈ g.constrs.entries, g.coefficients.cells.hasRow entry.1 = true := by
  have kept : ∀ entry ∈ f.constrs.entries, g.coefficients.cells.hasRow entry.1 = true :=
    fun entry mem => change.grows.cells.hasRow (h entry mem)
  cases change with
  | storeConstraint c permitted row =>
      intro entry mem
      rcases Store.mem_set mem with ⟨same, _⟩ | ⟨_, old⟩
      · rw [← Incidence.hasRow_congr _ same]
        exact hasRow_attempt mutable c.id row
      · exact kept entry old
  | currentConstraint ref values =>
      intro entry mem
      obtain ⟨old, oldMem, key, _⟩ := Store.mem_modify mem
      rw [key]
      exact kept old oldMem
  | storeVariable | writeCells | freeze | currentVariable | noteOrigin | note => exact kept

/-- The record follows the store, key by key. -/
theorem Change.recordedRhs_eq (change : Change permit f g)
    (h : f.recordedRhs = f.constrs.members.map fun _ c => c.perennial.rhs) :
    g.recordedRhs = g.constrs.members.map fun _ c => c.perennial.rhs := by
  cases change with
  | storeConstraint c permitted row =>
      dsimp only
      rw [h]
      exact (f.constrs.members.map_insert c.id c fun other => other.perennial.rhs).symm
  | currentConstraint ref values =>
      let perennial (entry : Ref × Constraint) : Ref × Float := (entry.1, entry.2.perennial.rhs)
      have unseen (key : Ref) (c : Constraint) :
          perennial (key, { c with current := values c }) = perennial (key, c) := rfl
      exact h.trans (OrderedMap.ext_entries (Store.map_modify f.constrs ref unseen).symm)
  | storeVariable | writeCells | freeze | currentVariable | noteOrigin | note => exact h

/-- One change keeps all in step, as long as the relation takes the writes. -/
theorem Change.inStep (change : Change permit f g) (mutable : f.coefficients.frozen = false)
    (h : InStep f) : InStep g where
  columns := change.columns mutable h.columns
  rows := change.rows mutable h.rows
  recorded := change.recordedRhs_eq h.recorded
  keyed := change.keyed h.keyed

theorem Changes.inStep (changes : Changes permit f g)
    (h : f.coefficients.frozen = false → InStep f) (mutable : g.coefficients.frozen = false) :
    InStep g := by
  induction changes with
  | refl => exact h mutable
  | tail _ change ih =>
      have before := change.frozen mutable
      exact change.inStep before (ih before)

/-- Whatever is called, and whether it succeeds or fails, a formulation whose relation was never
frozen has its stores, its record and its registered lines in step. No call takes anything out of
them, and to serve as the source of clones changes nothing at all. -/
theorem inStep_of_reachable (reached : Reachable f) (mutable : f.coefficients.frozen = false) :
    InStep f ∧
      (∀ op : Operation, op.WellKinded → (∀ g, op.source? = some g → Reachable g) →
        Grows f (op.after f)) ∧
      ∀ (r : Registry) (dest : Formulation) (mark : Mark) (refs : List Ref),
        r.get f.uid = .ok f → r.get dest.uid = .ok dest → f.uid ≠ dest.uid →
        (r.clone f.uid dest.uid mark refs).state.get f.uid = .ok f := by
  have stored : AllStored Permit.kinded.stores f := reached.sound.kinded
  refine ⟨?_, fun op allowed source => ?_, fun r dest mark refs origin target apart => ?_⟩
  · obtain ⟨uid, duty, parent, changes, _⟩ :=
      ReachableBy.changes Permit.open_kinded (fun _ => Operation.gives_of_wellKinded) reached
    exact changes.inStep (fun _ => inStep_empty uid duty parent) mutable
  · have changes := op.changes Permit.open_kinded (Operation.gives_of_wellKinded allowed) stored
      fun g read => (source g read).sound.kinded
    exact changes.grows
  · have cloned : Changes Permit.kinded dest (f.cloneInto dest mark refs).state :=
      .cloneInto stored (fun _ _ _ _ => trivial) dest mark refs
    have state : (r.clone f.uid dest.uid mark refs).state =
        r.put (f.cloneInto dest mark refs).state := by
      rw [Registry.clone, if_neg apart, origin]
      dsimp only
      rw [Registry.onForm_of_get target]
    rw [state, Registry.get_put, cloned.uid_eq, if_neg fun same => apart same.symm, origin]

/-- A constraint is added twice and cloned over itself, a change is refused, and the only pair of
the variable is taken out. -/
def rewrittenMaster : Formulation :=
  run (.empty 1 .dwMaster none)
    [.createVariable 1 ⟨"", .masterPureVar, .plain, .static⟩ none,
      .createConstraint 1 ⟨"", .masterPureConstr, { ConstrData.plain with rhs := 4 }, .static⟩
        (some (.ofList [(Ident.ofVar 1, 2), (Ident.ofVar 9, 1)])),
      .add (.element (.constraint (Entity.make (Ref.ident (Ident.ofConstr 1)) "again"
        { ConstrData.plain with rhs := 9 } .static))) none,
      .cloneWithin ⟨.dynamic, .masterMixedConstr⟩ [Ident.ofConstr 1],
      .setCost (Ident.ofVar 7) 3,
      .setCoefficient (Ident.ofConstr 1) (Ident.ofVar 1) 0]

theorem rewrittenMaster_reachable : Reachable rewrittenMaster :=
  ReachableBy.run (.empty 1 .dwMaster none) (by
    simp [Operation.WellKinded, Operation.source?, Given.WellKinded, Element.WellKinded,
      Entity.make, Ident.ofConstr])

/-- The record is that of the second addition, and the emptied column is still registered. -/
theorem inStep_rewrittenMaster :
    let r := (Registry.empty.put rewrittenMaster).put (.empty 2 .dwSp none)
    let mark : Mark := ⟨.static, .dwSpPureConstr⟩
    rewrittenMaster.coefficients.frozen = false ∧ InStep rewrittenMaster ∧
      rewrittenMaster.recordedRhs.get? (Ident.ofConstr 1) = some 9 ∧
      rewrittenMaster.coefficients.cells.hasColumn (Ident.ofVar 1) = true ∧
      Grows rewrittenMaster (Operation.after rewrittenMaster (.reset none)) ∧
      (r.clone 1 2 mark [Ident.ofConstr 1]).state.get 1 = .ok rewrittenMaster := by
  intro r mark
  have mutable : rewrittenMaster.coefficients.frozen = false := by decide +kernel
  obtain ⟨inStep, grows, read⟩ := inStep_of_reachable rewrittenMaster_reachable mutable
  refine ⟨mutable, inStep, ?_, ?_, ?_, ?_⟩
  · decide +kernel
  · decide +kernel
  · refine grows (.reset none) trivial fun g read => ?_
    cases read
  · have uid : rewrittenMaster.uid = 1 := by decide +kernel
    have origin : r.get 1 = .ok rewrittenMaster := by
      rw [Registry.get_put, if_neg (by decide), Registry.get_put, if_pos uid]
    have target : r.get 2 = .ok (.empty 2 .dwSp none) := by
      rw [Registry.get_put]
      exact if_pos rfl
    rw [uid] at read
    exact read r (.empty 2 .dwSp none) mark [Ident.ofConstr 1] origin target (by decide)

end Decomposition.Formulation
