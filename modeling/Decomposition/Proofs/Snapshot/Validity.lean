import Decomposition.Proofs.Formulation.Clone
import Decomposition.Proofs.Relation.Restriction
import Decomposition.Proofs.Snapshot.Lagrangian

namespace Decomposition

namespace Formulation

/-- What the snapshots read of a master. -/
structure Sight where
  /-- The representatives, as far as pricing reads them. -/
  columns : List (Ident × Bool × Duty × Float)
  /-- The coupling constraints with their perennial right-hand sides. -/
  rows : List (Ref × Float)
  /-- The coefficients of the representatives in each of these rows. -/
  lines : List Values

def heldVariables (master : Formulation) : List (Ident × Bool × Duty × Float) :=
  (master.vars.entries.map pricedPart).filter fun part =>
    Category.masterRepresentativeVar part.2.2.1

def heldRows (master : Formulation) : List (Ref × Float) :=
  master.couplingConstraints.map fun entry => (entry.1, entry.2.perennial.rhs)

/-- A representative of a compact variable is stored under the reference, active or not. -/
def isRepresentative (master : Formulation) (x : Ref) : Bool :=
  (master.vars.find? x).any fun v => Category.masterRepresentativeVar v.id.duty

def sight (master : Formulation) : Sight where
  columns := master.heldVariables
  rows := master.heldRows
  lines := master.couplingRefs.map
    (master.coefficients.cells.restrictRow master.isRepresentative)

section Sight
variable {f g : Formulation}

theorem representatives_eq (master : Formulation) :
    SubgradientSnapshot.representatives master = master.heldVariables.map (·.1) := by
  rw [heldVariables, List.filter_map, List.map_map]
  rfl

theorem couplingRefs_eq (master : Formulation) :
    master.couplingRefs = master.heldRows.map (·.1) := by
  rw [heldRows, List.map_map]
  rfl

theorem contains_representatives (master : Formulation) :
    ((SubgradientSnapshot.representatives master).map Ref.ident).contains =
      master.isRepresentative := by
  funext x
  match x with
  | .other d =>
      refine List.contains_eq_any_beq.trans (List.any_eq_false.2 fun ref mem => ?_)
      obtain ⟨id, _, rfl⟩ := List.mem_map.1 mem
      rw [BEq.comm, Ref.ident_beq_other]
      exact Bool.false_ne_true
  | .ident id =>
      let held := master.vars.filter fun _ v => Category.masterRepresentativeVar v.id.duty
      have keys : ((SubgradientSnapshot.representatives master).map Ref.ident).contains
          (Ref.ident id) = held.contains id := by
        rw [List.contains_eq_any_beq, SubgradientSnapshot.representatives, OrderedMap.keys,
          List.map_map, List.any_map, OrderedMap.contains]
        congr 1
        funext entry
        exact Ref.ident_beq_ident.trans BEq.comm
      have look : held.get? id = (master.vars.get? id).filter fun v =>
          Category.masterRepresentativeVar v.id.duty :=
        master.vars.members.get?_filter_value _ id
      rw [keys, OrderedMap.contains_eq_isSome, look, isRepresentative]
      change _ = (master.vars.get? id).any _
      cases master.vars.get? id with
      | none => rfl
      | some v => cases passes : Category.masterRepresentativeVar v.id.duty <;> simp [passes]

theorem isRepresentative_congr (columns : g.heldVariables = f.heldVariables) :
    g.isRepresentative = f.isRepresentative := by
  rw [← contains_representatives, ← contains_representatives, representatives_eq,
    representatives_eq, columns]

theorem isRepresentative_alike (master : Formulation) (a b : Ref) (same : (a == b) = true) :
    master.isRepresentative a = master.isRepresentative b := by
  rw [← contains_representatives]
  exact Snapshot.contains_alike _ a b same

theorem sight_congr (columns : g.heldVariables = f.heldVariables)
    (rows : g.heldRows = f.heldRows)
    (lines : ∀ r ∈ f.couplingRefs, g.coefficients.cells.restrictRow f.isRepresentative r =
      f.coefficients.cells.restrictRow f.isRepresentative r) : g.sight = f.sight := by
  have refs : g.couplingRefs = f.couplingRefs := by rw [couplingRefs_eq, couplingRefs_eq, rows]
  rw [sight, sight, columns, rows, refs, isRepresentative_congr columns,
    List.map_congr_left lines]

section Group
variable {category : Category}
  (inside : ∀ duty, category duty = true → Category.masterRepresentativeVar duty = true)
include inside

/-- The active variables of a group are found among the representatives. -/
theorem map_activeVariables (master : Formulation) :
    (master.activeVariables category).map pricedPart =
      master.heldVariables.filter fun part => part.2.1 && category part.2.2.1 := by
  rw [heldVariables, List.filter_filter, List.filter_map, activeVariables]
  refine congrArg (List.map pricedPart) (List.filter_congr fun entry _ => ?_)
  dsimp only [Function.comp_apply, pricedPart]
  cases passes : category entry.2.id.duty with
  | false => rw [Bool.and_false, Bool.false_and]
  | true => rw [inside _ passes, Bool.and_true, Bool.and_true]

theorem mem_representatives_of_active {id : Ident}
    (active : id ∈ (f.activeVariables category).map (·.1)) :
    id ∈ SubgradientSnapshot.representatives f := by
  obtain ⟨entry, mem, rfl⟩ := List.mem_map.1 active
  obtain ⟨stored, passes⟩ := List.mem_filter.1 mem
  have representative := inside _ (Bool.and_eq_true_iff.1 passes).2
  exact List.mem_map_of_mem (List.mem_filter.2 ⟨stored, representative⟩)

end Group

section Equal
variable (same : g.sight = f.sight)
include same

theorem couplingRefs_of_sight : g.couplingRefs = f.couplingRefs := by
  have rows : g.heldRows = f.heldRows := congrArg Sight.rows same
  rw [couplingRefs_eq, couplingRefs_eq, rows]

theorem lines_of_sight {r : Ref} (coupling : r ∈ f.couplingRefs) :
    g.coefficients.cells.restrictRow f.isRepresentative r =
      f.coefficients.cells.restrictRow f.isRepresentative r := by
  have lines := congrArg Sight.lines same
  rw [sight, sight, couplingRefs_of_sight same,
    isRepresentative_congr (congrArg Sight.columns same)] at lines
  exact List.map_inj_left.1 lines r coupling

/-- The matrix of representatives, or of some of them. -/
theorem submatrix_of_sight {columns : List Ident}
    (inside : ∀ id ∈ columns, id ∈ SubgradientSnapshot.representatives f) (capacity : Option Int) :
    Snapshot.submatrix g f.couplingRefs columns capacity =
      Snapshot.submatrix f f.couplingRefs columns capacity := by
  have chosen (x : Ref) (listed : (columns.map Ref.ident).contains x = true) :
      f.isRepresentative x = true := by
    rw [← contains_representatives]
    obtain ⟨other, mem, equal⟩ := List.contains_iff_exists_mem_beq.1 listed
    obtain ⟨id, idMem, rfl⟩ := List.mem_map.1 mem
    exact List.contains_iff_exists_mem_beq.2 ⟨id, List.mem_map_of_mem (inside id idMem), equal⟩
  have agree : ∀ r ∈ f.couplingRefs,
      g.coefficients.cells.restrictRow (columns.map Ref.ident).contains r =
        f.coefficients.cells.restrictRow (columns.map Ref.ident).contains r := by
    intro r coupling
    rw [← Incidence.filter_restrictRow _ chosen, ← Incidence.filter_restrictRow _ chosen,
      lines_of_sight same coupling]
  rw [Snapshot.submatrix, Snapshot.submatrix, Relation.extract, Relation.extract,
    Incidence.extract_congr agree]

theorem pricedGroup_of_sight {category : Category}
    (inside : ∀ duty, category duty = true → Category.masterRepresentativeVar duty = true)
    (capacity : Option Int) :
    PricedGroup.ofMaster g category g.couplingRefs capacity =
      PricedGroup.ofMaster f category f.couplingRefs capacity := by
  have columns : g.heldVariables = f.heldVariables := congrArg Sight.columns same
  have active : (g.activeVariables category).map pricedPart =
      (f.activeVariables category).map pricedPart := by
    rw [map_activeVariables inside, map_activeVariables inside, columns]
  have costs : (g.activeVariables category).map (fun entry => (entry.1, entry.2.perennial.cost)) =
      (f.activeVariables category).map fun entry => (entry.1, entry.2.perennial.cost) := by
    have read := congrArg (List.map fun part => (part.1, part.2.2.2)) active
    rwa [List.map_map, List.map_map] at read
  have keys : (g.activeVariables category).map (·.1) = (f.activeVariables category).map (·.1) := by
    have read := congrArg (List.map (·.1)) active
    rwa [List.map_map, List.map_map] at read
  have matrix : Snapshot.submatrix g g.couplingRefs ((g.activeVariables category).map (·.1))
      capacity = Snapshot.submatrix f f.couplingRefs ((f.activeVariables category).map (·.1))
      capacity := by
    rw [keys, couplingRefs_of_sight same]
    exact submatrix_of_sight same (fun _ => mem_representatives_of_active inside) capacity
  exact congrArg₂ PricedGroup.mk (OrderedMap.ext_entries costs) matrix

/-- What the snapshots hold is read off the sight. -/
theorem Sound.snapshots_of_sight (sound : Sound f) (later : Sound g) (capacity : Option Int) :
    PricingSnapshot.ofMaster g capacity = PricingSnapshot.ofMaster f capacity ∧
      SubgradientSnapshot.ofMaster g capacity = SubgradientSnapshot.ofMaster f capacity := by
  constructor
  · rw [sound.pricingSnapshot, later.pricingSnapshot]
    have subproblem (duty : Duty) (pricing : Category.masterRepDwSpVar duty = true) :
        Category.masterRepresentativeVar duty = true :=
      Bool.or_eq_true_iff.2 (.inr pricing)
    have pure (duty : Duty) (origin : Category.originMasterVar duty = true) :
        Category.masterRepresentativeVar duty = true :=
      Bool.or_eq_true_iff.2 (.inl origin)
    rw [pricedGroup_of_sight same subproblem, pricedGroup_of_sight same pure]
  · obtain ⟨rhs, built, recorded⟩ := SubgradientSnapshot.ofMaster_eq sound capacity
    obtain ⟨laterRhs, laterBuilt, laterRecorded⟩ := SubgradientSnapshot.ofMaster_eq later capacity
    have rows : g.heldRows = f.heldRows := congrArg Sight.rows same
    have held : laterRhs = rhs :=
      OrderedMap.ext_entries (laterRecorded.trans (rows.trans recorded.symm))
    have representatives : SubgradientSnapshot.representatives g =
        SubgradientSnapshot.representatives f := by
      have columns : g.heldVariables = f.heldVariables := congrArg Sight.columns same
      rw [representatives_eq, representatives_eq, columns]
    rw [built, laterBuilt, held, couplingRefs_of_sight same, representatives,
      submatrix_of_sight same fun _ mem => mem]

end Equal

end Sight

/-- A step of column generation: values in force and bounds change, a solver runs, or a new entity
comes in that is neither a representative nor a coupling constraint. -/
def Operation.Generates (f : Formulation) : Operation → Prop
  | .setCost _ _ | .setBounds _ _ _ | .setRhs _ _
  | .improvePrimalBound _ | .improveDualBound _ | .optimize _ _ => True
  | .createVariable uid draft _ =>
      f.vars.get? (f.freshIdent .variable uid draft.duty) = none ∧
        Category.masterRepresentativeVar draft.duty = false
  | .createConstraint uid draft _ =>
      f.constrs.get? (f.freshIdent .constraint uid draft.duty) = none ∧
        draft.duty = .masterConvexityConstr
  | _ => False

/-- A run of column generation. Whether a uid is new depends on the steps before. -/
def Generation : Formulation → List Operation → Prop
  | _, [] => True
  | f, op :: rest => op.Generates f ∧ Generation (op.after f) rest

theorem Operation.Generates.allowed {f : Formulation} {op : Operation}
    (generates : op.Generates f) : op.WellKinded ∧ op.source? = none := by
  cases op <;> first | exact generates.elim | exact ⟨trivial, rfl⟩

section Generation
variable {f g : Formulation}

/-- What the snapshots read of a stored constraint. -/
def coupledPart (entry : Ref × Constraint) : Ref × Bool × Float :=
  (entry.1, entry.2.isCoupling, entry.2.perennial.rhs)

theorem heldRows_eq (master : Formulation) :
    master.heldRows = ((master.constrs.entries.map coupledPart).filter (·.2.1)).map fun part =>
      (part.1, part.2.2) := by
  rw [List.filter_map, List.map_map]
  rfl

/-- Current values of variables are not read, except for the activity. -/
theorem sight_modifyVariable {ref : Ref} {change : VarData → VarData}
    (keepsActivity : ∀ d, (change d).active = d.active)
    (done : f.modifyVariable ref (·.mapCurrent change) = .ok g) : g.sight = f.sight := by
  have alike := pricesAlike_modifyVariable keepsActivity done
  obtain ⟨_, _, rfl⟩ := Fault.exists_of_map_eq_ok done
  refine sight_congr ?_ rfl fun _ _ => rfl
  rw [heldVariables, heldVariables, alike.columns]

theorem sight_setRhs {ref : Ref} {rhs : Float} (done : f.setRhs ref rhs = .ok g) :
    g.sight = f.sight := by
  obtain ⟨_, _, rfl⟩ := Fault.exists_of_map_eq_ok done
  have parts := Store.map_modify f.constrs ref (g := coupledPart)
    (f := (·.mapCurrent fun d => { d with rhs := rhs })) fun _ _ => rfl
  refine sight_congr rfl ?_ fun _ _ => rfl
  rw [heldRows_eq, heldRows_eq, parts]

/-- A new column stands beside the representatives, whatever its coefficients are. -/
theorem sight_addVariable {v : Variable} (fresh : f.vars.get? v.id = none)
    (outside : Category.masterRepresentativeVar v.id.duty = false) (column : Option Values) :
    (f.addVariable v column).state.sight = f.sight := by
  have stored : (f.vars.set v.id v).entries = f.vars.entries ++ [(v.id, v)] :=
    Store.entries_set_of_absent fresh v
  -- The relation may know the column already, but no representative is stored under its key.
  have hidden : f.isRepresentative v.id = false := by
    change (f.vars.get? v.id).any _ = false
    rw [fresh]
    rfl
  rw [addVariable_state]
  refine sight_congr ?_ rfl fun r _ => ?_
  · rw [heldVariables, stored, List.map_append, List.filter_append]
    have dropped : ([(v.id, v)].map pricedPart).filter (fun part =>
        Category.masterRepresentativeVar part.2.2.1) = [] := by
      simp [pricedPart, outside]
    rw [dropped, List.append_nil, heldVariables]
  · refine f.coefficients.restrictRow_attempt ?_ f.isRepresentative_alike
    cases column <;> exact hidden

/-- A new convexity constraint stands beside the coupling constraints. -/
theorem sight_addConstraint {c : Constraint} {id : Ident} (named : c.id = .ident id)
    (fresh : f.constrs.get? c.id = none) (convexity : Category.convexityConstr id.duty = true)
    (row : Option Values) : (f.addConstraint c row).state.sight = f.sight := by
  have stored : (f.constrs.set c.id c).entries = f.constrs.entries ++ [(c.id, c)] :=
    Store.entries_set_of_absent fresh c
  have outside : c.isCoupling = false := by
    rw [Constraint.isCoupling, named]
    dsimp only
    rw [convexity, Bool.not_true, Bool.and_false]
  rw [addConstraint_state f (by rw [named]; rfl)]
  refine sight_congr rfl ?_ fun r coupling => ?_
  · rw [heldRows, couplingConstraints, stored, List.filter_append]
    have dropped : [(c.id, c)].filter (fun entry => entry.2.isCoupling) = [] := by
      simp [outside]
    rw [dropped, List.append_nil, heldRows, couplingConstraints]
  · have apart : (c.id == r) = false := by
      obtain ⟨entry, mem, rfl⟩ := List.mem_map.1 coupling
      exact BEq.comm.trans (OrderedMap.absent_of_get? fresh entry (List.mem_filter.1 mem).1)
    refine f.coefficients.restrictRow_attempt ?_ f.isRepresentative_alike
    cases row <;> exact apart

/-- One step of column generation, whether it succeeds or fails. -/
theorem Operation.Generates.sight {op : Operation} (generates : op.Generates f) :
    (op.after f).sight = f.sight := by
  cases op with
  | setCost ref cost =>
      have keeps (d : VarData) : ({ d with cost := cost } : VarData).active = d.active := rfl
      exact read_settled Formulation.sight fun g done => sight_modifyVariable keeps done
  | setBounds ref lb ub =>
      have keeps (d : VarData) :
          ({ d with lb := lb.getD d.lb, ub := ub.getD d.ub } : VarData).active = d.active := rfl
      exact read_settled Formulation.sight fun g done => sight_modifyVariable keeps done
  | setRhs ref rhs => exact read_settled Formulation.sight fun g done => sight_setRhs done
  | improvePrimalBound bound =>
      obtain ⟨_, noted⟩ := f.improvePrimalBound_fst bound
      rw [Operation.after, noted]
      rfl
  | improveDualBound bound =>
      obtain ⟨_, noted⟩ := f.improveDualBound_fst bound
      rw [Operation.after, noted]
      rfl
  | optimize solver update =>
      obtain ⟨_, _, noted⟩ := f.optimize_state solver update
      rw [Operation.after, noted]
      rfl
  | createVariable uid draft column =>
      rw [Operation.after, createVariable_state]
      exact sight_addVariable generates.1 generates.2 column
  | createConstraint uid draft row =>
      rw [Operation.after, createConstraint_state]
      have convexity : Category.convexityConstr draft.duty = true := by
        rw [generates.2]
        rfl
      exact sight_addConstraint rfl generates.1 convexity row
  | _ => exact generates.elim

/-- A whole run of column generation is a history that is not seen. -/
theorem Generation.run {operations : List Operation} (generation : Generation f operations)
    (reached : Reachable f) :
    Reachable (f.run operations) ∧ (f.run operations).sight = f.sight := by
  induction operations generalizing f with
  | nil => exact ⟨reached, rfl⟩
  | cons op rest ih =>
      obtain ⟨generates, later⟩ := generation
      have next : Reachable (f.run [op]) := reached.run (by simpa using generates.allowed)
      obtain ⟨there, same⟩ := ih later next
      exact ⟨there, same.trans generates.sight⟩

/-- Both snapshots stay valid through column generation: when they are built anew they are what they
were before. -/
theorem snapshots_of_generation (reached : Reachable f) {operations : List Operation}
    (generation : Generation f operations) (capacity : Option Int) :
    ∃ pricing subgradient,
      PricingSnapshot.ofMaster f capacity = .ok pricing ∧
      PricingSnapshot.ofMaster (f.run operations) capacity = .ok pricing ∧
      SubgradientSnapshot.ofMaster f capacity = .ok subgradient ∧
      SubgradientSnapshot.ofMaster (f.run operations) capacity = .ok subgradient := by
  obtain ⟨later, same⟩ := generation.run reached
  obtain ⟨samePricing, sameSubgradient⟩ :=
    reached.sound.snapshots_of_sight same later.sound capacity
  have priced := reached.sound.pricingSnapshot capacity
  obtain ⟨rhs, built, _⟩ := SubgradientSnapshot.ofMaster_eq reached.sound capacity
  exact ⟨_, _, priced, samePricing.trans priced, built, sameSubgradient.trans built⟩

/-- A column, an artificial variable and a convexity constraint come in, the last with an entry that
removes a pair of its own and one for a representative. -/
def smallGeneration : List Operation :=
  [.createVariable 3 ⟨"", .masterCol, { VarData.plain with cost := 9 }, .dynamic⟩
      (some (.ofList [(Ident.ofConstr 1, 4), (Ident.ofConstr 2, 1), (Ident.ofConstr 7, 2)])),
    .createVariable 4 ⟨"", .masterArtVar, .plain, .artificial⟩
      (some (.ofList [(Ident.ofConstr 1, 1)])),
    .createConstraint 3 ⟨"", .masterConvexityConstr, .plain, .static⟩
      (some (.ofList [(Ident.ofVar 1, 1), (Ident.ofVar 3, 0)])),
    .setCost (Ident.ofVar 1) 50, .setBounds (Ident.ofVar 2) none (some 1),
    .setRhs (Ident.ofConstr 1) 8, .setRhs (Ident.ofConstr 9) 8, .optimize none true,
    .improveDualBound 3]

theorem snapshots_of_smallGeneration :
    Generation smallMaster smallGeneration ∧
      (smallMaster.run smallGeneration).coefficients.cells.get? (Ident.ofConstr 1)
        (Ident.ofVar 3) = some 4 ∧
      ∃ pricing subgradient,
        PricingSnapshot.ofMaster smallMaster (some 8) = .ok pricing ∧
        PricingSnapshot.ofMaster (smallMaster.run smallGeneration) (some 8) = .ok pricing ∧
        SubgradientSnapshot.ofMaster smallMaster (some 8) = .ok subgradient ∧
        SubgradientSnapshot.ofMaster (smallMaster.run smallGeneration) (some 8) =
          .ok subgradient := by
  have generation : Generation smallMaster smallGeneration := by
    refine ⟨⟨?_, rfl⟩, ⟨?_, rfl⟩, ⟨?_, rfl⟩, trivial, trivial, trivial, trivial, trivial, trivial,
      trivial⟩
    all_goals exact Option.isNone_iff_eq_none.1 (by decide +kernel)
  refine ⟨generation, by decide +kernel, ?_⟩
  exact snapshots_of_generation smallMaster_reachable generation (some 8)

end Generation

end Formulation

end Decomposition
