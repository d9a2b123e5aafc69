import Decomposition.Proofs.Number.Exact
import Decomposition.Proofs.Relation.RationalProducts
import Decomposition.Proofs.Snapshot.ReducedCosts
import Mathlib.Tactic.Ring

namespace Decomposition

namespace SubgradientSnapshot
variable {master : Formulation}

/-- The share of a variable in the scaled solution: its value times its multiplicity. A variable
without a multiplicity counts once, and one without a value not at all. -/
def weight (solution : OrderedMap Ref ℚ) (multiplicities : Option (OrderedMap Ref ℚ))
    (x : Ref) : ℚ :=
  (multiplicities.elim 1 fun m => m.getD x 1) * solution.getD x 0

theorem getD_scale (solution : OrderedMap Ref ℚ) (multiplicities : Option (OrderedMap Ref ℚ))
    (x : Ref) : (scale solution multiplicities).getD x 0 = weight solution multiplicities x := by
  cases multiplicities with
  | none => exact (one_mul _).symm
  | some m =>
      have alike (a b : Ref) (v : ℚ) (same : (a == b) = true) :
          m.getD a 1 * v = m.getD b 1 * v := by
        rw [OrderedMap.getD_eq, OrderedMap.getD_eq, m.get?_congr same]
      rw [OrderedMap.getD_eq, scale, solution.get?_map_key alike, weight,
        OrderedMap.getD_eq solution]
      cases solution.get? x <;> simp

/-- The component of a constraint is its right-hand side less its activity. -/
theorem getD_subgradient (s : SubgradientSnapshot ℚ) (solution : OrderedMap Ref ℚ)
    (multiplicities : Option (OrderedMap Ref ℚ)) {entry : Ref × ℚ}
    (mem : entry ∈ s.rhs.entries) :
    (s.subgradient solution multiplicities).getD entry.1 0 =
      entry.2 - Incidence.dot (s.matrix.cells.row entry.1) (scale solution multiplicities) := by
  have listed : (entry.1, entry.2 - (s.matrix.cells.mul (scale solution multiplicities)).getD
      entry.1 0) ∈ (s.subgradient solution multiplicities).entries :=
    List.mem_map.2 ⟨entry, mem, rfl⟩
  rw [OrderedMap.getD_eq, OrderedMap.get?_self_of_mem listed, Option.getD_some,
    Incidence.getD_mul]

/-- The right-hand side of every stored constraint is on record. -/
theorem recordedRhs_eq (sound : Formulation.Sound master) {entries : List (Ref × Constraint)}
    (stored : ∀ entry ∈ entries, entry ∈ master.constrs.entries) :
    recordedRhs master (entries.map (·.1)) =
      .ok (entries.map fun entry => (entry.1, entry.2.perennial.rhs)) := by
  induction entries with
  | nil => rfl
  | cons head rest ih =>
      have here : master.perennialRhs head.1 = .ok head.2.perennial.rhs := by
        rw [Formulation.perennialRhs, sound.recorded head (stored head List.mem_cons_self)]
      have later := ih fun entry mem => stored entry (List.mem_cons_of_mem _ mem)
      rw [List.map_cons, recordedRhs, here, later]
      rfl

/-- A snapshot is not refused. It holds the perennial right-hand sides of the coupling
constraints. -/
theorem ofMaster_eq (sound : Formulation.Sound master) (capacity : Option Int) :
    ∃ rhs : OrderedMap Ref Float,
      ofMaster master capacity =
        .ok ⟨rhs, Snapshot.submatrix master master.couplingRefs (representatives master)
          capacity⟩ ∧
      rhs.entries =
        master.couplingConstraints.map fun entry => (entry.1, entry.2.perennial.rhs) := by
  let recorded := master.couplingConstraints.map fun entry => (entry.1, entry.2.perennial.rhs)
  have distinct : recorded.Pairwise fun a b => (a.1 == b.1) = false :=
    List.pairwise_map.2 (List.pairwise_map.1 master.couplingRefs_distinct)
  refine ⟨.ofList recorded, ?_, OrderedMap.entries_ofList distinct⟩
  have record : recordedRhs master master.couplingRefs = .ok recorded :=
    recordedRhs_eq sound fun entry mem => (List.mem_filter.1 mem).1
  rw [ofMaster, sound.kinded.keptConstraints]
  change (recordedRhs master master.couplingRefs).map _ = _
  rw [record]
  rfl

end SubgradientSnapshot

namespace Formulation
variable {master : Formulation}

/-- The coefficient of a pair as a number, which is zero where none is stored. -/
def coefficient (master : Formulation) (read : Float → ℚ) (r x : Ref) : ℚ :=
  (master.coefficients.cells.get? r x).elim 0 read

/-- The duals of the coupling constraints, weighted by the coefficients of one variable. -/
def dualSum (master : Formulation) (read : Float → ℚ) (duals : OrderedMap Ref ℚ) (x : Ref) : ℚ :=
  (master.couplingConstraints.map fun row =>
    master.coefficient read row.1 x * duals.getD row.1 0).sum

/-- The weights vanish outside the active representatives of compact variables. -/
def Supported (master : Formulation) (weight : Ref → ℚ) : Prop :=
  ∀ x, weight x ≠ 0 → ∃ entry ∈ master.activeVariables Category.masterRepresentativeVar,
    (Ref.ident entry.1 == x) = true

theorem Supported.representative {weight : Ref → ℚ} (supported : master.Supported weight) {x : Ref}
    (nonzero : weight x ≠ 0) :
    ((SubgradientSnapshot.representatives master).map Ref.ident).contains x = true := by
  obtain ⟨entry, mem, same⟩ := supported x nonzero
  obtain ⟨stored, passes⟩ := List.mem_filter.1 mem
  obtain ⟨_, representative⟩ := Bool.and_eq_true_iff.1 passes
  have listed : entry.1 ∈ SubgradientSnapshot.representatives master :=
    List.mem_map_of_mem (List.mem_filter.2 ⟨stored, representative⟩)
  exact List.contains_iff_exists_mem_beq.2 ⟨entry.1, List.mem_map_of_mem listed, BEq.symm same⟩

/-- A stored variable with a weight is active and a representative. -/
theorem Supported.stored {weight : Ref → ℚ} (supported : master.Supported weight)
    {entry : Ident × Variable} (mem : entry ∈ master.vars.entries)
    (nonzero : weight entry.1 ≠ 0) :
    entry.2.isActive = true ∧ Category.masterRepresentativeVar entry.2.id.duty = true := by
  obtain ⟨other, otherMem, same⟩ := supported entry.1 nonzero
  obtain ⟨otherStored, passes⟩ := List.mem_filter.1 otherMem
  rw [Ref.ident_beq_ident] at same
  have equal : other.2 = entry.2 := OrderedMap.value_unique otherStored mem same
  rw [equal] at passes
  exact Bool.and_eq_true_iff.1 passes

/-- The stored variables as keys of the coefficients. -/
def variableRefs (master : Formulation) : List Ref :=
  master.vars.entries.map fun entry => Ref.ident entry.1

theorem variableRefs_distinct (master : Formulation) :
    master.variableRefs.Pairwise fun a b => (a == b) = false := by
  refine List.pairwise_map.2 (master.vars.members.distinct.imp fun apart => ?_)
  rw [Ref.ident_beq_ident]
  exact apart

theorem exists_variableRef_of_representative {x : Ref}
    (chosen : ((SubgradientSnapshot.representatives master).map Ref.ident).contains x = true) :
    ∃ other ∈ master.variableRefs, (x == other) = true := by
  obtain ⟨other, mem, same⟩ := List.contains_iff_exists_mem_beq.1 chosen
  obtain ⟨id, idMem, rfl⟩ := List.mem_map.1 mem
  obtain ⟨entry, entryMem, rfl⟩ := List.mem_map.1 idMem
  exact ⟨_, List.mem_map_of_mem (List.mem_filter.1 entryMem).1, same⟩

/-- The activity of a coupling constraint counts all stored variables. -/
theorem Sound.activity_eq (sound : Sound master) (read : Float → ℚ) {w : OrderedMap Ref ℚ}
    (supported : master.Supported fun x => w.getD x 0) (capacity : Option Int)
    {row : Ref × Constraint} (coupling : row ∈ master.couplingConstraints) :
    Incidence.dot (((Snapshot.submatrix master master.couplingRefs
      (SubgradientSnapshot.representatives master) capacity).cells.map read).row row.1) w =
      (master.vars.entries.map fun entry =>
        master.coefficient read row.1 entry.1 * w.getD entry.1 0).sum := by
  have held := Snapshot.row_submatrix sound.cells (SubgradientSnapshot.representatives master)
    capacity (mem_couplingRefs coupling)
  -- All stored variables serve as keys. Those that the matrix leaves out have no weight.
  have listed (x : Ref) (stored : ((Snapshot.submatrix master master.couplingRefs
      (SubgradientSnapshot.representatives master) capacity).cells.row row.1).contains x = true) :
      ∃ other ∈ master.variableRefs, (x == other) = true := by
    rw [OrderedMap.contains_eq_isSome, held] at stored
    split at stored
    · rename_i chosen
      exact exists_variableRef_of_representative chosen
    · cases stored
  rw [Incidence.row_map, Incidence.dot_map _ read w master.variableRefs_distinct listed,
    variableRefs, List.map_map]
  refine congrArg List.sum (List.map_congr_left fun entry _ => ?_)
  dsimp only [Function.comp_apply]
  by_cases zero : w.getD entry.1 0 = 0
  · rw [zero, mul_zero, mul_zero]
  · rw [held, supported.representative zero, coefficient]
    rfl

/-- The product of a priced column counts all coupling constraints. -/
theorem Sound.contribution_eq (sound : Sound master) (read : Float → ℚ) {columns : List Ident}
    {x : Ident} (priced : x ∈ columns) (capacity : Option Int) (duals : OrderedMap Ref ℚ) :
    Incidence.dot (((Snapshot.submatrix master master.couplingRefs columns
      capacity).cells.map read).column x) duals = master.dualSum read duals x := by
  have held := Snapshot.column_submatrix sound.cells master.couplingRefs capacity priced
  have listed (r : Ref) (stored : ((Snapshot.submatrix master master.couplingRefs columns
      capacity).cells.column x).contains r = true) :
      ∃ other ∈ master.couplingRefs, (r == other) = true := by
    rw [OrderedMap.contains_eq_isSome, held] at stored
    split at stored
    · rename_i kept
      exact List.contains_iff_exists_mem_beq.1 kept
    · cases stored
  rw [Incidence.column_map, Incidence.dot_map _ read duals master.couplingRefs_distinct listed,
    couplingRefs, List.map_map, dualSum]
  refine congrArg List.sum (List.map_congr_left fun row coupling => ?_)
  have kept : master.couplingRefs.contains row.1 = true :=
    List.elem_eq_true_of_mem (mem_couplingRefs coupling)
  rw [Function.comp_apply, ← couplingRefs, held, kept, coefficient]
  rfl

/-- The prices of one group, weighted and summed up. -/
theorem Sound.sum_reducedCosts (sound : Sound master) (read : Float → ℚ) (category : Category)
    (capacity : Option Int) (duals : OrderedMap Ref ℚ) (weight : Ref → ℚ) :
    ((((PricedGroup.ofMaster master category master.couplingRefs capacity).map
      read).reducedCosts duals).entries.map fun priced => priced.2 * weight priced.1).sum =
      ((master.activeVariables category).map fun entry =>
        (read entry.2.perennial.cost - master.dualSum read duals entry.1) *
          weight entry.1).sum := by
  rw [PricedGroup.reducedCosts, OrderedMap.entries_map, PricedGroup.map, PricedGroup.ofMaster,
    OrderedMap.entries_map, OrderedMap.entries_map, List.map_map, List.map_map, List.map_map]
  refine congrArg List.sum (List.map_congr_left fun entry mem => ?_)
  have product := sound.contribution_eq read (mem_keys_of_mem_activeVariables mem) capacity duals
  rw [← Incidence.getD_transposeMul] at product
  exact congrArg
    (fun total => (read entry.2.perennial.cost - total) * weight entry.1) product

end Formulation

/-- Two disjoint selections that leave out zeros alone have the whole sum. -/
theorem sum_filter_add_sum_filter {α : Type} {items : List α} {p q : α → Bool} {term : α → ℚ}
    (apart : ∀ a ∈ items, (p a && q a) = false)
    (outside : ∀ a ∈ items, (p a || q a) = false → term a = 0) :
    ((items.filter p).map term).sum + ((items.filter q).map term).sum =
      (items.map term).sum := by
  induction items with
  | nil => simp
  | cons a rest ih =>
      have later := ih (fun b mem => apart b (List.mem_cons_of_mem _ mem))
        fun b mem => outside b (List.mem_cons_of_mem _ mem)
      rw [List.map_cons, List.sum_cons, ← later]
      cases first : p a with
      | true =>
          have second : q a = false := by simpa [first] using apart a List.mem_cons_self
          simp [first, second, add_assoc]
      | false =>
          cases second : q a with
          | true => simp [first, second, add_left_comm]
          | false =>
              have zero : term a = 0 :=
                outside a List.mem_cons_self (by rw [first, second]; rfl)
              simp [first, second, zero]

/-- A matrix between two vectors is summed up by rows or by columns. -/
theorem sum_residual_add_sum_cost {α β : Type} (rows : List α) (columns : List β)
    (dual rhs : α → ℚ) (cost weight : β → ℚ) (a : α → β → ℚ) :
    (rows.map fun r => dual r * (rhs r - (columns.map fun c => a r c * weight c).sum)).sum +
        (columns.map fun c => cost c * weight c).sum =
      (rows.map fun r => dual r * rhs r).sum +
        (columns.map fun c =>
          (cost c - (rows.map fun r => a r c * dual r).sum) * weight c).sum := by
  -- Both sides are brought to a plain sum and one double sum, taken in either order.
  have byRows (r : α) : dual r * (rhs r - (columns.map fun c => a r c * weight c).sum) =
      dual r * rhs r + (columns.map fun c => -(dual r * a r c * weight c)).sum := by
    have scaled : (columns.map fun c => -(dual r * a r c * weight c)).sum =
        -dual r * (columns.map fun c => a r c * weight c).sum := by
      rw [← List.sum_map_mul_left]
      refine congrArg List.sum (List.map_congr_left fun c _ => ?_)
      ring
    rw [scaled]
    ring
  have byColumns (c : β) : (cost c - (rows.map fun r => a r c * dual r).sum) * weight c =
      cost c * weight c + (rows.map fun r => -(dual r * a r c * weight c)).sum := by
    have scaled : (rows.map fun r => -(dual r * a r c * weight c)).sum =
        -weight c * (rows.map fun r => a r c * dual r).sum := by
      rw [← List.sum_map_mul_left]
      refine congrArg List.sum (List.map_congr_left fun r _ => ?_)
      ring
    rw [scaled]
    ring
  have exchanged := OrderedMap.sum_exchange rows columns fun r c => -(dual r * a r c * weight c)
  simp only [byRows, byColumns, List.sum_map_add, exchanged]
  ring

namespace Formulation
variable {master : Formulation}

/-- The two groups of priced variables have all of the weight. -/
theorem Supported.sum_groups {weight : Ref → ℚ} (supported : master.Supported weight)
    (price : Ident × Variable → ℚ) :
    ((master.activeVariables Category.masterRepDwSpVar).map fun entry =>
        price entry * weight entry.1).sum +
      ((master.activeVariables Category.originMasterVar).map fun entry =>
        price entry * weight entry.1).sum =
      (master.vars.entries.map fun entry => price entry * weight entry.1).sum := by
  refine sum_filter_add_sum_filter (fun entry _ => ?_) fun entry mem neither => ?_
  · cases entry.2.isActive
    · rfl
    · cases entry.2.id.duty <;> rfl
  · by_cases zero : weight entry.1 = 0
    · rw [zero, mul_zero]
    · obtain ⟨active, representative⟩ := supported.stored mem zero
      have either : (Category.originMasterVar entry.2.id.duty ||
          Category.masterRepDwSpVar entry.2.id.duty) = true := representative
      rw [active, Bool.true_and, Bool.true_and, Bool.or_comm, either] at neither
      cases neither

/-- The subgradient without rounding: right-hand side less activity, for every coupling
constraint. -/
theorem Sound.subgradient_eq (sound : Sound master) (read : Float → ℚ) (capacity : Option Int)
    {solution : OrderedMap Ref ℚ} {multiplicities : Option (OrderedMap Ref ℚ)}
    (supported : master.Supported (SubgradientSnapshot.weight solution multiplicities)) :
    ∃ snapshot, SubgradientSnapshot.ofMaster master capacity = .ok snapshot ∧
      (snapshot.map read).rhs.entries =
        master.couplingConstraints.map (fun row => (row.1, read row.2.perennial.rhs)) ∧
      ∀ row ∈ master.couplingConstraints,
        ((snapshot.map read).subgradient solution multiplicities).getD row.1 0 =
          read row.2.perennial.rhs - (master.vars.entries.map fun entry =>
            master.coefficient read row.1 entry.1 *
              SubgradientSnapshot.weight solution multiplicities entry.1).sum := by
  obtain ⟨rhs, built, recorded⟩ := SubgradientSnapshot.ofMaster_eq sound capacity
  let snapshot : SubgradientSnapshot Float :=
    ⟨rhs, Snapshot.submatrix master master.couplingRefs
      (SubgradientSnapshot.representatives master) capacity⟩
  have entries : (snapshot.map read).rhs.entries =
      master.couplingConstraints.map fun row => (row.1, read row.2.perennial.rhs) := by
    change (rhs.map fun _ v => read v).entries = _
    rw [OrderedMap.entries_map, recorded, List.map_map]
    rfl
  refine ⟨snapshot, built, entries, fun row coupling => ?_⟩
  have listed : (row.1, read row.2.perennial.rhs) ∈ (snapshot.map read).rhs.entries := by
    rw [entries]
    exact List.mem_map_of_mem coupling
  have scaled : master.Supported
      fun x => (SubgradientSnapshot.scale solution multiplicities).getD x 0 := by
    simpa only [SubgradientSnapshot.getD_scale] using supported
  have activity := sound.activity_eq read scaled capacity coupling
  simp only [SubgradientSnapshot.getD_scale] at activity
  rw [← activity]
  exact SubgradientSnapshot.getD_subgradient _ solution multiplicities listed

/-- The reduced costs without rounding, weighted and summed up over both groups. -/
theorem Sound.sum_prices (sound : Sound master) (read : Float → ℚ) (capacity : Option Int)
    (duals : OrderedMap Ref ℚ) {weight : Ref → ℚ} (supported : master.Supported weight) :
    ∃ snapshot, PricingSnapshot.ofMaster master capacity = .ok snapshot ∧
      let prices := (snapshot.map read).reducedCosts duals
      ((prices.1.entries ++ prices.2.entries).map fun priced =>
        priced.2 * weight priced.1).sum =
        (master.vars.entries.map fun entry =>
          (read entry.2.perennial.cost - master.dualSum read duals entry.1) *
            weight entry.1).sum := by
  refine ⟨_, sound.pricingSnapshot capacity, ?_⟩
  intro prices
  have first := sound.sum_reducedCosts read Category.masterRepDwSpVar capacity duals weight
  have second := sound.sum_reducedCosts read Category.originMasterVar capacity duals weight
  rw [List.map_append, List.sum_append, ← supported.sum_groups]
  exact congrArg₂ (· + ·) first second

/-- The Lagrangian function of a reachable master has one value, whether it is evaluated by the
subgradient or by the reduced costs. -/
theorem lagrangian_of_reachable (reached : Reachable master)
    (pricingCapacity subgradientCapacity : Option Int) (duals solution : OrderedMap Ref ℚ)
    (multiplicities : Option (OrderedMap Ref ℚ))
    (supported : master.Supported (SubgradientSnapshot.weight solution multiplicities)) :
    ∃ pricing subgradient, PricingSnapshot.ofMaster master pricingCapacity = .ok pricing ∧
      SubgradientSnapshot.ofMaster master subgradientCapacity = .ok subgradient ∧
      let weight := SubgradientSnapshot.weight solution multiplicities
      let a := (subgradient.map Binary64.exact).rhs
      let gradient := (subgradient.map Binary64.exact).subgradient solution multiplicities
      let prices := (pricing.map Binary64.exact).reducedCosts duals
      (a.entries.map fun entry => duals.getD entry.1 0 * gradient.getD entry.1 0).sum +
          (master.vars.entries.map fun entry =>
            Binary64.exact entry.2.perennial.cost * weight entry.1).sum =
        (a.entries.map fun entry => duals.getD entry.1 0 * entry.2).sum +
          ((prices.1.entries ++ prices.2.entries).map fun priced =>
            priced.2 * weight priced.1).sum := by
  obtain ⟨pricing, priced, groups⟩ :=
    reached.sound.sum_prices Binary64.exact pricingCapacity duals supported
  obtain ⟨subgradient, built, entries, components⟩ :=
    reached.sound.subgradient_eq Binary64.exact subgradientCapacity supported
  refine ⟨pricing, subgradient, priced, built, ?_⟩
  intro weight a gradient prices
  have residuals : (a.entries.map fun entry =>
      duals.getD entry.1 0 * gradient.getD entry.1 0) =
      master.couplingConstraints.map fun row =>
        duals.getD row.1 0 * (Binary64.exact row.2.perennial.rhs -
          (master.vars.entries.map fun entry =>
            master.coefficient Binary64.exact row.1 entry.1 * weight entry.1).sum) := by
    rw [entries, List.map_map]
    refine List.map_congr_left fun row coupling => ?_
    exact congrArg (duals.getD row.1 0 * ·) (components row coupling)
  rw [residuals, groups, entries, List.map_map]
  exact sum_residual_add_sum_cost _ _ _ _ _ _ _

/-- A solution with one part from the subproblems, counted three times, and one pure part. -/
theorem lagrangian_smallMaster :
    let duals : OrderedMap Ref ℚ := .ofList [(Ident.ofConstr 1, 3 / 2), (Ident.ofConstr 2, 10)]
    let solution : OrderedMap Ref ℚ := .ofList [(Ident.ofVar 1, 2), (Ident.ofVar 2, 1)]
    let multiplicities : OrderedMap Ref ℚ := .ofList [(Ident.ofVar 1, 3)]
    smallMaster.Supported (SubgradientSnapshot.weight solution (some multiplicities)) ∧
      ∃ pricing subgradient, PricingSnapshot.ofMaster smallMaster none = .ok pricing ∧
        SubgradientSnapshot.ofMaster smallMaster (some 8) = .ok subgradient ∧
        let weight := SubgradientSnapshot.weight solution (some multiplicities)
        let a := (subgradient.map Binary64.exact).rhs
        let gradient :=
          (subgradient.map Binary64.exact).subgradient solution (some multiplicities)
        let prices := (pricing.map Binary64.exact).reducedCosts duals
        (a.entries.map fun entry => duals.getD entry.1 0 * gradient.getD entry.1 0).sum +
            (smallMaster.vars.entries.map fun entry =>
              Binary64.exact entry.2.perennial.cost * weight entry.1).sum =
          (a.entries.map fun entry => duals.getD entry.1 0 * entry.2).sum +
            ((prices.1.entries ++ prices.2.entries).map fun priced =>
              priced.2 * weight priced.1).sum := by
  intro duals solution multiplicities
  have supported :
      smallMaster.Supported (SubgradientSnapshot.weight solution (some multiplicities)) := by
    intro x nonzero
    have valued : solution.getD x 0 ≠ 0 := right_ne_zero_of_mul nonzero
    rw [OrderedMap.getD_eq] at valued
    cases found : solution.get? x with
    | none => rw [found] at valued; exact absurd rfl valued
    | some v =>
        obtain ⟨entry, mem, same, _⟩ := OrderedMap.exists_mem_of_get? found
        have active : ∀ part ∈ solution.entries, ∃ stored ∈
            smallMaster.activeVariables Category.masterRepresentativeVar,
            (Ref.ident stored.1 == part.1) = true := by decide
        obtain ⟨stored, storedMem, equal⟩ := active entry mem
        exact ⟨stored, storedMem, BEq.trans equal same⟩
  exact ⟨supported, lagrangian_of_reachable smallMaster_reachable none (some 8) duals solution
    (some multiplicities) supported⟩

end Formulation

end Decomposition
