import Decomposition.Proofs.Snapshot.Coupling

namespace Decomposition.Formulation

/-- The active variables of a category, under the keys of the store and in its order. -/
def activeVariables (master : Formulation) (category : Category) : List (Ident × Variable) :=
  master.vars.entries.filter fun entry => entry.2.isActive && category entry.2.id.duty

/-- The duals of the coupling constraints, weighted by the coefficients of one variable and added
in the order of the store. Constraints without a coefficient or a nonzero dual are passed over. -/
def dualContribution (master : Formulation) (duals : Values) (x : Ident) : Float :=
  master.couplingConstraints.foldl
    (fun total entry =>
      match master.coefficients.cells.get? entry.1 x, duals.get? entry.1 with
      | some a, some dual => if dual == 0 then total else total + a * dual
      | _, _ => total)
    0

/-- The reduced cost of every active variable of a category. -/
def pricedVariables (master : Formulation) (duals : Values) (category : Category) :
    List (Ident × Float) :=
  (master.activeVariables category).map fun entry =>
    (entry.1, entry.2.perennial.cost - master.dualContribution duals entry.1)

/-- What pricing reads of a stored variable. -/
def pricedPart (entry : Ident × Variable) : Ident × Bool × Duty × Float :=
  (entry.1, entry.2.isActive, entry.2.id.duty, entry.2.perennial.cost)

/-- Two formulations agree in all that reduced costs are made of. Current costs and bounds, the
order of the coefficients and what stands in other rows may differ. -/
structure PricesAlike (f g : Formulation) : Prop where
  columns : f.vars.entries.map pricedPart = g.vars.entries.map pricedPart
  rows : f.couplingRefs = g.couplingRefs
  coefficients : ∀ entry ∈ f.couplingConstraints, ∀ x : Ident,
    f.coefficients.cells.get? entry.1 x = g.coefficients.cells.get? entry.1 x

variable {master other : Formulation}

theorem dualContribution_eq (master : Formulation) (duals : Values) (x : Ident) :
    master.dualContribution duals x =
      master.coefficients.cells.columnProduct master.couplingRefs x duals := by
  rw [Incidence.columnProduct, couplingRefs, List.foldl_map, dualContribution]
  congr 1
  funext total entry
  cases master.coefficients.cells.get? entry.1 x <;> cases duals.get? entry.1 <;> rfl

theorem mem_keys_of_mem_activeVariables {category : Category} {entry : Ident × Variable}
    (mem : entry ∈ master.activeVariables category) :
    entry.1 ∈ (master.vars.filter fun _ v => v.isActive && category v.id.duty).keys :=
  List.mem_map_of_mem mem

/-- One group of a snapshot prices the active variables of its category. -/
theorem Sound.entries_reducedCosts (sound : Sound master) (category : Category)
    (capacity : Option Int) (duals : Values) :
    ((PricedGroup.ofMaster master category master.couplingRefs capacity).reducedCosts
      duals).entries = master.pricedVariables duals category := by
  rw [PricedGroup.reducedCosts, OrderedMap.entries_map, PricedGroup.ofMaster,
    OrderedMap.entries_map, List.map_map, pricedVariables]
  refine List.map_congr_left fun entry mem => ?_
  have product := Snapshot.dot_column_submatrix sound.cells capacity
    master.couplingRefs_distinct (mem_keys_of_mem_activeVariables mem) duals
  rw [← Incidence.getD_transposeMul, ← dualContribution_eq] at product
  exact congrArg (fun total => (entry.1, entry.2.perennial.cost - total)) product

/-- The two snapshots' groups have no variable in common. -/
theorem activeVariables_disjoint {first second : Category}
    (apart : ∀ duty, (first duty && second duty) = false) {a b : Ident × Variable}
    (inFirst : a ∈ master.activeVariables first) (inSecond : b ∈ master.activeVariables second) :
    (a.1 == b.1) = false := by
  obtain ⟨stored, passes⟩ := List.mem_filter.1 inFirst
  obtain ⟨storedToo, passesToo⟩ := List.mem_filter.1 inSecond
  rw [Bool.eq_false_iff]
  intro same
  have equal : a.2 = b.2 := OrderedMap.value_unique stored storedToo same
  have none := apart a.2.id.duty
  rw [← equal] at passesToo
  simp_all

theorem pricedVariables_eq (master : Formulation) (duals : Values) (category : Category) :
    master.pricedVariables duals category =
      ((master.vars.entries.map pricedPart).filter fun part =>
        part.2.1 && category part.2.2.1).map fun part =>
          (part.1, part.2.2.2 - master.dualContribution duals part.1) := by
  rw [List.filter_map, List.map_map]
  rfl

theorem PricesAlike.dualContribution (alike : PricesAlike master other) {duals otherDuals : Values}
    (sameDuals : ∀ entry ∈ master.couplingConstraints,
      otherDuals.get? entry.1 = duals.get? entry.1) (x : Ident) :
    other.dualContribution otherDuals x = master.dualContribution duals x := by
  rw [dualContribution_eq, dualContribution_eq, ← alike.rows]
  refine Incidence.columnProduct_congr (fun r mem => ?_) fun r mem => ?_
  · obtain ⟨entry, stored, rfl⟩ := List.mem_map.1 mem
    exact (alike.coefficients entry stored x).symm
  · obtain ⟨entry, stored, rfl⟩ := List.mem_map.1 mem
    exact sameDuals entry stored

/-- Formulations that agree in what pricing reads have the same reduced costs. -/
theorem PricesAlike.pricedVariables (alike : PricesAlike master other) {duals otherDuals : Values}
    (sameDuals : ∀ entry ∈ master.couplingConstraints,
      otherDuals.get? entry.1 = duals.get? entry.1) (category : Category) :
    other.pricedVariables otherDuals category = master.pricedVariables duals category := by
  rw [pricedVariables_eq, pricedVariables_eq, alike.columns]
  refine List.map_congr_left fun part _ => ?_
  rw [alike.dualContribution sameDuals]

/-- A change of current values is not seen, unless it changes the activity. -/
theorem pricesAlike_modifyVariable {ref : Ref} {change : VarData → VarData}
    (keepsActivity : ∀ d, (change d).active = d.active)
    (done : master.modifyVariable ref (·.mapCurrent change) = .ok other) :
    PricesAlike master other := by
  obtain ⟨_, _, rfl⟩ := Fault.exists_of_map_eq_ok done
  refine ⟨(Store.map_modify master.vars ref fun key v => ?_).symm, rfl, fun _ _ _ => rfl⟩
  have active : (v.mapCurrent change).isActive = v.isActive := keepsActivity v.current
  rw [pricedPart, active]
  rfl

/-- A pricing snapshot is not refused. Both groups have the coupling constraints as rows. -/
theorem Sound.pricingSnapshot (sound : Sound master) (capacity : Option Int) :
    PricingSnapshot.ofMaster master capacity =
      .ok ⟨.ofMaster master Category.masterRepDwSpVar master.couplingRefs capacity,
        .ofMaster master Category.originMasterVar master.couplingRefs capacity⟩ := by
  rw [PricingSnapshot.ofMaster, sound.kinded.keptConstraints]
  rfl

theorem Sound.reducedCosts (sound : Sound master) (capacity : Option Int) (duals : Values) :
    ∃ snapshot, PricingSnapshot.ofMaster master capacity = .ok snapshot ∧
      (snapshot.reducedCosts duals).1.entries =
        master.pricedVariables duals Category.masterRepDwSpVar ∧
      (snapshot.reducedCosts duals).2.entries =
        master.pricedVariables duals Category.originMasterVar := by
  refine ⟨_, sound.pricingSnapshot capacity, ?_, ?_⟩
  · exact sound.entries_reducedCosts Category.masterRepDwSpVar capacity duals
  · exact sound.entries_reducedCosts Category.originMasterVar capacity duals

/-- The reduced costs of a reachable master are those of its active variables, and nothing but
what pricing reads decides them. -/
theorem reducedCosts_of_reachable (reached : Reachable master) (capacity : Option Int)
    (duals : Values) :
    ∃ snapshot, PricingSnapshot.ofMaster master capacity = .ok snapshot ∧
      (snapshot.reducedCosts duals).1.entries =
        master.pricedVariables duals Category.masterRepDwSpVar ∧
      (snapshot.reducedCosts duals).2.entries =
        master.pricedVariables duals Category.originMasterVar ∧
      (∀ a ∈ (snapshot.reducedCosts duals).1.keys, ∀ b ∈ (snapshot.reducedCosts duals).2.keys,
        (a == b) = false) ∧
      ∀ other otherCapacity otherDuals, Reachable other → PricesAlike master other →
        (∀ entry ∈ master.couplingConstraints,
          otherDuals.get? entry.1 = duals.get? entry.1) →
        ∃ otherSnapshot, PricingSnapshot.ofMaster other otherCapacity = .ok otherSnapshot ∧
          otherSnapshot.reducedCosts otherDuals = snapshot.reducedCosts duals := by
  obtain ⟨snapshot, built, subproblem, pure⟩ := reached.sound.reducedCosts capacity duals
  refine ⟨snapshot, built, subproblem, pure, ?_, ?_⟩
  · intro a inFirst b inSecond
    rw [OrderedMap.keys, subproblem, pricedVariables, List.map_map] at inFirst
    rw [OrderedMap.keys, pure, pricedVariables, List.map_map] at inSecond
    obtain ⟨x, xMem, rfl⟩ := List.mem_map.1 inFirst
    obtain ⟨y, yMem, rfl⟩ := List.mem_map.1 inSecond
    exact activeVariables_disjoint (by intro duty; cases duty <;> rfl) xMem yMem
  · intro other otherCapacity otherDuals otherReached alike sameDuals
    obtain ⟨otherSnapshot, otherBuilt, otherSubproblem, otherPure⟩ :=
      otherReached.sound.reducedCosts otherCapacity otherDuals
    refine ⟨otherSnapshot, otherBuilt, Prod.ext ?_ ?_⟩
    · apply OrderedMap.ext_entries
      rw [otherSubproblem, subproblem, alike.pricedVariables sameDuals]
    · apply OrderedMap.ext_entries
      rw [otherPure, pure, alike.pricedVariables sameDuals]

/-- A master with one representative, one pure variable, one mixed and one convexity constraint. -/
def smallMaster : Formulation :=
  run (.empty 1 .dwMaster none)
    [.createVariable 1 ⟨"", .masterRepPricingVar, { VarData.plain with cost := 3 }, .static⟩ none,
      .createVariable 2 ⟨"", .masterPureVar, { VarData.plain with cost := 5 }, .static⟩ none,
      .createConstraint 1 ⟨"", .masterMixedConstr, { ConstrData.plain with rhs := 4 }, .static⟩
        (some (.ofList [(Ident.ofVar 1, 2), (Ident.ofVar 2, 1)])),
      .createConstraint 2 ⟨"", .masterConvexityConstr, { ConstrData.plain with rhs := 1 }, .static⟩
        (some (.ofList [(Ident.ofVar 1, 1)])),
      .setCost (Ident.ofVar 1) 7]

theorem smallMaster_reachable : Reachable smallMaster :=
  ReachableBy.run (.empty 1 .dwMaster none) (by simp [Operation.WellKinded, Operation.source?])

/-- The same master after a change of a current cost. -/
def repricedMaster : Formulation := run smallMaster [.setCost (Ident.ofVar 1) 100]

theorem repricedMaster_reachable : Reachable repricedMaster :=
  ReachableBy.run smallMaster_reachable (by simp [Operation.WellKinded, Operation.source?])

theorem repricedMaster_alike : PricesAlike smallMaster repricedMaster := by
  let dearer (d : VarData) : VarData := { d with cost := 100 }
  have done : smallMaster.modifyVariable (Ident.ofVar 1) (·.mapCurrent dearer) =
      .ok repricedMaster := rfl
  have keepsActivity (d : VarData) : (dearer d).active = d.active := rfl
  exact pricesAlike_modifyVariable keepsActivity done

/-- The dual of the convexity constraint and an unknown dual do not count. -/
theorem reducedCosts_smallMaster :
    let duals : Values := .ofList [(Ident.ofConstr 1, 1), (Ident.ofConstr 2, 10)]
    let otherDuals : Values := .ofList [(Ident.ofConstr 3, 5), (Ident.ofConstr 1, 1)]
    ∃ snapshot, PricingSnapshot.ofMaster smallMaster none = .ok snapshot ∧
      ((snapshot.reducedCosts duals).1.entries.map fun entry =>
        (entry.1.uid, entry.2 == 1)) = [(1, true)] ∧
      ((snapshot.reducedCosts duals).2.entries.map fun entry =>
        (entry.1.uid, entry.2 == 4)) = [(2, true)] ∧
      ∃ otherSnapshot, PricingSnapshot.ofMaster repricedMaster (some 8) = .ok otherSnapshot ∧
        otherSnapshot.reducedCosts otherDuals = snapshot.reducedCosts duals := by
  intro duals otherDuals
  obtain ⟨snapshot, built, subproblem, pure, _, others⟩ :=
    reducedCosts_of_reachable smallMaster_reachable none duals
  refine ⟨snapshot, built, ?_, ?_, ?_⟩
  · rw [subproblem]
    decide
  · rw [pure]
    decide
  · exact others repricedMaster (some 8) otherDuals repricedMaster_reachable repricedMaster_alike
      (by decide +kernel)

end Decomposition.Formulation
