import Decomposition.Proofs.Snapshot.Validity

namespace Decomposition

/-- The value of a variable in the solution, times its multiplicity if any are given. A variable
without a multiplicity counts once. -/
def SubgradientSnapshot.scaledValue? (solution : Values) (multiplicities : Option Values)
    (x : Ref) : Option Float :=
  (solution.get? x).map fun v => multiplicities.elim v fun m => m.getD x 1 * v

theorem SubgradientSnapshot.get?_scale (solution : Values) (multiplicities : Option Values)
    (x : Ref) :
    (scale solution multiplicities).get? x = scaledValue? solution multiplicities x := by
  cases multiplicities with
  | none => exact Option.map_id'.symm
  | some m =>
      have alike (a b : Ref) (v : Float) (same : (a == b) = true) :
          m.getD a 1 * v = m.getD b 1 * v := by
        rw [OrderedMap.getD_eq, OrderedMap.getD_eq, m.get?_congr same]
      exact solution.get?_map_key alike x

theorem SubgradientSnapshot.scaledValue?_congr (solution : Values)
    (multiplicities : Option Values) {a b : Ref} (same : (a == b) = true) :
    scaledValue? solution multiplicities a = scaledValue? solution multiplicities b := by
  rw [← get?_scale, ← get?_scale, (scale solution multiplicities).get?_congr same]

namespace Formulation
open SubgradientSnapshot
variable {master : Formulation} {solution : Values} {multiplicities : Option Values}

/-- The products of a row of the master with the scaled solution, added in the order of the row.
Only representatives of compact variables count, and those without a nonzero value are passed
over. -/
def activity (master : Formulation) (solution : Values) (multiplicities : Option Values)
    (r : Ref) : Float :=
  (master.coefficients.cells.row r).entries.foldl
    (fun total cell =>
      if master.isRepresentative cell.1 then
        match scaledValue? solution multiplicities cell.1 with
        | some w => if w == 0 then total else total + cell.2 * w
        | none => total
      else total)
    0

theorem dot_restrictRow (master : Formulation) (solution : Values)
    (multiplicities : Option Values) (r : Ref) :
    Incidence.dot (master.coefficients.cells.restrictRow master.isRepresentative r)
      (scale solution multiplicities) = master.activity solution multiplicities r := by
  rw [Incidence.dot, Incidence.restrictRow, OrderedMap.entries_filter, List.foldl_filter, activity]
  congr 1
  funext total cell
  rw [get?_scale]
  cases scaledValue? solution multiplicities cell.1 <;> rfl

/-- A row without a representative has no activity. -/
theorem activity_of_unrepresented {r : Ref}
    (none : ∀ cell ∈ (master.coefficients.cells.row r).entries,
      master.isRepresentative cell.1 = false)
    (solution : Values) (multiplicities : Option Values) :
    master.activity solution multiplicities r = 0 := by
  refine List.foldlRecOn (motive := (· = 0)) _ _ rfl fun total zero cell mem => ?_
  rw [none cell mem, if_neg Bool.false_ne_true]
  exact zero

/-- Only what the solution says of the representatives counts. -/
theorem activity_congr {otherSolution : Values} {otherMultiplicities : Option Values}
    (sameValues : ∀ x, master.isRepresentative x = true →
      scaledValue? otherSolution otherMultiplicities x = scaledValue? solution multiplicities x)
    (r : Ref) :
    master.activity otherSolution otherMultiplicities r =
      master.activity solution multiplicities r := by
  refine List.foldl_ext _ _ _ fun total cell _ => ?_
  by_cases representative : master.isRepresentative cell.1 = true
  · rw [if_pos representative, if_pos representative, sameValues cell.1 representative]
  · rw [if_neg representative, if_neg representative]

/-- The snapshot's row of a coupling constraint is that of the master, without the other columns. -/
theorem Sound.row_snapshot (sound : Sound master) (capacity : Option Int) {r : Ref}
    (coupling : r ∈ master.couplingRefs) :
    (Snapshot.submatrix master master.couplingRefs (representatives master)
      capacity).cells.row r = master.coefficients.cells.restrictRow master.isRepresentative r := by
  rw [← contains_representatives]
  exact Incidence.row_extract sound.cells.nonzero master.couplingRefs_distinct coupling
    (List.elem_eq_true_of_mem coupling)

theorem Sound.entries_subgradient (sound : Sound master) (capacity : Option Int) :
    ∃ snapshot, SubgradientSnapshot.ofMaster master capacity = .ok snapshot ∧
      ∀ solution multiplicities, (snapshot.subgradient solution multiplicities).entries =
        master.couplingConstraints.map fun entry =>
          (entry.1, entry.2.perennial.rhs - master.activity solution multiplicities entry.1) := by
  obtain ⟨rhs, built, recorded⟩ := SubgradientSnapshot.ofMaster_eq sound capacity
  refine ⟨_, built, fun solution multiplicities => ?_⟩
  rw [SubgradientSnapshot.subgradient, OrderedMap.entries_map, recorded, List.map_map]
  refine List.map_congr_left fun entry coupling => ?_
  dsimp only [Function.comp_apply]
  rw [Incidence.getD_mul, sound.row_snapshot capacity (mem_couplingRefs coupling), dot_restrictRow]

theorem generation_setRhs (f : Formulation) (changes : List (Ref × Float)) :
    Generation f (changes.map fun change => .setRhs change.1 change.2) := by
  induction changes generalizing f with
  | nil => exact trivial
  | cons change rest ih => exact ⟨trivial, ih _⟩

/-- The subgradient of a reachable master has one component for every coupling constraint. What the
solution says of other variables, the order in which it says it, and the right-hand sides in force
do not matter. -/
theorem subgradient_of_reachable (reached : Reachable master) (capacity : Option Int)
    (solution : Values) (multiplicities : Option Values) :
    ∃ snapshot, SubgradientSnapshot.ofMaster master capacity = .ok snapshot ∧
      (snapshot.subgradient solution multiplicities).entries =
        master.couplingConstraints.map (fun entry =>
          (entry.1, entry.2.perennial.rhs - master.activity solution multiplicities entry.1)) ∧
      (∀ entry ∈ master.couplingConstraints,
        (∀ cell ∈ (master.coefficients.cells.row entry.1).entries,
          master.isRepresentative cell.1 = false) →
        (snapshot.subgradient solution multiplicities).get? entry.1 =
          some (entry.2.perennial.rhs - 0)) ∧
      (∀ otherSolution otherMultiplicities,
        (∀ x, master.isRepresentative x = true →
          scaledValue? otherSolution otherMultiplicities x =
            scaledValue? solution multiplicities x) →
        snapshot.subgradient otherSolution otherMultiplicities =
          snapshot.subgradient solution multiplicities) ∧
      ∀ changes : List (Ref × Float),
        SubgradientSnapshot.ofMaster
          (master.run (changes.map fun change => .setRhs change.1 change.2)) capacity =
          .ok snapshot := by
  obtain ⟨snapshot, built, entries⟩ := reached.sound.entries_subgradient capacity
  refine ⟨snapshot, built, entries solution multiplicities, ?_, ?_, ?_⟩
  · intro entry coupling none
    have listed : (entry.1, entry.2.perennial.rhs -
        master.activity solution multiplicities entry.1) ∈
        (snapshot.subgradient solution multiplicities).entries := by
      rw [entries]
      exact List.mem_map.2 ⟨entry, coupling, rfl⟩
    rw [OrderedMap.get?_self_of_mem listed, activity_of_unrepresented none]
  · intro otherSolution otherMultiplicities sameValues
    apply OrderedMap.ext_entries
    rw [entries, entries]
    refine List.map_congr_left fun entry _ => ?_
    rw [activity_congr sameValues]
  · intro changes
    obtain ⟨later, same⟩ := (master.generation_setRhs changes).run reached
    exact ((reached.sound.snapshots_of_sight same later.sound capacity).2).trans built

/-- The small master with its pure variable switched off, a column, and a constraint that has a
coefficient of the column alone. -/
def columnMaster : Formulation :=
  run smallMaster
    [.setActive (Ident.ofVar 2) false,
      .createVariable 3 ⟨"", .masterCol, .plain, .dynamic⟩ (some (.ofList [(Ident.ofConstr 1, 7)])),
      .createConstraint 3 ⟨"", .masterPureConstr, { ConstrData.plain with rhs := 6 }, .static⟩
        (some (.ofList [(Ident.ofVar 3, 1)])),
      .setRhs (Ident.ofConstr 1) 100]

/-- The inactive variable counts and the column does not. -/
theorem subgradient_columnMaster :
    let solution : Values :=
      .ofList [(Ident.ofVar 1, 2), (Ident.ofVar 2, 3), (Ident.ofVar 3, 5), (Ident.ofVar 9, 1)]
    let reordered : Values := .ofList [(Ident.ofVar 2, 3), (Ident.ofVar 1, 2), (Ident.ofVar 3, 8)]
    let multiplicities : Values := .ofList [(Ident.ofVar 1, 3)]
    ∃ snapshot, SubgradientSnapshot.ofMaster columnMaster none = .ok snapshot ∧
      (snapshot.subgradient solution (some multiplicities)).entries.map (·.2) = [-11, 6] ∧
      snapshot.subgradient reordered (some multiplicities) =
        snapshot.subgradient solution (some multiplicities) ∧
      SubgradientSnapshot.ofMaster (columnMaster.run [.setRhs (Ident.ofConstr 3) 1]) none =
        .ok snapshot := by
  intro solution reordered multiplicities
  have reached : Reachable columnMaster :=
    smallMaster_reachable.run (by simp [Operation.WellKinded, Operation.source?])
  obtain ⟨snapshot, built, entries, _, others, current⟩ :=
    subgradient_of_reachable reached none solution (some multiplicities)
  refine ⟨snapshot, built, ?_, ?_, current [(Ident.ofConstr 3, 1)]⟩
  · rw [entries]
    decide +kernel
  · refine others reordered (some multiplicities) fun x representative => ?_
    have agree : ∀ ref ∈ (representatives columnMaster).map Ref.ident,
        scaledValue? reordered (some multiplicities) ref =
          scaledValue? solution (some multiplicities) ref := by decide +kernel
    rw [← contains_representatives] at representative
    obtain ⟨ref, listed, same⟩ := List.contains_iff_exists_mem_beq.1 representative
    rw [scaledValue?_congr _ _ same, scaledValue?_congr _ _ same]
    exact agree ref listed

end Formulation

end Decomposition
