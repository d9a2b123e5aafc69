import Decomposition.Proofs.Solver.Refusals

namespace Decomposition

/-- A result with a dual solution has been read off a report with primal and dual values. -/
theorem Formulation.exists_of_resultOf_eq_ok {f : Formulation} {report : Report}
    {result : OptimizationResult} {d : DualSolution} (read : f.resultOf report = .ok result)
    (dual : result.dual = some d) :
    1 ≤ report.resultCount ∧ ∃ values duals,
      report.primal = .ok values ∧ report.duals = .ok (some duals) ∧
        result =
          { status := report.status
            objective := report.objective
            primals := [.make (some f.uid) values report.objective]
            dual := some ⟨some f.uid, duals, report.dualBound.getD report.objective⟩ } := by
  rw [resultOf] at read
  split at read
  · cases read
    cases dual
  · rename_i hasResult
    obtain ⟨values, primal, later⟩ := Fault.exists_of_bind_eq_ok read
    obtain ⟨duals, duality, same⟩ := Fault.exists_of_bind_eq_ok later
    cases duals with
    | none =>
        cases same
        cases dual
    | some duals =>
        exact ⟨not_lt.1 hasResult, values, duals, primal, duality, (Except.ok.inj same).symm⟩

namespace Highs
open Solver

/-- The bound is the solver's own dual bound, or the objective value of an optimal solution. -/
def ProvedBound (l : Loaded) (a : Answer) (result : OptimizationResult) (d : DualSolution) : Prop :=
  dualBound l a = some d.bound ∨
    result.status = .optimal ∧ ∃ s ∈ result.primals, d.bound = s.objective

/-- What it takes for a dual solution to be returned. -/
structure ReturnsDual (f : Formulation) (b : Backend) (a : Answer) : Prop where
  minimize : f.minimize = true
  options : ∃ switches, b.options.switches = .ok switches
  /-- The solver has a solution. -/
  solved : 1 ≤ resultCount a
  continuous : ∀ entry ∈ sentVariables f, entry.2.current.kind = .continuous
  valid : a.dualsValid = true
  /-- There is a value for every variable and a dual for every constraint that was sent. -/
  values : (sentVariables f).length ≤ a.columnValues.length
  duals : (sentConstraints f).length ≤ a.rowDuals.length

section Integrality
variable (intake : Intake) (f : Formulation)

theorem mip_foldl_addColumn (entries : List (Ident × Variable)) (l : Loaded) :
    (entries.foldl (Loaded.addColumn intake) l).mip =
      (l.mip || entries.any fun entry => isInteger entry.2) := by
  induction entries generalizing l with
  | nil => simp
  | cons entry rest ih => simp [ih, Loaded.addColumn, Bool.or_assoc]

theorem mip_foldl_addRow (entries : List (Ref × Constraint)) (l : Loaded) :
    (entries.foldl (Loaded.addRow intake f) l).mip = l.mip := by
  induction entries generalizing l with
  | nil => rfl
  | cons entry rest ih => exact ih _

/-- An integer variable makes an integer program, whether its column is refused or not. -/
theorem mip_load_eq_false_iff :
    (load intake f).mip = false ↔
      ∀ entry ∈ sentVariables f, entry.2.current.kind = .continuous := by
  rw [load, mip_foldl_addRow, mip_foldl_addColumn]
  simp [Loaded.empty, isInteger]

end Integrality

/-- Two model statuses are read as optimal, and the empty program's is one of them. -/
theorem statusOf_eq_optimal_iff {status : String} :
    statusOf status = .optimal ↔ status = "kOptimal" ∨ status = "kModelEmpty" := by
  constructor
  · intro optimal
    rw [statusOf] at optimal
    cases found : statusTable.lookup status with
    | none =>
        rw [found] at optimal
        cases optimal
    | some read =>
        rw [found] at optimal
        obtain ⟨before, after, split, _⟩ := List.lookup_eq_some_iff.1 found
        have listed : (status, SolutionStatus.optimal) ∈ statusTable := by
          rw [split, ← show read = .optimal from optimal]
          simp
        simpa [statusTable, or_comm] using listed
  · rintro (rfl | rfl) <;> rfl

variable {f : Formulation} {b : Backend} {a : Answer} {update : Bool}

/-- Values are read if there are enough of them. -/
theorem exists_primalValues {l : Loaded} (enough : l.columnIds.length ≤ a.columnValues.length) :
    ∃ values, primalValues l a = .ok values := by
  rw [primalValues, byPosition, List.length_map, if_pos enough]
  exact ⟨_, rfl⟩

theorem continuous_of_dualValues {l : Loaded} {duals : Values}
    (read : dualValues l a = .ok (some duals)) : l.mip = false ∧ a.dualsValid = true := by
  rw [dualValues] at read
  split at read
  · cases read
  · rename_i asked
    simpa using asked

theorem exists_dualValues {l : Loaded} (mip : l.mip = false) (valid : a.dualsValid = true)
    (enough : l.rowIds.length ≤ a.rowDuals.length) :
    ∃ duals, dualValues l a = .ok (some duals) := by
  rw [dualValues, mip, valid, byPosition, if_pos enough]
  exact ⟨_, rfl⟩

/-- What is returned together with a dual solution. Only a program without integer variables has
duals, and only one with integer variables a dual bound of its own, so the bound is the objective
value. -/
structure ReturnedWith (a : Answer) (result : OptimizationResult) (d : DualSolution) : Prop where
  status : result.status = statusOf a.modelStatus
  bound : d.bound = if isEmptyModel a then 0 else a.objective
  primal : ∃ s, result.primals = [s] ∧ s.objective = d.bound

theorem returned_of_optimize {result : OptimizationResult} {d : DualSolution}
    (done : (f.optimize (some fun g => (b.run g a).result) update).result = .ok result)
    (dual : result.dual = some d) : ReturnsDual f b a ∧ ReturnedWith a result d := by
  rw [Formulation.optimize_result] at done
  obtain ⟨told, solved, read⟩ := Fault.exists_of_bind_eq_ok done
  rw [Formulation.solvedBy] at solved
  split at solved
  · rename_i minimize
    obtain ⟨switches, options, rfl⟩ :=
      Fault.exists_of_map_eq_ok ((run_result f b a).symm.trans solved)
    obtain ⟨hasResult, values, duals, primal, duality, same⟩ :=
      Formulation.exists_of_resultOf_eq_ok read dual
    obtain ⟨mip, valid⟩ := continuous_of_dualValues duality
    have enough := length_le_of_primalValues primal
    have enoughDuals := length_le_of_dualValues duality
    rw [columnIds_load, List.length_map] at enough
    rw [rowIds_load, List.length_map] at enoughDuals
    have noBound : (report (load b.intake f) a).dualBound = none := by
      simp [report, dualBound, mip]
    rw [noBound] at same
    rw [same] at dual ⊢
    cases dual
    constructor
    · exact {
        minimize := minimize
        options := ⟨switches, options⟩
        solved := hasResult
        continuous := (mip_load_eq_false_iff _ f).1 mip
        valid := valid
        values := enough
        duals := enoughDuals }
    · exact ⟨rfl, rfl, _, rfl, rfl⟩
  · cases solved

/-- Nothing else keeps a dual solution from being returned. -/
theorem ReturnsDual.exists_dual (returns : ReturnsDual f b a) (update : Bool) :
    ∃ result d,
      (f.optimize (some fun g => (b.run g a).result) update).result = .ok result ∧
        result.dual = some d := by
  obtain ⟨switches, options⟩ := returns.options
  have mip := (mip_load_eq_false_iff b.intake f).2 returns.continuous
  obtain ⟨values, primal⟩ := exists_primalValues (l := load b.intake f) (a := a) (by
    rw [columnIds_load, List.length_map]
    exact returns.values)
  obtain ⟨duals, duality⟩ := exists_dualValues mip returns.valid (by
    rw [rowIds_load, List.length_map]
    exact returns.duals)
  have hasResult : ¬ (report (load b.intake f) a).resultCount < 1 := not_lt.2 returns.solved
  have read : f.resultOf (report (load b.intake f) a) = _ :=
    Formulation.resultOf_eq primal duality
  rw [if_neg hasResult] at read
  have solved : f.solvedBy (some fun g => (b.run g a).result) =
      .ok (report (load b.intake f) a) := by
    change (if f.minimize then (b.run f a).result else _) = _
    rw [if_pos returns.minimize, run_result, options]
    rfl
  rw [Formulation.optimize_result, solved]
  exact ⟨_, _, read, rfl⟩

/-- What is known of the bound of a dual solution, whatever HiGHS answers. The bound is never one
that the solver gave. It is the objective value, which is proved exactly if the status is
optimal. -/
theorem dualBound_proved_iff (f : Formulation) (b : Backend) (a : Answer) (update : Bool) :
    let loaded := load b.intake f
    let done := (f.optimize (some fun g => (b.run g a).result) update).result
    (∀ result d, done = .ok result → result.dual = some d →
      dualBound loaded a = none ∧ (∃ s, result.primals = [s] ∧ s.objective = d.bound) ∧
        (ProvedBound loaded a result d ↔ result.status = .optimal)) ∧
    ((∃ result d, done = .ok result ∧ result.dual = some d ∧ ¬ ProvedBound loaded a result d) ↔
      ReturnsDual f b a ∧ a.modelStatus ≠ "kOptimal" ∧ a.modelStatus ≠ "kModelEmpty") := by
  intro loaded done
  have known : ∀ result d, done = .ok result → result.dual = some d →
      dualBound loaded a = none ∧ (∃ s, result.primals = [s] ∧ s.objective = d.bound) ∧
        (ProvedBound loaded a result d ↔ result.status = .optimal) := by
    intro result d ended dual
    obtain ⟨returns, returned⟩ := returned_of_optimize ended dual
    obtain ⟨s, only, objective⟩ := returned.primal
    have noBound : dualBound loaded a = none := by
      rw [dualBound, (mip_load_eq_false_iff b.intake f).2 returns.continuous]
      rfl
    have proved : ProvedBound loaded a result d ↔ result.status = .optimal := by
      simp [ProvedBound, noBound, only, objective]
    exact ⟨noBound, ⟨s, only, objective⟩, proved⟩
  -- Whether the bound is proved hangs on the model status alone.
  have stopped (result : OptimizationResult) (d : DualSolution) (ended : done = .ok result)
      (dual : result.dual = some d) :
      ¬ ProvedBound loaded a result d ↔
        a.modelStatus ≠ "kOptimal" ∧ a.modelStatus ≠ "kModelEmpty" := by
    obtain ⟨_, _, proved⟩ := known result d ended dual
    rw [proved, (returned_of_optimize ended dual).2.status, statusOf_eq_optimal_iff, not_or]
  constructor
  · exact known
  · constructor
    · rintro ⟨result, d, ended, dual, unproved⟩
      exact ⟨(returned_of_optimize ended dual).1, (stopped result d ended dual).1 unproved⟩
    · rintro ⟨returns, early⟩
      obtain ⟨result, d, ended, dual⟩ := returns.exists_dual update
      exact ⟨result, d, ended, dual, (stopped result d ended dual).2 early⟩

/-- One variable with cost 1, which has to be at least 3. So 3 is the optimal value. -/
def oneVariable : Formulation :=
  Formulation.run (.empty 1 .compact none)
    [.createVariable 1 ⟨"x", .compactVar, { VarData.plain with cost := 1 }, .static⟩ none,
      .createConstraint 1 ⟨"c", .compactConstr, { ConstrData.plain with rhs := 3 }, .static⟩
        (some (.ofList [(Ident.ofVar 1, 1)]))]

/-- The solver is stopped at the feasible value 5, and has duals. -/
def stoppedAtFive : Answer := ⟨"kTimeLimit", feasible, 5, 0, [5], [1], true⟩

/-- The value of a solution that is not optimal is returned as a dual bound. -/
theorem stoppedAtFive_dualBound :
    let b : Backend := ⟨⟨some 1, .int 0, .int 1⟩, none, .limits⟩
    let loaded := load b.intake oneVariable
    oneVariable.Reachable ∧ ∃ result d,
      (oneVariable.optimize (some fun g => (b.run g stoppedAtFive).result) true).result =
        .ok result ∧
      result.status = .timeLimit ∧ result.dual = some d ∧ d.bound = 5 ∧
      dualBound loaded stoppedAtFive = none ∧ ¬ ProvedBound loaded stoppedAtFive result d := by
  intro b loaded
  have reached : oneVariable.Reachable :=
    Formulation.ReachableBy.run (.empty 1 .compact none) (by
      simp [Formulation.Operation.WellKinded, Formulation.Operation.source?])
  have returns : ReturnsDual oneVariable b stoppedAtFive :=
    { minimize := rfl
      options := ⟨_, rfl⟩
      solved := by decide
      continuous := by decide +kernel
      valid := rfl
      values := by decide +kernel
      duals := by decide +kernel }
  obtain ⟨result, d, ended, dual⟩ := returns.exists_dual true
  obtain ⟨_, returned⟩ := returned_of_optimize ended dual
  have status : result.status = .timeLimit := returned.status
  have noBound : dualBound loaded stoppedAtFive = none := by decide +kernel
  have unproved : ¬ ProvedBound loaded stoppedAtFive result d := by
    simp [ProvedBound, noBound, status]
  exact ⟨reached, result, d, ended, status, dual, returned.bound, noBound, unproved⟩

end Highs

end Decomposition
