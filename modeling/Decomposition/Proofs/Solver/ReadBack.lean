import Decomposition.Formulation.Optimize
import Decomposition.Proofs.Number.Unpacked
import Decomposition.Proofs.Snapshot.Lagrangian
import Decomposition.Proofs.Snapshot.ReducedCosts
import Decomposition.Proofs.Solver.Highs

namespace Decomposition

namespace Solver

/-- Numbers come back for references whose positions they stand at. -/
def aligned (refs : List Ref) (numbers : List Float) : Values := .ofList (refs.zip numbers)

theorem byPosition_eq {refs : List Ref} {numbers : List Float}
    (complete : numbers.length = refs.length) :
    byPosition refs numbers = .ok (refs.zip numbers) := by
  rw [byPosition, if_pos (Nat.le_of_eq complete.symm)]

section Aligned
variable {refs : List Ref} {numbers : List Float}
  (distinct : refs.Pairwise fun a b => (a == b) = false) (complete : numbers.length = refs.length)
include distinct complete

theorem entries_aligned : (aligned refs numbers).entries = refs.zip numbers := by
  have keys : ((refs.zip numbers).map (·.1)).Pairwise fun a b => (a == b) = false := by
    rw [List.map_fst_zip (Nat.le_of_eq complete.symm)]
    exact distinct
  exact OrderedMap.entries_ofList (List.pairwise_map.1 keys)

theorem get?_aligned {position : Nat} {ref : Ref} {v : Float}
    (listed : refs[position]? = some ref) (answered : numbers[position]? = some v) :
    (aligned refs numbers).get? ref = some v := by
  have mem : (ref, v) ∈ (aligned refs numbers).entries := by
    rw [entries_aligned distinct complete]
    exact List.mem_of_getElem? (List.getElem?_zip_eq_some.2 ⟨listed, answered⟩)
  exact OrderedMap.get?_self_of_mem mem

/-- Only the given references have a number. -/
theorem exists_of_get?_aligned {ref : Ref} {v : Float}
    (found : (aligned refs numbers).get? ref = some v) :
    ∃ listed ∈ refs, (listed == ref) = true := by
  obtain ⟨entry, mem, same, _⟩ := OrderedMap.exists_mem_of_get? found
  rw [entries_aligned distinct complete] at mem
  exact ⟨entry.1, (List.of_mem_zip mem).1, same⟩

end Aligned

theorem isNonzero_iff {v : Float} :
    isNonzero v = true ↔ v.abs > Binary64.ofDecimal false 1 (-10) := decide_eq_true_iff

/-- What exceeds the threshold is not equal to zero. -/
theorem ne_zero_of_isNonzero {v : Float} (large : isNonzero v = true) : (v != 0) = true := by
  by_contra zero
  have equal : (v == 0) = true := by simpa [bne] using zero
  rw [isNonzero, Binary64.abs_of_beq_zero equal] at large
  have small : decide ((0 : Float) > zeroThreshold) = false := by decide +kernel
  rw [small] at large
  cases large

theorem sentConstraints_distinct (f : Formulation) :
    ((sentConstraints f).map (·.1)).Pairwise fun a b => (a == b) = false :=
  List.pairwise_map.2 (f.constrs.members.distinct.filter _)

/-- The references of the sent variables. -/
def sentRefs (f : Formulation) : List Ref := ((sentVariables f).map (·.1)).map Ref.ident

theorem sentRefs_distinct (f : Formulation) :
    (sentRefs f).Pairwise fun a b => (a == b) = false := by
  refine List.pairwise_map.2 ((sentVariables_distinct f).imp fun apart => ?_)
  rw [Ref.ident_beq_ident]
  exact apart

/-- The snapshots of a formulation look at sent constraints alone. -/
theorem exists_sent_of_couplingRefs {f : Formulation} {ref : Ref} (mem : ref ∈ f.couplingRefs) :
    ∃ entry ∈ sentConstraints f, entry.1 = ref := by
  obtain ⟨entry, coupling, rfl⟩ := List.mem_map.1 mem
  obtain ⟨stored, isCoupling⟩ := List.mem_filter.1 coupling
  rw [Constraint.isCoupling, Bool.and_eq_true] at isCoupling
  exact ⟨entry, List.mem_filter.2 ⟨stored, isCoupling.1⟩, rfl⟩

end Solver

namespace Formulation

/-- The intrinsic cost of stored variables is never refused. -/
theorem exists_costFrom {f : Formulation} {entries : List (Ref × Float)} (total : Float)
    (stored : ∀ entry ∈ entries, ∃ x, f.vars.get entry.1 = .ok x) :
    ∃ cost, f.costFrom total entries = .ok cost := by
  induction entries generalizing total with
  | nil => exact ⟨total, rfl⟩
  | cons head rest ih =>
      obtain ⟨x, found⟩ := stored head List.mem_cons_self
      rw [costFrom, found]
      exact ih _ fun entry mem => stored entry (List.mem_cons_of_mem _ mem)

theorem get_of_mem_vars {f : Formulation} {entry : Ident × Variable}
    (stored : entry ∈ f.vars.entries) : f.vars.get (Ref.ident entry.1) = .ok entry.2 :=
  Store.get_of_mem stored rfl BEq.rfl

/-- Optimising changes no variable. -/
theorem vars_optimize (f : Formulation) (solver : Option (Formulation → Except Fault Report))
    (update : Bool) : (f.optimize solver update).state.vars = f.vars := by
  obtain ⟨_, _, noted⟩ := f.optimize_state solver update
  rw [noted]

theorem optimize_result (f : Formulation) (solver : Option (Formulation → Except Fault Report))
    (update : Bool) :
    (f.optimize solver update).result = (f.solvedBy solver).bind f.resultOf := by
  unfold optimize conclude
  cases f.solvedBy solver with
  | error fault => rfl
  | ok report =>
      dsimp only [Except.bind]
      cases f.resultOf report <;> rfl

/-- A report that can be read has one primal solution, if it has a result at all. -/
theorem resultOf_eq {f : Formulation} {report : Report} {values : Values} {duals : Option Values}
    (primal : report.primal = .ok values) (dual : report.duals = .ok duals) :
    f.resultOf report =
      .ok (if report.resultCount < 1 then .withoutResult report.status
        else
          { status := report.status
            objective := report.objective
            primals := [.make (some f.uid) values report.objective]
            dual := duals.map fun values =>
              ⟨some f.uid, values, report.dualBound.getD report.objective⟩ }) := by
  unfold resultOf
  rw [primal, dual]
  split <;> rfl

end Formulation

namespace Highs
open Solver
variable {intake : Intake} {f : Formulation} {a : Answer}

/-- One number for every column and one for every row of the loaded program. -/
structure Answer.Complete (a : Answer) (l : Loaded) : Prop where
  values : a.columnValues.length = l.program.columns.length
  duals : a.rowDuals.length = l.program.rows.length

/-- The values that are read back: those of the columns, as far as they are not near zero. -/
def solvedValues (f : Formulation) (a : Answer) : Values :=
  (aligned (sentRefs f) a.columnValues).filter fun _ v => isNonzero v

/-- The duals that are read back: those of the rows. -/
def solvedDuals (f : Formulation) (a : Answer) : Values :=
  aligned ((sentConstraints f).map (·.1)) a.rowDuals

/-- With one value for every variable that was sent, none is missed. -/
theorem primalValues_of_sent {l : Loaded} (refs : l.columnIds.map Ref.ident = sentRefs f)
    (lengths : a.columnValues.length = (sentRefs f).length) :
    primalValues l a = .ok (solvedValues f a) := by
  rw [primalValues, refs, byPosition_eq lengths]
  refine congrArg Except.ok (OrderedMap.ext_entries ?_)
  rw [solvedValues, OrderedMap.entries_filter, entries_aligned (sentRefs_distinct f) lengths]
  refine OrderedMap.entries_ofList (List.Pairwise.filter _ ?_)
  rw [← entries_aligned (sentRefs_distinct f) lengths]
  exact OrderedMap.distinct _

theorem dualValues_of_sent {l : Loaded} (refs : l.rowIds = (sentConstraints f).map (·.1))
    (lengths : a.rowDuals.length = ((sentConstraints f).map (·.1)).length) :
    dualValues l a =
      .ok (if l.mip || !a.dualsValid then none else some (solvedDuals f a)) := by
  rw [dualValues, refs, byPosition_eq lengths]
  split <;> rfl

/-- A variable has the value of its own column, unless that is near zero. -/
theorem get?_solvedValues (lengths : a.columnValues.length = (sentRefs f).length)
    {position : Nat} {entry : Ident × Variable}
    (listed : (sentVariables f)[position]? = some entry) :
    ∃ v, a.columnValues[position]? = some v ∧
      (solvedValues f a).get? entry.1 =
        if v.abs > Binary64.ofDecimal false 1 (-10) then some v else none := by
  obtain ⟨inRange, _⟩ := List.getElem?_eq_some_iff.1 listed
  have answered : position < a.columnValues.length := by
    rw [lengths, sentRefs]
    simpa using inRange
  have column : (sentRefs f)[position]? = some (Ref.ident entry.1) := by simp [sentRefs, listed]
  have value := List.getElem?_eq_getElem answered
  refine ⟨_, value, ?_⟩
  rw [solvedValues, OrderedMap.get?_filter_value,
    get?_aligned (sentRefs_distinct f) lengths column value, Option.filter_some]
  simp only [isNonzero_iff]

theorem get?_solvedDuals (lengths : a.rowDuals.length = ((sentConstraints f).map (·.1)).length)
    {position : Nat} {entry : Ref × Constraint}
    (listed : (sentConstraints f)[position]? = some entry) :
    ∃ v, a.rowDuals[position]? = some v ∧ (solvedDuals f a).get? entry.1 = some v := by
  obtain ⟨inRange, _⟩ := List.getElem?_eq_some_iff.1 listed
  have answered : position < a.rowDuals.length := by
    rw [lengths]
    simpa using inRange
  have row : ((sentConstraints f).map (·.1))[position]? = some entry.1 := by simp [listed]
  exact ⟨_, List.getElem?_eq_getElem answered,
    get?_aligned (sentConstraints_distinct f) lengths row (List.getElem?_eq_getElem answered)⟩

section Loaded
variable (takes : intake.TakesAll f) (complete : a.Complete (load intake f))
include takes complete

theorem length_columnValues : a.columnValues.length = (sentRefs f).length := by
  rw [complete.values, load_taken takes, sentRefs]
  simp

theorem length_rowDuals : a.rowDuals.length = ((sentConstraints f).map (·.1)).length := by
  rw [complete.duals, load_taken takes]
  simp

theorem primalValues_load :
    primalValues (load intake f) a = .ok (solvedValues f a) := by
  apply primalValues_of_sent _ (length_columnValues takes complete)
  rw [load_taken takes, sentRefs]

theorem dualValues_load :
    dualValues (load intake f) a =
      .ok (if (load intake f).mip || !a.dualsValid then none
        else some (solvedDuals f a)) := by
  apply dualValues_of_sent _ (length_rowDuals takes complete)
  rw [load_taken takes]

end Loaded

/-- The primal solution of an answer. -/
def solvedPrimal (f : Formulation) (a : Answer) : PrimalSolution :=
  .make (some f.uid) (solvedValues f a) (if isEmptyModel a then 0 else a.objective)

/-- The final filter for zeros drops nothing more. -/
theorem values_solvedPrimal (f : Formulation) (a : Answer) :
    (solvedPrimal f a).values = solvedValues f a := by
  refine OrderedMap.ext_entries (List.filter_eq_self.2 fun entry mem => ?_)
  exact ne_zero_of_isNonzero (List.mem_filter.1 mem).2

/-- The dual solution of an answer. A program with integer variables has none. -/
def solvedDual (intake : Intake) (f : Formulation) (a : Answer) : Option DualSolution :=
  let loaded := load intake f
  if loaded.mip || !a.dualsValid then none
  else some ⟨some f.uid, solvedDuals f a,
    (dualBound loaded a).getD (solvedPrimal f a).objective⟩

/-- The result that an answer is read as. -/
def solvedResult (intake : Intake) (f : Formulation) (a : Answer) : OptimizationResult :=
  if resultCount a < 1 then .withoutResult (statusOf a.modelStatus)
  else
    { status := statusOf a.modelStatus
      objective := (solvedPrimal f a).objective
      primals := [solvedPrimal f a]
      dual := solvedDual intake f a }

theorem hasSolution_solvedResult (intake : Intake) (f : Formulation) (a : Answer) :
    (solvedResult intake f a).hasSolution = true ↔ 1 ≤ resultCount a := by
  rw [solvedResult]
  split
  · rename_i noResult
    simpa [OptimizationResult.hasSolution, OptimizationResult.withoutResult] using noResult
  · rename_i hasResult
    simpa [OptimizationResult.hasSolution] using hasResult

/-- The values of a primal solution are those of the variables' own columns, and nothing else has a
value. -/
structure PrimalReads (intake : Intake) (f : Formulation) (a : Answer) (s : PrimalSolution) :
    Prop where
  own : ∀ (position : Nat) entry, (sentVariables f)[position]? = some entry →
    (load intake f).program.columns[position]? =
        some (intake.takenColumn entry.2) ∧
      ∃ v, a.columnValues[position]? = some v ∧
        s.values.get? entry.1 = if v.abs > Binary64.ofDecimal false 1 (-10) then some v else none
  other : ∀ ref, (∀ entry ∈ sentVariables f, (Ref.ident entry.1 == ref) = false) →
    s.values.get? ref = none

/-- The duals are those of the constraints' own rows, and every row of a snapshot has one. -/
structure DualReads (intake : Intake) (f : Formulation) (a : Answer) (s : DualSolution) :
    Prop where
  own : ∀ (position : Nat) entry, (sentConstraints f)[position]? = some entry →
    (load intake f).program.rows[position]? = some (intake.takenRow f entry) ∧
      ∃ v, a.rowDuals[position]? = some v ∧ s.values.get? entry.1 = some v
  other : ∀ ref, (∀ entry ∈ sentConstraints f, (entry.1 == ref) = false) →
    s.values.get? ref = none
  pricing : ∀ capacity, ∃ snapshot, PricingSnapshot.ofMaster f capacity = .ok snapshot ∧
    ∀ row, (snapshot.subproblem.matrix.cells.hasRow row = true ∨
        snapshot.pure.matrix.cells.hasRow row = true) →
      s.values.contains row = true
  subgradient : ∀ capacity, ∃ snapshot, SubgradientSnapshot.ofMaster f capacity = .ok snapshot ∧
    ∀ row, (snapshot.rhs.contains row = true ∨ snapshot.matrix.cells.hasRow row = true) →
      s.values.contains row = true

theorem run_result (f : Formulation) (b : Backend) (a : Answer) :
    (b.run f a).result = b.options.switches.map fun _ => report (load b.intake f) a := by
  unfold Backend.run
  cases b.options.switches <;> rfl

/-- An integer program has no dual solution, and every other has one if the solver says so. -/
theorem isSome_solvedDual (takes : intake.TakesAll f) :
    (solvedDual intake f a).isSome = true ↔
      (∀ entry ∈ sentVariables f, entry.2.current.kind = .continuous) ∧ a.dualsValid = true := by
  have continuous : (load intake f).mip = false ↔
      ∀ entry ∈ sentVariables f, entry.2.current.kind = .continuous := by
    rw [load_taken takes, List.any_eq_false]
    refine forall₂_congr fun entry _ => ?_
    rw [isInteger_iff, not_not]
  rw [← continuous, solvedDual]
  cases (load intake f).mip <;> cases a.dualsValid <;> simp

section Read
variable (takes : intake.TakesAll f) (complete : a.Complete (load intake f))
include takes complete

theorem resultOf_report :
    f.resultOf (report (load intake f) a) =
      .ok (solvedResult intake f a) := by
  rw [Formulation.resultOf_eq (primalValues_load takes complete)
    (dualValues_load takes complete)]
  change Except.ok (if resultCount a < 1 then _ else _) = _
  rw [solvedResult, solvedDual]
  cases (load intake f).mip || !a.dualsValid <;> rfl

theorem primalReads_solvedPrimal : PrimalReads intake f a (solvedPrimal f a) := by
  have lengths := length_columnValues takes complete
  constructor
  · intro position entry listed
    rw [values_solvedPrimal]
    exact ⟨by simp [load_taken takes, listed], get?_solvedValues lengths listed⟩
  · intro ref apart
    rw [values_solvedPrimal, solvedValues, OrderedMap.get?_filter_value]
    cases found : (aligned (sentRefs f) a.columnValues).get? ref with
    | none => rfl
    | some v =>
        obtain ⟨listed, mem, same⟩ :=
          exists_of_get?_aligned (sentRefs_distinct f) lengths found
        obtain ⟨id, idMem, rfl⟩ := List.mem_map.1 mem
        obtain ⟨entry, sent, rfl⟩ := List.mem_map.1 idMem
        rw [apart entry sent] at same
        cases same

/-- Only sent variables have a value, so each has a cost. -/
theorem exists_intrinsicCost {g : Formulation} (vars : g.vars = f.vars) :
    ∃ cost, g.intrinsicCost (solvedPrimal f a) = .ok cost := by
  have lengths := length_columnValues takes complete
  refine Formulation.exists_costFrom 0 fun entry mem => ?_
  rw [values_solvedPrimal] at mem
  obtain ⟨listed, _⟩ := List.mem_filter.1 mem
  rw [entries_aligned (sentRefs_distinct f) lengths] at listed
  obtain ⟨id, idMem, same⟩ := List.mem_map.1 (List.of_mem_zip listed).1
  obtain ⟨x, sent, rfl⟩ := List.mem_map.1 idMem
  rw [vars, ← same]
  exact ⟨x.2, Formulation.get_of_mem_vars (List.mem_filter.1 sent).1⟩

/-- Whatever the snapshots look at has a dual. -/
theorem contains_solvedDuals {ref row : Ref} (coupling : ref ∈ f.couplingRefs)
    (same : (ref == row) = true) : (solvedDuals f a).contains row = true := by
  obtain ⟨entry, sent, rfl⟩ := exists_sent_of_couplingRefs coupling
  obtain ⟨position, listed⟩ := List.getElem?_of_mem sent
  obtain ⟨v, _, found⟩ := get?_solvedDuals (length_rowDuals takes complete) listed
  rw [OrderedMap.contains_eq_isSome, ← OrderedMap.get?_congr _ same, found]
  rfl

theorem dualReads_solvedDuals (sound : f.Sound) {s : DualSolution}
    (values : s.values = solvedDuals f a) : DualReads intake f a s := by
  have lengths := length_rowDuals takes complete
  constructor
  · intro position entry listed
    rw [values]
    exact ⟨by simp [load_taken takes, listed], get?_solvedDuals lengths listed⟩
  · intro ref apart
    rw [values]
    cases found : (solvedDuals f a).get? ref with
    | none => rfl
    | some v =>
        obtain ⟨_, mem, same⟩ := exists_of_get?_aligned (sentConstraints_distinct f) lengths found
        obtain ⟨entry, sent, rfl⟩ := List.mem_map.1 mem
        rw [apart entry sent] at same
        cases same
  · intro capacity
    refine ⟨_, sound.pricingSnapshot capacity, fun row registered => ?_⟩
    rw [values]
    rcases registered with inSubproblem | inPure
    · obtain ⟨ref, coupling, same⟩ := Snapshot.hasRow_submatrix inSubproblem
      exact contains_solvedDuals takes complete coupling same
    · obtain ⟨ref, coupling, same⟩ := Snapshot.hasRow_submatrix inPure
      exact contains_solvedDuals takes complete coupling same
  · intro capacity
    obtain ⟨rhs, built, recorded⟩ := SubgradientSnapshot.ofMaster_eq sound capacity
    refine ⟨_, built, fun row registered => ?_⟩
    rw [values]
    rcases registered with inRhs | inMatrix
    · rw [OrderedMap.contains, recorded, List.any_map, List.any_eq_true] at inRhs
      obtain ⟨entry, coupling, same⟩ := inRhs
      exact contains_solvedDuals takes complete (Formulation.mem_couplingRefs coupling) same
    · obtain ⟨ref, coupling, same⟩ := Snapshot.hasRow_submatrix inMatrix
      exact contains_solvedDuals takes complete coupling same

/-- Apart from refused options and a wrong sense nothing keeps an answer from being read. -/
theorem optimize_result {b : Backend} (same : b.intake = intake) (update : Bool) :
    (f.optimize (some fun g => (b.run g a).result) update).result =
      if f.minimize then b.options.switches.map fun _ => solvedResult intake f a
      else .error .minimizeOnly := by
  rw [Formulation.optimize_result]
  dsimp only [Formulation.solvedBy]
  rw [run_result, same]
  cases f.minimize with
  | false => rfl
  | true =>
      cases b.options.switches with
      | error fault => rfl
      | ok switches => exact resultOf_report takes complete

end Read

/-- What comes back is read by position without a shift: each value belongs to its own column and
each dual to its own row, nothing that is read back is refused, and the duals cover the snapshots
of the same state. -/
theorem optimize_readsBack (reached : f.Reachable) (b : Backend) (takes : b.intake.TakesAll f)
    (complete : a.Complete (load b.intake f)) (update : Bool) :
    let done := f.optimize (some fun g => (b.run g a).result) update
    (∀ switches, b.options.switches = .ok switches → f.minimize = true →
      ∃ result, done.result = .ok result ∧
        (result.hasSolution = true ↔ 1 ≤ resultCount a)) ∧
    ∀ result, done.result = .ok result → ∀ s ∈ result.primals,
      PrimalReads b.intake f a s ∧
      (∃ cost, done.state.intrinsicCost s = .ok cost) ∧
      (result.dual.isSome = true ↔
        (∀ entry ∈ sentVariables f, entry.2.current.kind = .continuous) ∧
          a.dualsValid = true) ∧
      ∀ d, result.dual = some d → DualReads b.intake f a d := by
  intro done
  have outcome := optimize_result takes complete rfl update
  constructor
  · intro switches accepted minimize
    rw [accepted, if_pos minimize] at outcome
    exact ⟨solvedResult b.intake f a, outcome, hasSolution_solvedResult b.intake f a⟩
  · intro result ended s returned
    have same : result = solvedResult b.intake f a := by
      rw [show done.result = .ok result from ended] at outcome
      split at outcome
      · obtain ⟨_, _, same⟩ := Fault.exists_of_map_eq_ok outcome.symm
        exact same.symm
      · cases outcome
    rw [same, solvedResult] at returned ⊢
    split at returned
    · cases returned
    · rename_i hasResult
      rw [if_neg hasResult]
      obtain rfl := List.mem_singleton.1 returned
      refine ⟨primalReads_solvedPrimal takes complete,
        exists_intrinsicCost takes complete (f.vars_optimize _ update),
        isSome_solvedDual takes, fun d dual => ?_⟩
      refine dualReads_solvedDuals takes complete reached.sound ?_
      dsimp only at dual
      rw [solvedDual] at dual
      split at dual
      · cases dual
      · cases dual
        rfl

/-- An optimal answer to the small master: its second variable is zero. -/
def smallAnswer : Answer := ⟨"kOptimal", feasible, 28, 0, [4, 0], [7, 0], true⟩

theorem optimize_smallMaster :
    let b : Backend := ⟨⟨none, .int 0, .int 0⟩, none, .limits⟩
    b.intake.TakesAll Formulation.smallMaster ∧
      smallAnswer.Complete (load b.intake Formulation.smallMaster) ∧
      ∃ result s d,
        (Formulation.smallMaster.optimize (some fun g => (b.run g smallAnswer).result)
          true).result = .ok result ∧
        s ∈ result.primals ∧ result.dual = some d ∧
        PrimalReads b.intake Formulation.smallMaster smallAnswer s ∧
        DualReads b.intake Formulation.smallMaster smallAnswer d ∧
        s.values.get? (Ident.ofVar 1) = some 4 ∧ s.values.get? (Ident.ofVar 2) = none ∧
        d.values.get? (Ident.ofConstr 1) = some 7 := by
  intro b
  have takes : b.intake.TakesAll Formulation.smallMaster :=
    { column := by decide +kernel
      row := by decide +kernel }
  have complete : smallAnswer.Complete (load b.intake Formulation.smallMaster) :=
    { values := by decide +kernel
      duals := by decide +kernel }
  have continuous : ∀ entry ∈ sentVariables Formulation.smallMaster,
      entry.2.current.kind = .continuous := by decide +kernel
  obtain ⟨runs, reads⟩ :=
    optimize_readsBack Formulation.smallMaster_reachable b takes complete true
  obtain ⟨result, ended, solved⟩ := runs ⟨false, 0, Binary64.infinity⟩ rfl rfl
  have hasSolution : result.primals.isEmpty = false := by
    simpa [OptimizationResult.hasSolution] using solved.2 (by decide)
  obtain ⟨s, returned⟩ := List.exists_mem_of_ne_nil _ (List.isEmpty_eq_false_iff.1 hasSolution)
  obtain ⟨primal, _, dualReturned, duals⟩ := reads result ended s returned
  obtain ⟨d, found⟩ := Option.isSome_iff_exists.1 (dualReturned.2 ⟨continuous, rfl⟩)
  have dual := duals d found
  obtain ⟨_, first, four⟩ := (primal.own 0 _ rfl).2
  obtain ⟨_, second, absent⟩ := (primal.own 1 _ rfl).2
  obtain ⟨_, row, seven⟩ := (dual.own 0 _ rfl).2
  cases first
  cases second
  cases row
  rw [if_pos (by decide +kernel)] at four
  rw [if_neg (by decide +kernel)] at absent
  exact ⟨takes, complete, result, s, d, ended, returned, found, primal, dual, four, absent, seven⟩

end Highs

end Decomposition
