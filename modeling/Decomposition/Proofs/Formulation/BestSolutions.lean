import Decomposition.Proofs.Formulation.Frame

namespace Decomposition

/-- A primal solution, and a dual one if there are dual values. -/
structure Solutions where
  primal : PrimalSolution
  dual : Option DualSolution

/-- The solutions that a report has for a formulation. Of the values those other than zero are
kept, and of the duals all. -/
def Report.solutions? (r : Report) (form : Int) : Option Solutions :=
  match r.primal, r.duals with
  | .ok values, .ok duals =>
      if r.resultCount < 1 then none
      else
        some
          { primal := ⟨some form, values.filter fun _ v => !(v == 0), r.objective⟩
            dual := duals.map fun values =>
              ⟨some form, values, r.dualBound.getD r.objective⟩ }
  | _, _ => none

namespace Formulation

/-- The solutions that an operation brings: those of a solver that has run, if they are to be
kept. -/
def Operation.brings (f : Formulation) : Operation → Option Solutions
  | .optimize (some solve) true =>
      match solve f with
      | .ok report => report.solutions? f.uid
      | .error _ => none
  | _ => none

/-- The calls of a run, each with the formulation that it was made on, the most recent first. -/
def calls (f : Formulation) : List Operation → List (Formulation × Operation)
  | [] => []
  | op :: rest => (op.after f).calls rest ++ [(f, op)]

/-- The primal solution of the most recent call that brought one. -/
def latestPrimal (history : List (Formulation × Operation)) : Option PrimalSolution :=
  history.findSome? fun call => (call.2.brings call.1).map Solutions.primal

/-- The dual solution of the most recent call that brought one. -/
def latestDual (history : List (Formulation × Operation)) : Option DualSolution :=
  history.findSome? fun call => (call.2.brings call.1).bind Solutions.dual

/-- The part of a formulation that solving looks at and writes. -/
structure Standing where
  uid : Int
  minimize : Bool
  bestPrimal : Option PrimalSolution
  bestDual : Option DualSolution

def standing (f : Formulation) : Standing := ⟨f.uid, f.minimize, f.bestPrimal, f.bestDual⟩

/-- What a call brings takes the place of what was known. -/
def Standing.take (s : Standing) (brought : Option Solutions) : Standing :=
  { s with
    bestPrimal := (brought.map Solutions.primal).or s.bestPrimal
    bestDual := (brought.bind Solutions.dual).or s.bestDual }

/-- Nothing that is written into the stores or the coefficients counts. -/
theorem frame_standing (s : Standing) : Frame (fun _ => True) (standing · = s) where
  element _ _ _ _ _ := trivial
  copy _ _ _ _ := trivial
  reset _ _ := trivial
  setActive _ _ _ := trivial
  setCost _ _ _ := trivial
  storeVariable _ _ same _ := same
  writeConstraints _ _ _ same := same
  changeVariable _ _ _ same _ := same
  writeCells _ _ same := same
  noteOrigins _ _ same := same

section Optimizing
variable (f : Formulation)

/-- A result that can be read has the solutions of its report. -/
theorem resultOf_of_solutions {report : Report} {s : Solutions}
    (found : report.solutions? f.uid = some s) :
    f.resultOf report = .ok ⟨report.status, s.primal.objective, [s.primal], s.dual⟩ := by
  unfold Report.solutions? at found
  split at found
  · rename_i values duals primal dual
    split at found
    · cases found
    · rename_i hasResult
      cases found
      unfold resultOf
      rw [if_neg hasResult, primal, dual]
      rfl
  · cases found

/-- Without solutions there is no result, or it cannot be read. -/
theorem resultOf_of_none {report : Report} (missing : report.solutions? f.uid = none) :
    f.resultOf report = .ok (.withoutResult report.status) ∨
      ∃ fault, f.resultOf report = .error fault := by
  unfold resultOf
  split
  · exact .inl rfl
  · rename_i hasResult
    right
    unfold Report.solutions? at missing
    cases primal : report.primal with
    | error fault => exact ⟨fault, rfl⟩
    | ok values =>
        cases dual : report.duals with
        | error fault => exact ⟨fault, rfl⟩
        | ok duals =>
            simp [primal, dual, hasResult] at missing

/-- A report is kept as a whole or not at all. -/
theorem standing_conclude (report : Report) (update : Bool) :
    (f.conclude report update).state.standing =
      f.standing.take (if update then report.solutions? f.uid else none) := by
  unfold conclude
  cases update with
  | false =>
      split
      · rfl
      · rfl
  | true =>
      rw [if_pos rfl]
      cases found : report.solutions? f.uid with
      | some s =>
          rw [resultOf_of_solutions f found]
          rfl
      | none =>
          rcases resultOf_of_none f found with empty | ⟨fault, unreadable⟩
          · rw [empty]
            rfl
          · rw [unreadable]
            rfl

/-- The sense is never in the way of a solver. -/
theorem solvedBy_of_minimize {f : Formulation} (minimize : f.minimize = true)
    (solve : Formulation → Except Fault Report) : f.solvedBy (some solve) = solve f :=
  if_pos minimize

theorem standing_optimize {f : Formulation} (minimize : f.minimize = true)
    (solver : Option (Formulation → Except Fault Report)) (update : Bool) :
    (f.optimize solver update).state.standing =
      f.standing.take ((Operation.optimize solver update).brings f) := by
  unfold optimize
  cases solver with
  | none => rfl
  | some solve =>
      rw [solvedBy_of_minimize minimize]
      cases ran : solve f with
      | error fault =>
          have nothing : (Operation.optimize (some solve) update).brings f = none := by
            cases update <;> simp [Operation.brings, ran]
          rw [nothing]
          rfl
      | ok report =>
          rw [standing_conclude]
          cases update <;> simp [Operation.brings, ran]

end Optimizing

/-- The step: nothing but the solutions that a call brings changes. -/
theorem standing_after {f : Formulation} (minimize : f.minimize = true) (op : Operation) :
    (op.after f).standing = f.standing.take (op.brings f) := by
  have writes (plain : ¬ op.Notes) (respects : op.Respects (fun _ => True) f) :
      (op.after f).standing = f.standing :=
    (frame_standing f.standing).after rfl plain respects
  cases op with
  | registerSense sense =>
      refine Operation.read_settled standing fun g done => ?_
      unfold registerSense at done
      split at done
      · cases done
        simp [standing, minimize]
      · cases done
  | improvePrimalBound bound =>
      obtain ⟨_, noted⟩ := f.improvePrimalBound_fst bound
      rw [Operation.after, noted]
      rfl
  | improveDualBound bound =>
      obtain ⟨_, noted⟩ := f.improveDualBound_fst bound
      rw [Operation.after, noted]
      rfl
  | optimize solver update => exact standing_optimize minimize solver update
  | _ => exact writes id (Operation.respects_all _ f)

/-- The run: what the most recent calls have brought stands, and else what was known before. -/
theorem standing_run {f : Formulation} (minimize : f.minimize = true)
    (operations : List Operation) :
    (f.run operations).standing =
      ⟨f.uid, true, (latestPrimal (f.calls operations)).or f.bestPrimal,
        (latestDual (f.calls operations)).or f.bestDual⟩ := by
  induction operations generalizing f with
  | nil => simp [run, calls, latestPrimal, latestDual, standing, minimize]
  | cons op rest ih =>
      have step := standing_after minimize op
      have goesOn : (op.after f).minimize = true :=
        (congrArg Standing.minimize step).trans minimize
      have uid : (op.after f).uid = f.uid := congrArg Standing.uid step
      have primal : (op.after f).bestPrimal =
          ((op.brings f).map Solutions.primal).or f.bestPrimal :=
        congrArg Standing.bestPrimal step
      have dual : (op.after f).bestDual = ((op.brings f).bind Solutions.dual).or f.bestDual :=
        congrArg Standing.bestDual step
      rw [show f.run (op :: rest) = (op.after f).run rest from rfl, ih goesOn, uid, primal, dual]
      simp [latestPrimal, latestDual, calls, Option.or_assoc]

/-- Every call of a run is made on the formulation that the run has begun with, as the calls before
have left it. -/
theorem standing_of_mem_calls {f : Formulation} (minimize : f.minimize = true)
    {operations : List Operation} {call : Formulation × Operation}
    (made : call ∈ f.calls operations) : call.1.uid = f.uid ∧ call.1.minimize = true := by
  induction operations generalizing f with
  | nil => cases made
  | cons op rest ih =>
      rcases List.mem_append.1 made with later | now
      · have step := standing_after minimize op
        have uid : (op.after f).uid = f.uid := congrArg Standing.uid step
        rw [← uid]
        exact ih ((congrArg Standing.minimize step).trans minimize) later
      · obtain rfl := List.mem_singleton.1 now
        exact ⟨rfl, minimize⟩

/-- What a call of the solver returns and leaves behind. -/
structure Concludes (f : Formulation) (solver : Option (Formulation → Except Fault Report))
    (update : Bool) : Prop where
  /-- Entities, coefficients and bounds are left alone. -/
  frame : ∃ bestPrimal bestDual,
    (f.optimize solver update).state = { f with bestPrimal := bestPrimal, bestDual := bestDual }
  /-- No solver is refused for the sense. -/
  unhindered : ∀ solve, f.solvedBy (some solve) = solve f
  solved : ∀ solve report s, solver = some solve → solve f = .ok report →
    report.solutions? f.uid = some s →
    (f.optimize solver update).result =
      .ok ⟨report.status, s.primal.objective, [s.primal], s.dual⟩
  withoutResult : ∀ solve report, solver = some solve → solve f = .ok report →
    report.resultCount < 1 →
    f.optimize solver update = .ok f ⟨report.status, Binary64.infinity, [], none⟩
  withoutUpdate : update = false → (f.optimize solver update).state = f
  refused : ∀ fault, (f.optimize solver update).result = .error fault →
    (f.optimize solver update).state = f

theorem conclude_state_of_error {f : Formulation} {report : Report} {update : Bool} {fault : Fault}
    (failed : (f.conclude report update).result = .error fault) :
    (f.conclude report update).state = f := by
  unfold conclude at failed ⊢
  split
  · rfl
  · rename_i result read
    rw [read] at failed
    cases failed

theorem conclude_without_update (f : Formulation) (report : Report) :
    (f.conclude report false).state = f := by
  unfold conclude
  split <;> rfl

theorem concludes {f : Formulation} (minimize : f.minimize = true)
    (solver : Option (Formulation → Except Fault Report)) (update : Bool) :
    Concludes f solver update where
  frame := f.optimize_state solver update
  unhindered := solvedBy_of_minimize minimize
  solved := by
    rintro solve report s rfl ran brought
    unfold optimize conclude
    rw [solvedBy_of_minimize minimize, ran]
    dsimp only
    rw [resultOf_of_solutions f brought]
    rfl
  withoutResult := by
    rintro solve report rfl ran empty
    unfold optimize conclude resultOf
    rw [solvedBy_of_minimize minimize, ran]
    dsimp only
    rw [if_pos empty]
    cases update <;> rfl
  withoutUpdate := by
    rintro rfl
    unfold optimize
    split
    · rfl
    · exact conclude_without_update f _
  refused := by
    intro fault failed
    unfold optimize at failed ⊢
    split
    · rfl
    · rename_i report ran
      rw [ran] at failed
      exact conclude_state_of_error failed

/-- The primal solution that a call brings belongs to its formulation and holds no zero. -/
theorem primal_of_brings {f : Formulation} {op : Operation} {s : Solutions}
    (brought : op.brings f = some s) :
    s.primal.form = some f.uid ∧ ∀ entry ∈ s.primal.values.entries, (entry.2 == 0) = false := by
  unfold Operation.brings at brought
  split at brought
  · split at brought
    · unfold Report.solutions? at brought
      split at brought
      · split at brought
        · cases brought
        · cases brought
          exact ⟨rfl, fun entry mem => by simpa using (List.mem_filter.1 mem).2⟩
      · cases brought
    · cases brought
  · cases brought

/-- The best solutions are those of the most recent calls that were to keep what they found, and
found it. Nothing else that happens to a formulation changes them, and every solver is let through
whatever sense has been asked for. -/
theorem bestSolutions_of_run (uid : Int) (duty : FormDuty) (parent : Option Int)
    (operations : List Operation) :
    let start := Formulation.empty uid duty parent
    let f := start.run operations
    f.bestPrimal = latestPrimal (start.calls operations) ∧
    f.bestDual = latestDual (start.calls operations) ∧
    (∀ s, f.bestPrimal = some s →
      s.form = some uid ∧ ∀ entry ∈ s.values.entries, (entry.2 == 0) = false) ∧
    f.minimize = true ∧
    f.registerSense false = .error (.maximization uid) ∧
    ∀ solver update, Concludes f solver update := by
  intro start f
  have run : f.standing = ⟨uid, true, (latestPrimal (start.calls operations)).or none,
      (latestDual (start.calls operations)).or none⟩ := standing_run rfl operations
  have minimize : f.minimize = true := congrArg Standing.minimize run
  have own : f.uid = uid := congrArg Standing.uid run
  have primal : f.bestPrimal = latestPrimal (start.calls operations) :=
    (congrArg Standing.bestPrimal run).trans (Option.or_none ..)
  have dual : f.bestDual = latestDual (start.calls operations) :=
    (congrArg Standing.bestDual run).trans (Option.or_none ..)
  refine ⟨primal, dual, fun s known => ?_, minimize, ?_, concludes minimize⟩
  · rw [primal] at known
    obtain ⟨call, made, found⟩ := List.exists_of_findSome?_eq_some known
    obtain ⟨brought, called, rfl⟩ := Option.map_eq_some_iff.1 found
    obtain ⟨sameForm, _⟩ := standing_of_mem_calls (f := start) rfl made
    have holds := primal_of_brings called
    rw [sameForm] at holds
    exact holds
  · unfold registerSense
    rw [own]
    rfl

end Formulation

end Decomposition
