import Decomposition.Proofs.Formulation.Clone
import Decomposition.Proofs.Solver.Highs

namespace Decomposition

namespace Entity
variable {κ δ : Type} [EntityRecord δ]

/-- The entity with its perennial values in force. -/
def restored (e : Entity κ δ) : Entity κ δ := { e with current := e.perennial }

theorem reset_eq_restored : (reset : Entity κ δ → Entity κ δ) = restored := by
  funext e
  rw [reset, restored, e.built]

end Entity

namespace Formulation

/-- The formulation without its search: every entity is reset, and no bound or solution is known. -/
def unsearched (f : Formulation) : Formulation :=
  { f with
    vars := f.vars.map Entity.reset
    constrs := f.constrs.map Entity.reset
    primalBound := Binary64.infinity
    dualBound := Binary64.negativeInfinity
    bestPrimal := none
    bestDual := none }

/-- The operation changes current values, or what is known of bounds and solutions. -/
def Operation.Searches : Operation → Prop
  | .setCost _ _ | .setBounds _ _ _ | .setRhs _ _ | .setActive _ _ | .reset _
  | .changeVariable _ _ | .changeConstraint _ _
  | .improvePrimalBound _ | .improveDualBound _ | .optimize _ _ => True
  | _ => False

section Search
variable {f g : Formulation}

theorem unsearched_modifyVariable {ref : Ref} {values : Variable → VarData}
    (done : (f.modifyVariable ref fun v => { v with current := values v }) = .ok g) :
    g.unsearched = f.unsearched := by
  obtain ⟨_, _, rfl⟩ := Fault.exists_of_map_eq_ok done
  have unseen := Store.map_of_modify f.vars ref (g := Entity.reset)
    (f := fun v => { v with current := values v }) fun _ => rfl
  rw [unsearched, unsearched, unseen]

theorem unsearched_modifyConstraint {ref : Ref} {values : Constraint → ConstrData}
    (done : (f.modifyConstraint ref fun c => { c with current := values c }) = .ok g) :
    g.unsearched = f.unsearched := by
  obtain ⟨_, _, rfl⟩ := Fault.exists_of_map_eq_ok done
  have unseen := Store.map_of_modify f.constrs ref (g := Entity.reset)
    (f := fun c => { c with current := values c }) fun _ => rfl
  rw [unsearched, unsearched, unseen]

theorem unsearched_modifyElement {ref : Ref} {ofVariable : Variable → VarData}
    {ofConstraint : Constraint → ConstrData}
    (done : (f.modifyElement ref (fun v => { v with current := ofVariable v })
      fun c => { c with current := ofConstraint c }) = .ok g) :
    g.unsearched = f.unsearched := by
  unfold Formulation.modifyElement at done
  split at done
  · cases done
  · exact unsearched_modifyVariable done
  · exact unsearched_modifyConstraint done

/-- The resets that were made before one is refused leave no trace either. -/
theorem unsearched_resetEach (f : Formulation) (refs : List Ref) :
    (f.resetEach refs).state.unsearched = f.unsearched := by
  induction refs generalizing f with
  | nil => rfl
  | cons ref rest ih =>
      unfold resetEach
      split
      · rename_i done reset
        have restored : (f.modifyElement ref
            (fun v => { v with current := EntityRecord.settle v.perennial })
            fun c => { c with current := EntityRecord.settle c.perennial }) = .ok done := reset
        exact (ih done).trans (unsearched_modifyElement restored)
      · rfl

/-- One step of a search, whether it succeeds or fails. -/
theorem Operation.Searches.unsearched {op : Operation} (searches : op.Searches) (f : Formulation) :
    (op.after f).unsearched = f.unsearched := by
  cases op with
  | setCost ref cost =>
      exact read_settled Formulation.unsearched fun g done => unsearched_modifyVariable done
  | setBounds ref lb ub =>
      exact read_settled Formulation.unsearched fun g done => unsearched_modifyVariable done
  | setRhs ref rhs =>
      exact read_settled Formulation.unsearched fun g done => unsearched_modifyConstraint done
  | setActive ref active =>
      exact read_settled Formulation.unsearched fun g done => unsearched_modifyElement done
  | reset refs => exact unsearched_resetEach f _
  | changeVariable ref change =>
      exact read_settled Formulation.unsearched fun g done => unsearched_modifyVariable done
  | changeConstraint ref change =>
      exact read_settled Formulation.unsearched fun g done => unsearched_modifyConstraint done
  | improvePrimalBound bound =>
      obtain ⟨_, noted⟩ := f.improvePrimalBound_fst bound
      rw [Operation.after, noted]
      rfl
  | improveDualBound bound =>
      obtain ⟨_, noted⟩ := f.improveDualBound_fst bound
      rw [Operation.after, noted]
      rfl
  | optimize solver update =>
      obtain ⟨_, _, noted⟩ := f.optimize_state solver update
      rw [Operation.after, noted]
      rfl
  | _ => exact searches.elim

/-- A whole search. -/
theorem unsearched_run {operations : List Operation}
    (searching : ∀ op ∈ operations, op.Searches) (f : Formulation) :
    (f.run operations).unsearched = f.unsearched := by
  refine operations.foldlRecOn (motive := fun g : Formulation => g.unsearched = f.unsearched) _
    rfl ?_
  intro g same op mem
  exact ((searching op mem).unsearched g).trans same

end Search

section Reset
variable {f : Formulation}

/-- The formulation after the reset of one entity that is there. -/
def resetAt (f : Formulation) (ref : Ref) : Formulation :=
  match ref with
  | .other _ => f
  | .ident id =>
      match id.kind with
      | .variable => { f with vars := f.vars.modify ref Entity.reset }
      | .constraint => { f with constrs := f.constrs.modify ref Entity.reset }

theorem resetAt_variable (f : Formulation) {id : Ident} (kind : id.kind = .variable) :
    f.resetAt (.ident id) = { f with vars := f.vars.modify (.ident id) Entity.reset } := by
  simp only [resetAt, kind]

theorem resetAt_constraint (f : Formulation) {id : Ident} (kind : id.kind = .constraint) :
    f.resetAt (.ident id) = { f with constrs := f.constrs.modify (.ident id) Entity.reset } := by
  simp only [resetAt, kind]

theorem resetElement_of_holds {ref : Ref} (held : f.Holds ref) :
    f.resetElement ref = .ok (f.resetAt ref) := by
  match ref with
  | .other d => exact nomatch held.choose_spec
  | .ident id =>
      match kind : id.kind with
      | .variable =>
          obtain ⟨v, found⟩ := (holds_variable kind).1 held
          rw [resetElement, modifyElement, element_variable f kind, found, f.resetAt_variable kind]
          dsimp only [Except.map]
          rw [modifyVariable, found]
          rfl
      | .constraint =>
          obtain ⟨c, found⟩ := (holds_constraint kind).1 held
          rw [resetElement, modifyElement, element_constraint f kind, found,
            f.resetAt_constraint kind]
          dsimp only [Except.map]
          rw [modifyConstraint, found]
          rfl

theorem holds_resetAt (f : Formulation) (ref : Ref) {other : Ref} (held : f.Holds other) :
    (f.resetAt ref).Holds other := by
  match ref with
  | .other d => exact held
  | .ident id =>
      match kind : id.kind with
      | .variable =>
          have change : Change Permit.kinded f _ :=
            .currentVariable (.ident id) fun v => EntityRecord.settle v.perennial
          rw [f.resetAt_variable kind]
          exact change.holds held
      | .constraint =>
          have change : Change Permit.kinded f _ :=
            .currentConstraint (.ident id) fun c => EntityRecord.settle c.perennial
          rw [f.resetAt_constraint kind]
          exact change.holds held

/-- The resets of entities that are there all succeed. -/
theorem resetEach_of_holds {refs : List Ref} (held : ∀ ref ∈ refs, f.Holds ref) :
    f.resetEach refs = .ok (refs.foldl resetAt f) () := by
  induction refs generalizing f with
  | nil => rfl
  | cons ref rest ih =>
      rw [resetEach, resetElement_of_holds (held ref List.mem_cons_self)]
      exact ih fun other mem => f.holds_resetAt ref (held other (List.mem_cons_of_mem _ mem))

theorem foldl_resetAt_variables {ids : List Ident} (kinds : ∀ id ∈ ids, id.kind = .variable)
    (f : Formulation) :
    (ids.map .ident).foldl resetAt f =
      { f with
        vars := ids.foldl (fun s id => s.modify (RefKey.toRef id) Entity.reset) f.vars } := by
  induction ids generalizing f with
  | nil => rfl
  | cons id rest ih =>
      rw [List.map_cons, List.foldl_cons, resetAt_variable f (kinds id List.mem_cons_self),
        ih fun other mem => kinds other (List.mem_cons_of_mem _ mem)]
      rfl

theorem foldl_resetAt_constraints {refs : List Ref}
    (kinds : ∀ ref ∈ refs, ∃ id : Ident, ref = .ident id ∧ id.kind = .constraint)
    (f : Formulation) :
    refs.foldl resetAt f =
      { f with
        constrs :=
          refs.foldl (fun s ref => s.modify (RefKey.toRef ref) Entity.reset) f.constrs } := by
  induction refs generalizing f with
  | nil => rfl
  | cons ref rest ih =>
      obtain ⟨id, rfl, kind⟩ := kinds ref List.mem_cons_self
      rw [List.foldl_cons, resetAt_constraint f kind,
        ih fun other mem => kinds other (List.mem_cons_of_mem _ mem)]
      rfl

theorem Sound.kind_of_mem_vars (sound : Sound f) {id : Ident} (mem : id ∈ f.vars.ids) :
    id.kind = .variable := by
  obtain ⟨entry, stored, rfl⟩ := List.mem_map.1 mem
  have own : entry.2.id.kind = .variable := sound.kinded.ofVariable entry stored
  exact (Ident.beq_iff.1 (sound.keyed.ofVariable entry stored)).1.trans own

theorem Sound.kind_of_mem_constrs (sound : Sound f) {ref : Ref} (mem : ref ∈ f.constrs.ids) :
    ∃ id : Ident, ref = .ident id ∧ id.kind = .constraint := by
  obtain ⟨entry, stored, rfl⟩ := List.mem_map.1 mem
  obtain ⟨own, named, kind⟩ := sound.kinded.ofConstraint entry stored
  have same : (entry.1 == entry.2.id) = true := sound.keyed.ofConstraint entry stored
  rw [named] at same
  match key : entry.1 with
  | .other d =>
      rw [key, BEq.comm, Ref.ident_beq_other] at same
      cases same
  | .ident id =>
      rw [key, Ref.ident_beq_ident] at same
      exact ⟨id, rfl, (Ident.beq_iff.1 same).1.trans kind⟩

/-- In a sound formulation everything has an identifier, so that everything can be reset. -/
theorem Sound.allRefs_eq (sound : Sound f) :
    f.allRefs = f.vars.ids.map .ident ++ f.constrs.ids := by
  have idents : ∀ ref ∈ f.constrs.ids, ref.isIdent = true := by
    intro ref mem
    obtain ⟨id, rfl, _⟩ := sound.kind_of_mem_constrs mem
    rfl
  have plain : (f.constrs.ids.filter fun ref => !ref.isIdent) = [] :=
    List.filter_eq_nil_iff.2 fun ref mem => by simp [idents ref mem]
  rw [allRefs, List.filter_eq_self.2 idents, plain, List.append_nil]

theorem Sound.holds_of_mem_allRefs (sound : Sound f) {ref : Ref} (mem : ref ∈ f.allRefs) :
    f.Holds ref := by
  rw [sound.allRefs_eq, List.mem_append] at mem
  rcases mem with inVars | inConstrs
  · obtain ⟨id, stored, rfl⟩ := List.mem_map.1 inVars
    obtain ⟨entry, entryMem, rfl⟩ := List.mem_map.1 stored
    have look : f.vars.get (Ref.ident entry.1) = .ok entry.2 :=
      Store.get_of_mem entryMem rfl BEq.rfl
    exact (holds_variable (sound.kind_of_mem_vars stored)).2 ⟨entry.2, look⟩
  · obtain ⟨id, named, kind⟩ := sound.kind_of_mem_constrs inConstrs
    obtain ⟨entry, entryMem, rfl⟩ := List.mem_map.1 inConstrs
    have look : f.constrs.get entry.1 = .ok entry.2 := Store.get_of_mem entryMem rfl BEq.rfl
    rw [named] at look ⊢
    exact (holds_constraint kind).2 ⟨entry.2, look⟩

/-- A reset of all reaches every entity, and is never refused. -/
theorem Sound.reset_all (sound : Sound f) :
    f.reset none =
      .ok { f with vars := f.vars.map Entity.reset, constrs := f.constrs.map Entity.reset }
        (f.vars.size + f.constrs.size) := by
  have count : f.allRefs.length = f.vars.size + f.constrs.size := by
    rw [sound.allRefs_eq, List.length_append, List.length_map]
    exact congrArg₂ (· + ·) (List.length_map _) (List.length_map _)
  -- The variables are reset first, and the constraints then with the variables as they are left.
  have effect : f.allRefs.foldl resetAt f =
      { f with vars := f.vars.map Entity.reset, constrs := f.constrs.map Entity.reset } := by
    rw [sound.allRefs_eq, List.foldl_append,
      foldl_resetAt_variables fun id mem => sound.kind_of_mem_vars mem,
      foldl_resetAt_constraints fun ref mem => sound.kind_of_mem_constrs mem,
      Store.foldl_modify_ids f.vars (f := Entity.reset) (fun _ => rfl) fun _ => rfl]
    dsimp only
    rw [Store.foldl_modify_ids f.constrs (f := Entity.reset) (fun _ => rfl) fun _ => rfl]
  rw [reset, Option.getD_none, resetEach_of_holds fun ref mem => sound.holds_of_mem_allRefs mem,
    effect, count]
  rfl

end Reset

/-- Every entity has its perennial record in force. Nothing else has changed, except for what is
known of bounds and solutions. -/
structure Restores (f g : Formulation) : Prop where
  vars : g.vars = f.vars.map Entity.restored
  constrs : g.constrs = f.constrs.map Entity.restored
  coefficients : g.coefficients = f.coefficients
  recordedRhs : g.recordedRhs = f.recordedRhs
  cloneOrigins : g.cloneOrigins = f.cloneOrigins

section Undo
variable {f g : Formulation}

/-- A reset of all after a search. -/
theorem Sound.reset_searched (sound : Sound g) (same : g.unsearched = f.unsearched) :
    ∃ h, g.reset none = .ok h (f.vars.size + f.constrs.size) ∧ Restores f h := by
  have vars : g.vars.map Entity.reset = f.vars.map Entity.reset := congrArg (·.vars) same
  have constrs : g.constrs.map Entity.reset = f.constrs.map Entity.reset :=
    congrArg (·.constrs) same
  have count : g.vars.size + g.constrs.size = f.vars.size + f.constrs.size := by
    have sizes := congrArg₂ (· + ·) (congrArg Store.size vars) (congrArg Store.size constrs)
    simpa only [Store.size_map] using sizes
  have restores : Restores f
      { g with vars := g.vars.map Entity.reset, constrs := g.constrs.map Entity.reset } :=
    { vars := vars.trans (congrArg f.vars.map Entity.reset_eq_restored)
      constrs := constrs.trans (congrArg f.constrs.map Entity.reset_eq_restored)
      coefficients := congrArg (·.coefficients) same
      recordedRhs := congrArg (·.recordedRhs) same
      cloneOrigins := congrArg (·.cloneOrigins) same }
  exact ⟨_, by rw [sound.reset_all, count], restores⟩

end Undo

/-- After a search, a reset of all does what it would have done before the search: every entity has
its perennial record in force, and the same program is sent to the solver. -/
theorem undo_of_reachable {f : Formulation} (reached : Reachable f) {operations : List Operation}
    (searching : ∀ op ∈ operations, op.Searches) :
    ∃ undone direct,
      (f.run operations).reset none = .ok undone (f.vars.size + f.constrs.size) ∧
      f.reset none = .ok direct (f.vars.size + f.constrs.size) ∧
      Restores f undone ∧ Restores f direct ∧
      ∀ intake, Highs.load intake undone = Highs.load intake direct := by
  have permitted : ∀ op ∈ operations, op.WellKinded ∧ op.source? = none := by
    intro op mem
    have searches := searching op mem
    cases op <;> first | exact searches.elim | exact ⟨trivial, rfl⟩
  have searched : Reachable (f.run operations) := reached.run permitted
  obtain ⟨undone, reset, restores⟩ := searched.sound.reset_searched (unsearched_run searching f)
  obtain ⟨direct, resetNow, restoresNow⟩ := reached.sound.reset_searched rfl
  refine ⟨undone, direct, reset, resetNow, restores, restoresNow, fun intake => ?_⟩
  exact Highs.load_congr intake (restores.vars.trans restoresNow.vars.symm)
    (restores.constrs.trans restoresNow.constrs.symm)
    (restores.coefficients.trans restoresNow.coefficients.symm)

/-- A binary, an integer and a continuous variable in one constraint. The integer variable is fixed
already. -/
def mixedProgram : Formulation :=
  run (.empty 1 .compact none)
    [.createVariable 1 ⟨"", .compactVar, { VarData.plain with kind := .binary, ub := 7 }, .static⟩
        none,
      .createVariable 2 ⟨"", .compactVar, { VarData.plain with kind := .integer }, .static⟩ none,
      .createVariable 3 ⟨"", .compactVar, { VarData.plain with cost := 5 }, .static⟩ none,
      .createConstraint 1 ⟨"", .compactConstr, { ConstrData.plain with rhs := 4 }, .static⟩
        (some (.ofList [(Ident.ofVar 1, 2), (Ident.ofVar 3, 1)])),
      .setBounds (Ident.ofVar 2) (some 1) (some 1)]

/-- Bounds leave the unit interval, a constraint is switched off, a run of the solver is recorded,
and two calls are refused. -/
def mixedSearch : List Operation :=
  [.setBounds (Ident.ofVar 1) (some (-3)) (some 5), .setCost (Ident.ofVar 9) 1,
    .setCost (Ident.ofVar 3) 8, .setRhs (Ident.ofConstr 1) 6, .setActive (Ident.ofConstr 1) false,
    .reset (some [Ident.ofVar 3, Ident.ofVar 9, Ident.ofVar 1]),
    .optimize (some fun _ =>
      .ok ⟨.optimal, 1, 2, .ok (.ofList [(Ident.ofVar 3, 1)]), .ok none, none⟩) true,
    .optimize none true, .improvePrimalBound 2]

theorem undo_mixedSearch :
    (∀ op ∈ mixedSearch, op.Searches) ∧
      (mixedProgram.run mixedSearch).primalBound = 2 ∧
      ((mixedProgram.run mixedSearch).vars.find? (Ident.ofVar 1)).map (·.current.lb) = some (-3) ∧
      ∃ undone direct, (mixedProgram.run mixedSearch).reset none = .ok undone 4 ∧
        mixedProgram.reset none = .ok direct 4 ∧
        Restores mixedProgram undone ∧ Restores mixedProgram direct ∧
        Highs.load .limits undone = Highs.load .limits direct ∧
        (undone.vars.find? (Ident.ofVar 1)).map (·.current.lb) = some 0 ∧
        (undone.vars.find? (Ident.ofVar 1)).map (·.current.ub) = some 1 := by
  have reached : Reachable mixedProgram :=
    ReachableBy.run (.empty 1 .compact none) (by simp [Operation.WellKinded, Operation.source?])
  have searching : ∀ op ∈ mixedSearch, op.Searches := by simp [mixedSearch, Operation.Searches]
  obtain ⟨undone, direct, reset, resetNow, restores, restoresNow, loads⟩ :=
    undo_of_reachable reached searching
  refine ⟨searching, ?_, ?_, undone, direct, reset, resetNow, restores, restoresNow,
    loads .limits, ?_, ?_⟩
  · decide +kernel
  · decide +kernel
  · rw [restores.vars]
    decide +kernel
  · rw [restores.vars]
    decide +kernel

end Formulation

end Decomposition
