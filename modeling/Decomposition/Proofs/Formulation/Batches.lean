import Decomposition.Proofs.Formulation.Additions
import Decomposition.Proofs.Formulation.Clone
import Decomposition.Proofs.Registry.Freshness

namespace Decomposition

/-- Why an item cannot be added. -/
def Given.refusal : Given → Option Fault
  | .element e => if e.id.isKey then none else some .badType
  | .other d => some (.notAnEntity d.typeName)

/-- Of entities whose identifiers are identifiers, none is refused. -/
theorem Given.refused_iff {given : Given} (kinded : given.WellKinded) :
    given.refusal.isSome = true ↔ ∃ d, given = .other d := by
  cases given with
  | other d => simp [refusal]
  | element e =>
      obtain ⟨id, own⟩ := Element.WellKinded.named kinded
      simp [refusal, own, Ref.isKey]

namespace Formulation

/-- Why a reference is refused: it is no identifier, or the store of its kind has no such key. -/
def refusal (f : Formulation) : Ref → Option Fault
  | .other d => some (.notAnIdent d.typeName)
  | .ident id =>
      match id.kind with
      | .variable =>
          if f.vars.members.contains id then none else some (.missing (.ident id) f.vars.name)
      | .constraint =>
          if f.constrs.members.contains (.ident id) then none
          else some (.missing (.ident id) f.constrs.name)

section Refusals
variable {f g : Formulation} {ref : Ref}

theorem refusal_variable (f : Formulation) {id : Ident} (kind : id.kind = .variable) :
    f.refusal (.ident id) =
      if f.vars.members.contains id then none else some (.missing (.ident id) f.vars.name) := by
  simp only [refusal, kind]

theorem refusal_constraint (f : Formulation) {id : Ident} (kind : id.kind = .constraint) :
    f.refusal (.ident id) =
      if f.constrs.members.contains (.ident id) then none
      else some (.missing (.ident id) f.constrs.name) := by
  simp only [refusal, kind]

theorem element_of_refused {fault : Fault} (refused : f.refusal ref = some fault) :
    f.element ref = .error fault := by
  cases ref with
  | other d =>
      cases refused
      rfl
  | ident id =>
      match kind : id.kind with
      | .variable =>
          rw [refusal_variable f kind] at refused
          split at refused
          · cases refused
          · rename_i absent
            cases refused
            rw [element_variable f kind, Store.get_of_absent rfl rfl (by simpa using absent)]
            rfl
      | .constraint =>
          rw [refusal_constraint f kind] at refused
          split at refused
          · cases refused
          · rename_i absent
            cases refused
            rw [element_constraint f kind, Store.get_of_absent rfl rfl (by simpa using absent)]
            rfl

theorem element_of_accepted (accepted : f.refusal ref = none) :
    ∃ id e, ref = .ident id ∧ f.element (.ident id) = .ok e := by
  cases ref with
  | other d => cases accepted
  | ident id =>
      match kind : id.kind with
      | .variable =>
          rw [refusal_variable f kind] at accepted
          split at accepted
          · rename_i present
            obtain ⟨e, found⟩ := (contains_vars_iff kind).1 present
            exact ⟨id, e, rfl, found⟩
          · cases accepted
      | .constraint =>
          rw [refusal_constraint f kind] at accepted
          split at accepted
          · rename_i present
            obtain ⟨e, found⟩ := (contains_constrs_iff kind).1 present
            exact ⟨id, e, rfl, found⟩
          · cases accepted

/-- The stores have the same names and the same keys. -/
structure SameKeys (f g : Formulation) : Prop where
  vars : g.vars.ids = f.vars.ids
  varsName : g.vars.name = f.vars.name
  constrs : g.constrs.ids = f.constrs.ids
  constrsName : g.constrs.name = f.constrs.name

theorem SameKeys.refusal_eq (same : SameKeys f g) (ref : Ref) : g.refusal ref = f.refusal ref := by
  cases ref with
  | other d => rfl
  | ident id =>
      simp only [refusal, OrderedMap.contains_congr same.vars,
        OrderedMap.contains_congr same.constrs, same.varsName, same.constrsName]

end Refusals

section Clones
variable {src f g : Formulation} {mark : Mark} {ref : Ref}

theorem cloneOne_of_refused {fault : Fault} (refused : src.refusal ref = some fault)
    (g : Formulation) (mark : Mark) : cloneOne src g mark ref = .refuse g fault := by
  have missed := element_of_refused refused
  cases ref <;> simp [cloneOne, missed]

theorem cloneOne_of_accepted (source : Sound src) (mutable : g.coefficients.frozen = false)
    (mark : Mark) (accepted : src.refusal ref = none) :
    ∃ next copy, cloneOne src g mark ref = .ok next copy ∧ next.coefficients.frozen = false := by
  obtain ⟨id, e, rfl, found⟩ := element_of_accepted accepted
  rcases cloneOne_cases source mark mutable found with
    ⟨v, _, rfl, cloned⟩ | ⟨c, origin, _, rfl, _, cloned⟩
  · exact ⟨_, _, cloned, mutable⟩
  · exact ⟨_, _, cloned, mutable⟩

/-- A clone within one formulation takes the place of its origin. -/
theorem sameKeys_cloneOne (sound : Sound g) (mutable : g.coefficients.frozen = false) (mark : Mark)
    (accepted : g.refusal ref = none) : SameKeys g (cloneOne g g mark ref).state := by
  obtain ⟨id, e, rfl, found⟩ := element_of_accepted accepted
  have own := sound.keyed.element found
  rcases cloneOne_cases sound mark mutable found with
    ⟨v, kind, rfl, cloned⟩ | ⟨c, origin, kind, rfl, named, cloned⟩
  · have own : (v.id == id) = true := Ref.ident_beq_ident.symm.trans own
    have same : (id == v.id.cloned mark.duty g.uid) = true := BEq.symm own
    have kindOfClone : (v.id.cloned mark.duty g.uid).kind = .variable :=
      (Ident.beq_iff.1 own).1.trans kind
    have present := (contains_vars_iff kindOfClone).2 ⟨_, element_of_beq same found⟩
    rw [cloned]
    exact ⟨Store.ids_set_of_contains present _, rfl, rfl, rfl⟩
  · have own : (origin == id) = true := by
      have own : (c.id == Ref.ident id) = true := own
      rw [named] at own
      exact Ref.ident_beq_ident.symm.trans own
    have same : (id == origin.cloned mark.duty g.uid) = true := BEq.symm own
    have kindOfClone : (origin.cloned mark.duty g.uid).kind = .constraint :=
      (Ident.beq_iff.1 own).1.trans kind
    have present := (contains_constrs_iff kindOfClone).2 ⟨_, element_of_beq same found⟩
    rw [cloned]
    exact ⟨rfl, rfl, Store.ids_set_of_contains present _, rfl⟩

theorem stopsAtFirst_cloneInto (source : Sound src) (mutable : f.coefficients.frozen = false)
    (mark : Mark) : Outcome.StopsAtFirst src.refusal (src.cloneInto f mark) := by
  have steps (refs : List Ref) : (src.cloneInto f mark refs).map (fun _ => ()) =
      Outcome.forEach (fun g ref => (cloneOne src g mark ref).map fun _ => ()) f refs :=
    Outcome.collect_eq_forEach _ (src.cloneInto · mark) (fun _ => rfl) (fun _ _ _ => rfl) f refs
  apply Outcome.StopsAtFirst.congr _ fun refs => (steps refs).trans (Outcome.map_unit _).symm
  apply Outcome.stopsAtFirst_forEach (fun g => g.coefficients.frozen = false) _ _ mutable
  · intro g ref mutable accepted
    obtain ⟨next, copy, cloned, kept⟩ := cloneOne_of_accepted source mutable mark accepted
    exact ⟨next, by rw [cloned, Outcome.ok_map], kept⟩
  · intro g ref fault _ refused
    rw [cloneOne_of_refused refused, Outcome.refuse_map]

/-- The source changes along the way, but the keys of its entities do not. -/
theorem stopsAtFirst_cloneWithin (sound : Sound f) (mutable : f.coefficients.frozen = false)
    (mark : Mark) : Outcome.StopsAtFirst f.refusal (f.cloneWithin mark) := by
  have steps (refs : List Ref) : (f.cloneWithin mark refs).map (fun _ => ()) =
      Outcome.forEach (fun g ref => (cloneOne g g mark ref).map fun _ => ()) f refs :=
    Outcome.collect_eq_forEach _ (cloneWithin · mark) (fun _ => rfl) (fun _ _ _ => rfl) f refs
  apply Outcome.StopsAtFirst.congr _ fun refs => (steps refs).trans (Outcome.map_unit _).symm
  apply Outcome.stopsAtFirst_forEach (fun g => Sound g ∧ g.coefficients.frozen = false ∧
    ∀ ref, g.refusal ref = f.refusal ref) _ _ ⟨sound, mutable, fun _ => rfl⟩
  · rintro g ref ⟨sound, mutable, same⟩ accepted
    have accepted : g.refusal ref = none := (same ref).trans accepted
    have after := sound.cloneOne sound mark ref
    have keys := sameKeys_cloneOne sound mutable mark accepted
    obtain ⟨next, copy, cloned, kept⟩ := cloneOne_of_accepted sound mutable mark accepted
    rw [cloned, Outcome.ok_state] at after keys
    refine ⟨next, by rw [cloned, Outcome.ok_map], after, kept, fun other => ?_⟩
    rw [keys.refusal_eq, same]
  · rintro g ref fault ⟨_, _, same⟩ refused
    rw [cloneOne_of_refused ((same ref).trans refused), Outcome.refuse_map]

end Clones

section Resets
variable {f g : Formulation} {ref : Ref}

theorem resetEach_eq_forEach (f : Formulation) (refs : List Ref) :
    f.resetEach refs = Outcome.forEach (fun g ref => .ofChange g (g.resetElement ref)) f refs := by
  induction refs generalizing f with
  | nil => rfl
  | cons ref rest ih =>
      rw [resetEach, Outcome.forEach]
      cases f.resetElement ref with
      | error fault => rfl
      | ok done => exact ih done

theorem resetElement_of_refused {fault : Fault} (refused : f.refusal ref = some fault) :
    f.resetElement ref = .error fault := by
  rw [resetElement, modifyElement, element_of_refused refused]

theorem resetElement_of_accepted (accepted : f.refusal ref = none) :
    ∃ g, f.resetElement ref = .ok g ∧ SameKeys f g := by
  obtain ⟨id, e, rfl, found⟩ := element_of_accepted accepted
  match kind : id.kind with
  | .variable =>
      have look := found
      rw [element_variable f kind] at look
      obtain ⟨v, stored, rfl⟩ := Fault.exists_of_map_eq_ok look
      refine ⟨{ f with vars := f.vars.modify (.ident id) Entity.reset }, ?_,
        Store.ids_modify _ _ _, rfl, rfl, rfl⟩
      rw [resetElement, modifyElement, found]
      dsimp only
      rw [modifyVariable, stored]
      rfl
  | .constraint =>
      have look := found
      rw [element_constraint f kind] at look
      obtain ⟨c, stored, rfl⟩ := Fault.exists_of_map_eq_ok look
      refine ⟨{ f with constrs := f.constrs.modify (.ident id) Entity.reset }, ?_,
        rfl, rfl, Store.ids_modify _ _ _, rfl⟩
      rw [resetElement, modifyElement, found]
      dsimp only
      rw [modifyConstraint, stored]
      rfl

/-- Resets write current values alone, so a frozen relation does not matter. -/
theorem stopsAtFirst_reset (f : Formulation) :
    Outcome.StopsAtFirst f.refusal fun refs => f.reset (some refs) := by
  have steps (refs : List Ref) : (f.reset (some refs)).map (fun _ => ()) =
      (Outcome.forEach (fun g ref => .ofChange g (g.resetElement ref)) f refs).map fun _ => () := by
    rw [← resetEach_eq_forEach]
    exact Outcome.map_map _ _ _
  apply Outcome.StopsAtFirst.congr _ steps
  apply Outcome.stopsAtFirst_forEach (fun g => ∀ ref, g.refusal ref = f.refusal ref) _ _
    fun _ => rfl
  · intro g ref same accepted
    obtain ⟨next, reset, keys⟩ := resetElement_of_accepted ((same ref).trans accepted)
    refine ⟨next, by rw [reset]; rfl, fun other => ?_⟩
    rw [keys.refusal_eq, same]
  · intro g ref fault same refused
    rw [resetElement_of_refused ((same ref).trans refused)]
    rfl

end Resets

section Additions
variable {f : Formulation} {given : Given}

theorem add_of_refused {fault : Fault} (refused : given.refusal = some fault) (f : Formulation)
    (membership : Option Values) : f.add given membership = .refuse f fault := by
  cases given with
  | other d =>
      cases refused
      rfl
  | element e =>
      rw [Given.refusal] at refused
      split at refused
      · cases refused
      · rename_i plain
        cases refused
        exact addElement_of_not_key (by simpa using plain) membership

theorem add_of_accepted (mutable : f.coefficients.frozen = false)
    (accepted : given.refusal = none) (membership : Option Values) :
    ∃ g, f.add given membership = .ok g () ∧ g.coefficients.frozen = false := by
  cases given with
  | other d => cases accepted
  | element e =>
      have key : e.id.isKey = true := by simpa [Given.refusal] using accepted
      exact addElement_of_mutable mutable key membership

theorem stopsAtFirst_addEach (mutable : f.coefficients.frozen = false) :
    Outcome.StopsAtFirst (fun addition : Given × Option Values => addition.1.refusal)
      f.addEach := by
  apply Outcome.stopsAtFirst_forEach (fun g => g.coefficients.frozen = false) _ _ mutable
  · intro g addition mutable accepted
    exact add_of_accepted mutable accepted addition.2
  · intro g addition fault _ refused
    exact add_of_refused refused g addition.2

theorem addAll_of_mismatch {elements : List Given} {members : List (Option Values)}
    (apart : elements.length ≠ members.length) :
    f.addAll elements (some members) =
      .refuse f (.lengthMismatch elements.length members.length) :=
  if_neg apart

theorem addAll_pairs (f : Formulation) (additions : List (Given × Option Values)) :
    f.addAll (additions.map (·.1)) (some (additions.map (·.2))) = f.addEach additions := by
  have paired : (additions.map (·.1)).zip (additions.map (·.2)) = additions := by
    induction additions with
    | nil => rfl
    | cons addition rest ih => rw [List.map_cons, List.map_cons, List.zip_cons_cons, ih]
  rw [addAll, if_pos (by simp), paired]

/-- With memberships, a list is refused for its length or for one of its items. -/
theorem addAll_refused_iff (mutable : f.coefficients.frozen = false) (elements : List Given)
    (members : List (Option Values)) :
    (∃ fault, (f.addAll elements (some members)).result = .error fault) ↔
      elements.length ≠ members.length ∨
        ∃ given ∈ elements, given.refusal.isSome = true := by
  by_cases same : elements.length = members.length
  · have called : f.addAll elements (some members) = f.addEach (elements.zip members) := if_pos same
    have items : (elements.zip members).map (·.1) = elements := List.map_fst_zip (Nat.le_of_eq same)
    rw [called, (stopsAtFirst_addEach mutable).refused_iff]
    constructor
    · rintro ⟨addition, mem, bad⟩
      exact .inr ⟨addition.1, (List.of_mem_zip mem).1, bad⟩
    · rintro (apart | ⟨given, mem, bad⟩)
      · exact absurd same apart
      · rw [← items] at mem
        obtain ⟨addition, listed, rfl⟩ := List.mem_map.1 mem
        exact ⟨addition, listed, bad⟩
  · rw [addAll_of_mismatch same]
    exact ⟨fun _ => .inl same, fun _ => ⟨_, rfl⟩⟩

end Additions

/-- In a registry, the formulations may be two or one. -/
theorem stopsAtFirst_clone {src dest : Formulation} (source : Sound src) (target : Sound dest)
    (mutable : dest.coefficients.frozen = false) (mark : Mark) {r : Registry}
    (origin : r.get src.uid = .ok src) (held : r.get dest.uid = .ok dest) :
    Outcome.StopsAtFirst src.refusal (r.clone src.uid dest.uid mark) := by
  by_cases same : src.uid = dest.uid
  · have one : src = dest := by
      rw [same, held] at origin
      exact (Except.ok.inj origin).symm
    have called : r.clone src.uid dest.uid mark = fun refs =>
        ⟨r.put (dest.cloneWithin mark refs).state, (dest.cloneWithin mark refs).result⟩ := by
      funext refs
      rw [Registry.clone, if_pos same, Registry.onForm_of_get held]
    rw [called, one]
    exact (stopsAtFirst_cloneWithin target mutable mark).mapState r.put
  · have called : r.clone src.uid dest.uid mark = fun refs =>
        ⟨r.put (src.cloneInto dest mark refs).state, (src.cloneInto dest mark refs).result⟩ := by
      funext refs
      rw [Registry.clone, if_neg same, origin]
      exact Registry.onForm_of_get held _
    rw [called]
    exact (stopsAtFirst_cloneInto source mutable mark).mapState r.put

/-- Every batch ends at the first item that is refused, with what the items before it leave. Whether
an item is refused can be told before the batch starts. -/
theorem batches_stopAtFirst {src dest : Formulation} (sourceReached : Reachable src)
    (destReached : Reachable dest) (mutable : dest.coefficients.frozen = false) (mark : Mark) :
    Outcome.StopsAtFirst src.refusal (src.cloneInto dest mark) ∧
    Outcome.StopsAtFirst dest.refusal (dest.cloneWithin mark) ∧
    (∀ r : Registry, r.get src.uid = .ok src → r.get dest.uid = .ok dest →
      Outcome.StopsAtFirst src.refusal (r.clone src.uid dest.uid mark)) ∧
    (Outcome.StopsAtFirst dest.refusal fun refs => dest.reset (some refs)) ∧
    (Outcome.StopsAtFirst Given.refusal fun elements => dest.addAll elements none) ∧
    (Outcome.StopsAtFirst (fun addition : Given × Option Values => addition.1.refusal)
      fun additions => dest.addAll (additions.map (·.1)) (some (additions.map (·.2)))) ∧
    (∀ elements members, elements.length ≠ members.length →
      dest.addAll elements (some members) =
        .refuse dest (.lengthMismatch elements.length members.length)) ∧
    (∀ elements members,
      (∃ fault, (dest.addAll elements (some members)).result = .error fault) ↔
        elements.length ≠ members.length ∨
          ∃ given ∈ elements, given.refusal.isSome = true) ∧
    ∀ given : Given, given.WellKinded →
      (given.refusal.isSome = true ↔ ∃ d, given = .other d) := by
  have source := sourceReached.sound
  have target := destReached.sound
  have additions := stopsAtFirst_addEach mutable
  refine ⟨stopsAtFirst_cloneInto source mutable mark, stopsAtFirst_cloneWithin target mutable mark,
    fun r origin held => stopsAtFirst_clone source target mutable mark origin held,
    stopsAtFirst_reset dest, additions.comap fun given => (given, none), ?_,
    fun _ _ apart => addAll_of_mismatch apart, addAll_refused_iff mutable,
    fun _ kinded => Given.refused_iff kinded⟩
  simp only [addAll_pairs]
  exact additions

/-- A batch of clones meets an identifier that is not there, a batch of resets a plain value, and a
batch of additions something that is no entity. -/
theorem batches_smallOrigin :
    let mark : Mark := ⟨.dynamic, .masterPureVar⟩
    let x : Ref := .ident (.ofVar 1)
    let absent : Ref := .ident (.ofVar 9)
    let v := smallTarget.madeVariable 5 ⟨"v", .masterPureVar, .plain, .static⟩
    Reachable smallOrigin ∧ Reachable smallTarget ∧ smallTarget.coefficients.frozen = false ∧
      smallOrigin.cloneInto smallTarget mark [x, absent, x] =
        .refuse (smallOrigin.cloneInto smallTarget mark [x]).state
          (.missing absent "variables of form 1") ∧
      smallTarget.reset (some [.ident (.ofConstr 1), .other (.text "c"), x]) =
        .refuse (smallTarget.reset (some [.ident (.ofConstr 1)])).state (.notAnIdent "str") ∧
      smallTarget.addAll [.element (.variable v), .other .null] none =
        .refuse (smallTarget.addAll [.element (.variable v)] none).state
          (.notAnEntity "NoneType") := by
  intro mark x absent v
  have originReached : Reachable smallOrigin :=
    ReachableBy.run (.empty 1 .compact none) (by simp [Operation.WellKinded, Operation.source?])
  have targetReached : Reachable smallTarget :=
    ReachableBy.run (.empty 2 .dwMaster none) (by simp [Operation.WellKinded, Operation.source?])
  have mutable : smallTarget.coefficients.frozen = false := rfl
  obtain ⟨clones, _, _, resets, additions, _⟩ :=
    batches_stopAtFirst originReached targetReached mutable mark
  refine ⟨originReached, targetReached, mutable, ?_, ?_, ?_⟩
  · exact clones.stops [x] absent [x] _ (List.forall_mem_singleton.2 rfl) rfl
  · exact resets.stops [.ident (.ofConstr 1)] (.other (.text "c")) [x] _
      (List.forall_mem_singleton.2 rfl) rfl
  · exact additions.stops [.element (.variable v)] (.other .null) [] _
      (List.forall_mem_singleton.2 rfl) rfl

end Formulation

end Decomposition
