import Decomposition.Proofs.Formulation.Change

namespace Decomposition

theorem OrderedMap.insert_eq_self_iff {κ β : Type} [BEq κ] [EquivBEq κ] {m : OrderedMap κ β}
    {key : κ} {value : β} : m.insert key value = m ↔ m.get? key = some value := by
  constructor
  · intro same
    rw [← same, get?_insert, if_pos BEq.rfl]
  · exact insert_of_get?

theorem Store.set_eq_self_iff {κ β : Type} [BEq κ] [EquivBEq κ] {s : Store κ β} {key : κ}
    {value : β} : s.set key value = s ↔ s.get? key = some value := by
  rw [Store.get?, ← OrderedMap.insert_eq_self_iff]
  constructor
  · exact congrArg Store.members
  · intro same
    rw [Store.set, same]

namespace Formulation

/-- The formulation with an entity in its store, and the coefficients as they were. -/
def storing (f : Formulation) : Element → Formulation
  | .variable v => { f with vars := f.vars.set v.id v }
  | .constraint c =>
      { f with
        constrs := f.constrs.set c.id c
        recordedRhs := f.recordedRhs.insert c.id c.perennial.rhs }

/-- The write of an entity's coefficients. -/
def lineWrite (e : Element) (membership : Option Values) : Relation.Write Ref Float :=
  match e with
  | .variable v => .ofColumn v.id membership
  | .constraint c => .ofRow c.id membership

/-- The stores, the recorded right-hand sides and the coefficients are the same. -/
structure SameContent (f g : Formulation) : Prop where
  vars : g.vars = f.vars
  constrs : g.constrs = f.constrs
  recordedRhs : g.recordedRhs = f.recordedRhs
  coefficients : g.coefficients = f.coefficients

/-- The entity stands under its identifier, with its right-hand side on record. -/
def HasRecord (f : Formulation) : Element → Prop
  | .variable v => f.vars.get? v.id = some v
  | .constraint c =>
      f.constrs.get? c.id = some c ∧ f.recordedRhs.get? c.id = some c.perennial.rhs

variable {f : Formulation} {e : Element}

@[simp] theorem storing_coefficients (f : Formulation) (e : Element) :
    (f.storing e).coefficients = f.coefficients := by
  cases e <;> rfl

/-- Storing an entity is seen unless the same one stood there. -/
theorem sameContent_storing_iff : SameContent f (f.storing e) ↔ f.HasRecord e := by
  rcases e with v | c
  · constructor
    · intro same
      exact Store.set_eq_self_iff.1 same.vars
    · intro present
      exact ⟨Store.set_eq_self_iff.2 present, rfl, rfl, rfl⟩
  · constructor
    · intro same
      exact ⟨Store.set_eq_self_iff.1 same.constrs,
        OrderedMap.insert_eq_self_iff.1 same.recordedRhs⟩
    · rintro ⟨present, recorded⟩
      exact ⟨rfl, Store.set_eq_self_iff.2 present, OrderedMap.insert_eq_self_iff.2 recorded, rfl⟩

theorem writeCoefficients_eq (f : Formulation) (write : Relation.Write Ref Float) :
    f.writeCoefficients (f.coefficients.perform write) =
      ⟨{ f with coefficients := f.coefficients.attempt write },
        if f.coefficients.frozen then .error .frozen else .ok ()⟩ := by
  rw [Relation.perform_eq_write]
  cases frozen : f.coefficients.frozen <;>
    simp [Relation.write, Relation.attempt, writeCoefficients, frozen, Outcome.ofChange,
      Outcome.ok, Outcome.refuse, Except.map]

/-- An entity that can be a key is stored in any case, and refused if the relation is frozen. -/
theorem addElement_eq (key : e.id.isKey = true) (membership : Option Values) :
    f.addElement e membership =
      ⟨{ f.storing e with coefficients := f.coefficients.attempt (lineWrite e membership) },
        if f.coefficients.frozen then .error .frozen else .ok ()⟩ := by
  rcases e with v | c
  · have written := (f.storing (.variable v)).writeCoefficients_eq (.ofColumn v.id membership)
    cases membership <;> exact written
  · have key : c.id.isKey = true := key
    have stored : f.constrs.put c.id c = .ok (f.constrs.set c.id c) := by
      rw [Store.put, if_pos key]
    have written := (f.storing (.constraint c)).writeCoefficients_eq (.ofRow c.id membership)
    unfold addElement addConstraint
    dsimp only
    rw [stored]
    cases membership <;> exact written

/-- What can be no key is refused before anything is written. -/
theorem addElement_of_not_key (plain : e.id.isKey = false) (membership : Option Values) :
    f.addElement e membership = .refuse f .badType := by
  rcases e with v | c
  · cases plain
  · have plain : c.id.isKey = false := plain
    have refused : f.constrs.put c.id c = .error .badType := by
      rw [Store.put, plain, if_neg Bool.false_ne_true]
    unfold addElement addConstraint
    dsimp only
    rw [refused]

theorem addElement_of_mutable (mutable : f.coefficients.frozen = false)
    (key : e.id.isKey = true) (membership : Option Values) :
    ∃ g, f.addElement e membership = .ok g () ∧ g.coefficients.frozen = false := by
  have stays : (f.coefficients.attempt (lineWrite e membership)).frozen = false := by
    simp [Relation.attempt, mutable]
  rw [addElement_eq key, mutable]
  exact ⟨_, rfl, stays⟩

theorem addElement_of_frozen (frozen : f.coefficients.frozen = true) (key : e.id.isKey = true)
    (membership : Option Values) :
    f.addElement e membership = .refuse (f.storing e) .frozen := by
  have stays : f.coefficients.attempt (lineWrite e membership) = (f.storing e).coefficients := by
    rw [Relation.attempt, if_pos frozen, storing_coefficients]
  rw [addElement_eq key, frozen, stays]
  rfl

/-- How the addition of an entity is refused, and what it leaves then. The entity has gone to its
store before its coefficients are offered to the relation, and the right-hand side of a constraint
has been recorded in between. -/
structure Offers {α : Type} (f : Formulation) (e : Element) (done : Outcome Formulation α) :
    Prop where
  refused_iff : (∃ fault, done.result = .error fault) ↔ f.coefficients.frozen = true
  /-- The entity is stored, and all else is as before. -/
  refusal : f.coefficients.frozen = true → done = .refuse (f.storing e) .frozen
  unwritten_iff : f.coefficients.frozen = true → (SameContent f done.state ↔ f.HasRecord e)

theorem offers_addElement (key : e.id.isKey = true) (membership : Option Values) :
    Offers f e (f.addElement e membership) where
  refused_iff := by
    rw [addElement_eq key]
    cases f.coefficients.frozen <;> simp
  refusal frozen := addElement_of_frozen frozen key membership
  unwritten_iff frozen := by
    rw [addElement_of_frozen frozen key]
    exact sameContent_storing_iff

theorem Offers.map {α β : Type} {done : Outcome Formulation α} (offers : Offers f e done)
    (answer : α → β) : Offers f e (done.map answer) where
  refused_iff := by
    simp only [Outcome.map_result_eq_error_iff]
    exact offers.refused_iff
  refusal frozen := by
    rw [offers.refusal frozen]
    rfl
  unwritten_iff := offers.unwritten_iff

/-- What is no entity is refused untouched. A frozen relation refuses every entity and stays as it
is, but only after the entity has been stored, so nothing is written exactly if it stood there. -/
theorem additions_unwritten_iff (f : Formulation) :
    (∀ given membership, (∀ e, given = .element e → e.id.isKey = false) →
      ∃ fault, f.add given membership = .refuse f fault) ∧
    (∀ e membership, e.id.isKey = true → Offers f e (f.add (.element e) membership)) ∧
    (∀ uid draft column,
      Offers f (.variable (f.madeVariable uid draft)) (f.createVariable uid draft column)) ∧
    ∀ uid draft row,
      Offers f (.constraint (f.madeConstraint uid draft)) (f.createConstraint uid draft row) := by
  refine ⟨fun given membership plain => ?_, fun e membership key => ?_,
    fun uid draft column => ?_, fun uid draft row => ?_⟩
  · cases given with
    | element e => exact ⟨.badType, addElement_of_not_key (plain e rfl) membership⟩
    | other d => exact ⟨.notAnEntity d.typeName, rfl⟩
  · exact offers_addElement key membership
  · have added : Offers f (.variable (f.madeVariable uid draft))
        (f.addElement (.variable (f.madeVariable uid draft)) column) :=
      offers_addElement rfl column
    exact added.map _
  · have added : Offers f (.constraint (f.madeConstraint uid draft))
        (f.addElement (.constraint (f.madeConstraint uid draft)) row) :=
      offers_addElement rfl row
    exact added.map _

/-- One variable, and a relation that takes no more writes. -/
def frozenProgram : Formulation :=
  run (.empty 1 .compact none)
    [.createVariable 1 ⟨"x", .compactVar, .plain, .static⟩ none, .freeze]

/-- The variable of the program is added again, and the refusal is not seen afterwards. -/
theorem additions_frozenProgram :
    let x := (Formulation.empty 1 .compact none).madeVariable 1
      ⟨"x", .compactVar, .plain, .static⟩
    let done := frozenProgram.add (.element (.variable x)) none
    frozenProgram.coefficients.frozen = true ∧ done.result = .error .frozen ∧
      SameContent frozenProgram done.state := by
  intro x done
  have offers : Offers frozenProgram (.variable x) done :=
    (additions_unwritten_iff frozenProgram).2.1 (.variable x) none rfl
  refine ⟨rfl, ?_, (offers.unwritten_iff rfl).2 rfl⟩
  rw [offers.refusal rfl]
  rfl

/-- A new variable is refused by the frozen relation and counted among the variables afterwards. -/
theorem refused_creation_stores :
    let done := frozenProgram.createVariable 2 ⟨"y", .compactVar, .plain, .static⟩ none
    done.result = .error .frozen ∧ frozenProgram.vars.size = 1 ∧ done.state.vars.size = 2 ∧
      ¬ SameContent frozenProgram done.state := by
  intro done
  have before : frozenProgram.vars.size = 1 := rfl
  have after : done.state.vars.size = 2 := rfl
  refine ⟨rfl, before, after, fun same => ?_⟩
  rw [same.vars, before] at after
  cases after

end Formulation

end Decomposition
