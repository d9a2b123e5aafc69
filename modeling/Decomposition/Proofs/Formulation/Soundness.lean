import Decomposition.Proofs.Formulation.Change

namespace Decomposition

/-- A clone is of the kind of its origin. -/
theorem Element.wellKinded_copy {e : Element} (kinded : e.WellKinded) {origin : Ident}
    (found : e.id.toIdent = .ok origin) (duty : Duty) (form : Int) (flag : Flag) :
    (e.copy (origin.cloned duty form) flag).WellKinded := by
  rcases e with v | c
  · cases found
    exact kinded
  · obtain ⟨id, same, kind⟩ := kinded
    have stored : c.id.toIdent = .ok origin := found
    rw [same] at stored
    cases stored
    exact ⟨_, rfl, kind⟩

namespace Formulation

/-- Entities of the right kind may be stored. -/
def Permit.kinded : Permit where
  stores := Element.WellKinded
  notes _ := True
  wellKinded _ kinded := kinded
  lasting := ⟨fun _ _ kinded => kinded, fun _ _ kinded => kinded⟩
  copies _ _ duty form flag kinded found := Element.wellKinded_copy kinded found duty form flag

theorem Permit.open_kinded : Permit.kinded.Open where
  makesVariable _ _ _ _ kind := kind
  makesConstraint id _ _ _ kind := ⟨id, rfl, kind⟩
  notes _ := trivial

/-- Entities stand under keys that are equal to their identifiers. -/
structure Keyed (f : Formulation) : Prop where
  ofVariable : ∀ entry ∈ f.vars.entries, (entry.1 == entry.2.id) = true
  ofConstraint : ∀ entry ∈ f.constrs.entries, (entry.1 == entry.2.id) = true

/-- The records of a formulation fit together. -/
structure Sound (f : Formulation) : Prop where
  kinded : Kinded f
  keyed : Keyed f
  cells : f.coefficients.cells.Consistent
  recorded : ∀ entry ∈ f.constrs.entries,
    f.recordedRhs.get? entry.1 = some entry.2.perennial.rhs

theorem allStored_empty (P : Element → Prop) (uid : Int) (duty : FormDuty)
    (parent : Option Int) : AllStored P (.empty uid duty parent) where
  ofVariable _ mem := nomatch mem
  ofConstraint _ mem := nomatch mem

theorem sound_empty (uid : Int) (duty : FormDuty) (parent : Option Int) :
    Sound (.empty uid duty parent) where
  kinded := allStored_empty _ uid duty parent
  keyed := ⟨fun _ mem => (nomatch mem), fun _ mem => (nomatch mem)⟩
  cells := .empty
  recorded _ mem := nomatch mem

variable {permit : Permit} {f g : Formulation}

/-- An entity is stored under its own identifier, and keeps it. -/
theorem Change.keyed (change : Change permit f g) (h : Keyed f) : Keyed g := by
  cases change with
  | storeVariable v permitted column =>
      refine ⟨fun entry mem => ?_, h.ofConstraint⟩
      rcases Store.mem_set mem with ⟨key, same⟩ | ⟨_, old⟩
      · rw [same]
        exact BEq.symm key
      · exact h.ofVariable entry old
  | storeConstraint c permitted row =>
      refine ⟨h.ofVariable, fun entry mem => ?_⟩
      rcases Store.mem_set mem with ⟨key, same⟩ | ⟨_, old⟩
      · rw [same]
        exact BEq.symm key
      · exact h.ofConstraint entry old
  | currentVariable ref values =>
      refine ⟨fun entry mem => ?_, h.ofConstraint⟩
      obtain ⟨old, oldMem, key, same | same⟩ := Store.mem_modify mem
      · rw [key, same]
        exact h.ofVariable old oldMem
      · rw [key, same]
        exact h.ofVariable old oldMem
  | currentConstraint ref values =>
      refine ⟨h.ofVariable, fun entry mem => ?_⟩
      obtain ⟨old, oldMem, key, same | same⟩ := Store.mem_modify mem
      · rw [key, same]
        exact h.ofConstraint old oldMem
      · rw [key, same]
        exact h.ofConstraint old oldMem
  | writeCells | freeze | noteOrigin | note => exact ⟨h.ofVariable, h.ofConstraint⟩

theorem Change.cells (change : Change permit f g) (h : f.coefficients.cells.Consistent) :
    g.coefficients.cells.Consistent := by
  cases change with
  | storeVariable | storeConstraint | writeCells => exact Relation.attempt_consistent h _
  | freeze | currentVariable | currentConstraint | noteOrigin | note => exact h

/-- A constraint is put on record together with the store, under the same key. -/
theorem Change.recorded (change : Change permit f g)
    (h : ∀ entry ∈ f.constrs.entries, f.recordedRhs.get? entry.1 = some entry.2.perennial.rhs) :
    ∀ entry ∈ g.constrs.entries, g.recordedRhs.get? entry.1 = some entry.2.perennial.rhs := by
  cases change with
  | storeConstraint c permitted row =>
      intro entry mem
      rw [OrderedMap.get?_insert]
      rcases Store.mem_set mem with ⟨same, stored⟩ | ⟨different, old⟩
      · rw [if_pos same, stored]
      · rw [if_neg (by simp [different])]
        exact h entry old
  | currentConstraint ref values =>
      intro entry mem
      obtain ⟨old, oldMem, key, same | same⟩ := Store.mem_modify mem
      · rw [key, same]
        exact h old oldMem
      · rw [key, same]
        exact h old oldMem
  | storeVariable | writeCells | freeze | currentVariable | noteOrigin | note => exact h

theorem Change.sound (change : Change permit f g) (h : Sound f) : Sound g where
  kinded := change.allStored Permit.kinded.lasting permit.wellKinded h.kinded
  keyed := change.keyed h.keyed
  cells := change.cells h.cells
  recorded := change.recorded h.recorded

theorem Changes.sound (changes : Changes permit f g) (h : Sound f) : Sound g := by
  induction changes with
  | refl => exact h
  | tail _ change ih => exact change.sound ih

/-- A clone of what a sound formulation holds may be stored. -/
theorem Sound.cloneOne {src : Formulation} (source : Sound src) (sound : Sound f) (mark : Mark)
    (ref : Ref) : Sound (Formulation.cloneOne src f mark ref).state := by
  have kinded : ∀ e, src.element ref = .ok e → e.WellKinded := fun e found =>
    source.kinded.element found
  have changes : Changes Permit.kinded f (Formulation.cloneOne src f mark ref).state :=
    .cloneOne kinded (fun _ _ _ _ => trivial) f mark
  exact changes.sound sound

section Lookups
variable {id : Ident}

theorem element_variable (f : Formulation) (kind : id.kind = .variable) :
    f.element (.ident id) = (f.vars.get id).map .variable := by
  simp only [element, kind]

theorem element_constraint (f : Formulation) (kind : id.kind = .constraint) :
    f.element (.ident id) = (f.constrs.get id).map .constraint := by
  simp only [element, kind]

/-- Both stores are asked for nothing but the identifier. -/
theorem element_congr (id : Ident) (vars : g.vars.get (.ident id) = f.vars.get (.ident id))
    (constrs : g.constrs.get (.ident id) = f.constrs.get (.ident id)) :
    g.element (.ident id) = f.element (.ident id) := by
  simp only [element, vars, constrs]

/-- A variable that is stored is found under every equal identifier, and nothing else changes. -/
theorem element_set_variable {v : Variable} (kind : v.id.kind = .variable)
    (vars : g.vars = f.vars.set v.id v) (constrs : g.constrs = f.constrs) :
    g.element (.ident id) = if v.id == id then .ok (.variable v) else f.element (.ident id) := by
  have look := Store.get_set f.vars (.ident id) rfl v.id v
  by_cases same : (v.id == id) = true
  · rw [if_pos same] at look ⊢
    rw [element_variable g ((Ident.beq_iff.1 same).1.symm.trans kind), vars, look]
    rfl
  · rw [if_neg same] at look ⊢
    refine element_congr id ?_ (constrs ▸ rfl)
    rw [vars, look]

/-- A constraint that is stored is found under every equal identifier, and nothing else changes. -/
theorem element_set_constraint {c : Constraint} {own : Ident} (named : c.id = .ident own)
    (kind : own.kind = .constraint) (constrs : g.constrs = f.constrs.set c.id c)
    (vars : g.vars = f.vars) :
    g.element (.ident id) = if own == id then .ok (.constraint c) else f.element (.ident id) := by
  have look := Store.get_set f.constrs (.ident id) rfl c.id c
  rw [named, Ref.ident_beq_ident, ← named] at look
  by_cases same : (own == id) = true
  · rw [if_pos same] at look ⊢
    rw [element_constraint g ((Ident.beq_iff.1 same).1.symm.trans kind), constrs, look]
    rfl
  · rw [if_neg same] at look ⊢
    refine element_congr id (vars ▸ rfl) ?_
    rw [constrs, look]

/-- What is found under an identifier has an equal identifier of its own. -/
theorem Keyed.element (keyed : Keyed f) {e : Element} (found : f.element (.ident id) = .ok e) :
    (e.id == Ref.ident id) = true := by
  match kind : id.kind with
  | .variable =>
      rw [element_variable f kind] at found
      obtain ⟨v, look, rfl⟩ := Fault.exists_of_map_eq_ok found
      obtain ⟨entry, mem, same, rfl⟩ := OrderedMap.exists_mem_of_get? (Store.get_eq_ok_iff.1 look)
      have own : (entry.2.id == id) = true := BEq.trans (BEq.symm (keyed.ofVariable entry mem)) same
      rw [← Ref.ident_beq_ident] at own
      exact own
  | .constraint =>
      rw [element_constraint f kind] at found
      obtain ⟨c, look, rfl⟩ := Fault.exists_of_map_eq_ok found
      obtain ⟨entry, mem, same, rfl⟩ := OrderedMap.exists_mem_of_get? (Store.get_eq_ok_iff.1 look)
      exact BEq.trans (BEq.symm (keyed.ofConstraint entry mem)) same

/-- Equal identifiers find the same. -/
theorem element_of_beq {x : Ident} (same : (id == x) = true) {e : Element}
    (found : f.element (.ident id) = .ok e) : f.element (.ident x) = .ok e := by
  have kinds : x.kind = id.kind := (Ident.beq_iff.1 same).1.symm
  match kind : id.kind with
  | .variable =>
      rw [element_variable f kind] at found
      obtain ⟨v, look, rfl⟩ := Fault.exists_of_map_eq_ok found
      have here : f.vars.get (Ref.ident x) = .ok v :=
        Store.get_eq_ok_iff.2 ((f.vars.members.get?_congr same).symm.trans
          (Store.get_eq_ok_iff.1 look))
      rw [element_variable f (kinds.trans kind), here]
      rfl
  | .constraint =>
      rw [element_constraint f kind] at found
      obtain ⟨c, look, rfl⟩ := Fault.exists_of_map_eq_ok found
      have alike : (Ref.ident id == Ref.ident x) = true := Ref.ident_beq_ident.trans same
      have here : f.constrs.get (Ref.ident x) = .ok c :=
        Store.get_eq_ok_iff.2 ((f.constrs.members.get?_congr alike).symm.trans
          (Store.get_eq_ok_iff.1 look))
      rw [element_constraint f (kinds.trans kind), here]
      rfl

/-- The variables are what is found among all entities. -/
theorem Sound.find?_vars (sound : Sound f) {ref : Ref} {v : Variable} :
    f.vars.find? ref = some v ↔ f.element ref = .ok (.variable v) := by
  constructor
  · intro found
    obtain ⟨id, named, stored⟩ := Option.bind_eq_some_iff.1 found
    obtain ⟨entry, mem, alike, rfl⟩ := OrderedMap.exists_mem_of_get? stored
    cases ref with
    | other d => cases named
    | ident x =>
        cases named
        have own : (entry.2.id == id) = true :=
          BEq.trans (BEq.symm (sound.keyed.ofVariable entry mem)) alike
        have kind : entry.2.id.kind = .variable := sound.kinded.ofVariable entry mem
        rw [element_variable f ((Ident.beq_iff.1 own).1.symm.trans kind),
          Store.get_eq_ok_iff.2 found]
        rfl
  · intro found
    match ref with
    | .other d => cases found
    | .ident id =>
        match kind : id.kind with
        | .variable =>
            rw [element_variable f kind] at found
            obtain ⟨_, look, same⟩ := Fault.exists_of_map_eq_ok found
            cases same
            exact Store.get_eq_ok_iff.1 look
        | .constraint =>
            rw [element_constraint f kind] at found
            obtain ⟨_, _, same⟩ := Fault.exists_of_map_eq_ok found
            cases same

theorem Sound.find?_constrs (sound : Sound f) {ref : Ref} {c : Constraint} :
    f.constrs.find? ref = some c ↔ f.element ref = .ok (.constraint c) := by
  constructor
  · intro found
    have stored : f.constrs.members.get? ref = some c := found
    obtain ⟨entry, mem, alike, rfl⟩ := OrderedMap.exists_mem_of_get? stored
    have own : (entry.2.id == ref) = true :=
      BEq.trans (BEq.symm (sound.keyed.ofConstraint entry mem)) alike
    obtain ⟨id, named, kind⟩ := sound.kinded.ofConstraint entry mem
    have named : entry.2.id = .ident id := named
    rw [named] at own
    cases ref with
    | other d => rw [Ref.ident_beq_other] at own; cases own
    | ident x =>
        rw [Ref.ident_beq_ident] at own
        rw [element_constraint f ((Ident.beq_iff.1 own).1.symm.trans kind),
          Store.get_eq_ok_iff.2 found]
        rfl
  · intro found
    match ref with
    | .other d => cases found
    | .ident id =>
        match kind : id.kind with
        | .constraint =>
            rw [element_constraint f kind] at found
            obtain ⟨_, look, same⟩ := Fault.exists_of_map_eq_ok found
            cases same
            exact Store.get_eq_ok_iff.1 look
        | .variable =>
            rw [element_variable f kind] at found
            obtain ⟨_, _, same⟩ := Fault.exists_of_map_eq_ok found
            cases same

/-- An entity is found under the reference. -/
def Holds (f : Formulation) (ref : Ref) : Prop := ∃ e, f.element ref = .ok e

theorem holds_variable (kind : id.kind = .variable) :
    f.Holds (.ident id) ↔ ∃ v, f.vars.get id = .ok v := by
  unfold Holds
  rw [element_variable f kind]
  constructor
  · rintro ⟨e, found⟩
    obtain ⟨v, look, _⟩ := Fault.exists_of_map_eq_ok found
    exact ⟨v, look⟩
  · rintro ⟨v, look⟩
    exact ⟨.variable v, by rw [look]; rfl⟩

theorem holds_constraint (kind : id.kind = .constraint) :
    f.Holds (.ident id) ↔ ∃ c, f.constrs.get id = .ok c := by
  unfold Holds
  rw [element_constraint f kind]
  constructor
  · rintro ⟨e, found⟩
    obtain ⟨c, look, _⟩ := Fault.exists_of_map_eq_ok found
    exact ⟨c, look⟩
  · rintro ⟨c, look⟩
    exact ⟨.constraint c, by rw [look]; rfl⟩

/-- A stored entity is found under its own identifier. -/
theorem Keyed.allHeld (keyed : Keyed f) (kinded : Kinded f) :
    AllStored (fun e => f.Holds e.id) f where
  ofVariable entry mem := by
    have look : f.vars.get (Ref.ident entry.2.id) = .ok entry.2 :=
      Store.get_of_mem mem rfl (keyed.ofVariable entry mem)
    exact (holds_variable (kinded.ofVariable entry mem)).2 ⟨entry.2, look⟩
  ofConstraint entry mem := by
    obtain ⟨id, own, kind⟩ := kinded.ofConstraint entry mem
    have look : f.constrs.get entry.2.id = .ok entry.2 :=
      Store.get_of_mem mem rfl (keyed.ofConstraint entry mem)
    change f.Holds entry.2.id
    rw [own] at look ⊢
    exact (holds_constraint kind).2 ⟨entry.2, look⟩

/-- What is found is found after every change. -/
theorem Change.holds {ref : Ref} (change : Change permit f g) (held : f.Holds ref) :
    g.Holds ref := by
  match ref with
  | .other d => exact nomatch held.choose_spec
  | .ident id =>
      match kind : id.kind with
      | .variable =>
          rw [holds_variable kind] at held ⊢
          obtain ⟨v, look⟩ := held
          cases change with
          | storeVariable new _ _ =>
              rw [Store.get_set _ (.ident id) rfl]
              split
              · exact ⟨new, rfl⟩
              · exact ⟨v, look⟩
          | currentVariable => exact Store.exists_get_modify look _ _
          | storeConstraint | writeCells | freeze | currentConstraint | noteOrigin | note =>
              exact ⟨v, look⟩
      | .constraint =>
          rw [holds_constraint kind] at held ⊢
          obtain ⟨c, look⟩ := held
          cases change with
          | storeConstraint new _ _ =>
              rw [Store.get_set _ (.ident id) rfl]
              split
              · exact ⟨new, rfl⟩
              · exact ⟨c, look⟩
          | currentConstraint => exact Store.exists_get_modify look _ _
          | storeVariable | writeCells | freeze | currentVariable | noteOrigin | note =>
              exact ⟨c, look⟩

theorem Changes.holds {ref : Ref} (changes : Changes permit f g) (held : f.Holds ref) :
    g.Holds ref := by
  induction changes with
  | refl => exact held
  | tail _ change ih => exact change.holds ih

/-- An entity that is added is found under every equal reference, and the others stay. -/
theorem element_addElement_eq {new : Element} (kinded : new.WellKinded) (members : Option Values)
    (id : Ident) :
    (f.addElement new members).state.element (.ident id) =
      if new.id == .ident id then .ok new else f.element (.ident id) := by
  rcases new with v | c
  · have same : ((Element.variable v).id == Ref.ident id) = (v.id == id) := Ref.ident_beq_ident
    rw [addElement, addVariable_state, same]
    exact element_set_variable kinded rfl rfl
  · obtain ⟨own, named, kind⟩ := kinded
    have same : ((Element.constraint c).id == Ref.ident id) = (own == id) := by
      change (c.id == Ref.ident id) = _
      rw [named, Ref.ident_beq_ident]
    rw [addElement, addConstraint_state f (named ▸ rfl), same]
    exact element_set_constraint named kind rfl rfl

/-- The addition of an entity that is not there yet leaves all others as they are. -/
theorem element_addElement {ref : Ref} {new e : Element} (kinded : new.WellKinded)
    (fresh : ¬ f.Holds new.id) (found : f.element ref = .ok e) (members : Option Values) :
    (f.addElement new members).state.element ref = .ok e := by
  match ref with
  | .other d => cases found
  | .ident x =>
      obtain ⟨id, own⟩ := kinded.named
      have apart : ¬ (new.id == Ref.ident x) = true := by
        intro same
        refine fresh ⟨e, ?_⟩
        rw [own, Ref.ident_beq_ident] at same
        rw [own]
        exact element_of_beq (BEq.symm same) found
      rw [element_addElement_eq kinded, if_neg apart, found]

/-- Origins that are noted stay, and those that may be noted are added. -/
theorem Change.noted {P : Int × Ident → Prop} (change : Change permit f g)
    (permitted : ∀ origin, permit.notes origin → P origin)
    (h : ∀ note ∈ f.cloneOrigins.entries, P note.2) :
    ∀ note ∈ g.cloneOrigins.entries, P note.2 := by
  cases change with
  | noteOrigin id origin allowed =>
      intro note mem
      rcases OrderedMap.mem_insert mem with ⟨_, same⟩ | ⟨_, old⟩
      · exact same ▸ permitted origin allowed
      · exact h note old
  | storeVariable | storeConstraint | writeCells | freeze | currentVariable | currentConstraint
  | note => exact h

theorem Changes.noted {P : Int × Ident → Prop} (changes : Changes permit f g)
    (permitted : ∀ origin, permit.notes origin → P origin)
    (h : ∀ note ∈ f.cloneOrigins.entries, P note.2) :
    ∀ note ∈ g.cloneOrigins.entries, P note.2 := by
  induction changes with
  | refl => exact h
  | tail _ change ih => exact change.noted permitted ih

theorem Changes.keyed (changes : Changes permit f g) (h : Keyed f) : Keyed g := by
  induction changes with
  | refl => exact h
  | tail _ change ih => exact change.keyed ih

end Lookups

/-- Every history goes from an empty formulation by permitted changes. -/
theorem ReachableBy.changes {permitted : Operation → Prop} (isOpen : permit.Open)
    (gives : ∀ op, permitted op → op.Gives permit.stores) (reached : ReachableBy permitted f) :
    ∃ uid duty parent, Changes permit (.empty uid duty parent) f ∧
      AllStored permit.stores f := by
  induction reached with
  | empty uid duty parent => exact ⟨uid, duty, parent, .refl, allStored_empty _ uid duty parent⟩
  | step _ op allowed _ ih sourceStored =>
      obtain ⟨uid, duty, parent, changes, stored⟩ := ih
      have further := op.changes isOpen (gives op allowed) stored fun g read =>
        (sourceStored g read).choose_spec.choose_spec.choose_spec.2
      exact ⟨uid, duty, parent, changes.trans further,
        further.allStored permit.lasting (fun _ stored => stored) stored⟩

/-- Every history leads to a sound formulation. -/
theorem ReachableBy.sound {permitted : Operation → Prop} (isOpen : permit.Open)
    (gives : ∀ op, permitted op → op.Gives permit.stores) (reached : ReachableBy permitted f) :
    Sound f := by
  obtain ⟨uid, duty, parent, changes, _⟩ := reached.changes isOpen gives
  exact changes.sound (sound_empty uid duty parent)

theorem Reachable.sound (reached : Reachable f) : Sound f :=
  ReachableBy.sound Permit.open_kinded (fun _ => Operation.gives_of_wellKinded) reached

end Formulation

end Decomposition
