import Decomposition.Proofs.Registry.Lineage

namespace Decomposition

/-- The store that an entity goes to. -/
def Element.kind : Element → EntityKind
  | .variable _ => .variable
  | .constraint _ => .constraint

namespace Formulation

/-- The number of entities of a kind. -/
def count (f : Formulation) : EntityKind → Nat
  | .variable => f.vars.size
  | .constraint => f.constrs.size

/-- An entity has been stored: a new identifier comes to the others, and one that is in use loses
the entity that it has stood for. -/
structure Stores (f g : Formulation) (e : Element) : Prop where
  found : g.element e.id = .ok e
  others : ∀ ref, (e.id == ref) = false → g.element ref = f.element ref
  kept : ¬ f.Holds e.id → ∀ ref old, f.element ref = .ok old → g.element ref = .ok old
  grows : ¬ f.Holds e.id → g.count e.kind = f.count e.kind + 1
  replaces : f.Holds e.id → g.count e.kind = f.count e.kind
  otherKind : ∀ kind, kind ≠ e.kind → g.count kind = f.count kind

variable {f : Formulation}

theorem contains_vars_iff {id : Ident} (kind : id.kind = .variable) :
    f.vars.members.contains id = true ↔ f.Holds (.ident id) := by
  have look (v : Variable) :
      f.vars.get (Ref.ident id) = .ok v ↔ f.vars.find? (Ref.ident id) = some v :=
    Store.get_eq_ok_iff
  change ∀ v, _ ↔ f.vars.members.get? id = some v at look
  simp only [holds_variable kind, OrderedMap.contains_eq_isSome, Option.isSome_iff_exists, look]

theorem contains_constrs_iff {id : Ident} (kind : id.kind = .constraint) :
    f.constrs.members.contains (.ident id) = true ↔ f.Holds (.ident id) := by
  have look (c : Constraint) :
      f.constrs.get (Ref.ident id) = .ok c ↔ f.constrs.find? (Ref.ident id) = some c :=
    Store.get_eq_ok_iff
  change ∀ c, _ ↔ f.constrs.members.get? (.ident id) = some c at look
  simp only [holds_constraint kind, OrderedMap.contains_eq_isSome, Option.isSome_iff_exists, look]

/-- A new key brings one entity more, and one that is in use brings none. -/
theorem count_addElement {e : Element} (kinded : e.WellKinded) (members : Option Values)
    (kind : EntityKind) [Decidable (f.Holds e.id)] :
    (f.addElement e members).state.count kind =
      if kind = e.kind ∧ ¬ f.Holds e.id then f.count kind + 1 else f.count kind := by
  rcases e with v | c
  · have held : f.vars.members.contains v.id = true ↔ f.Holds (Element.variable v).id :=
      contains_vars_iff kinded
    have size := f.vars.size_set v.id v
    rw [addElement, addVariable_state]
    cases kind with
    | «variable» => simpa [count, Element.kind, held, ite_not] using size
    | constraint => simp [count, Element.kind]
  · obtain ⟨id, own, kindOf⟩ := kinded
    have held : f.constrs.members.contains c.id = true ↔ f.Holds (Element.constraint c).id := by
      change _ ↔ f.Holds c.id
      rw [own]
      exact contains_constrs_iff kindOf
    have size := f.constrs.size_set c.id c
    rw [addElement, addConstraint_state f (own ▸ rfl)]
    cases kind with
    | «variable» => simp [count, Element.kind]
    | constraint => simpa [count, Element.kind, held, ite_not] using size

theorem stores_addElement {e : Element} (kinded : e.WellKinded) (members : Option Values) :
    Stores f (f.addElement e members).state e := by
  classical
  obtain ⟨id, own⟩ := kinded.named
  constructor
  case found => rw [own, element_addElement_eq kinded, own, if_pos BEq.rfl]
  case others =>
    intro ref apart
    cases ref with
    | other d => rfl
    | ident x => rw [element_addElement_eq kinded, apart, if_neg Bool.false_ne_true]
  case kept => exact fun fresh ref old found => element_addElement kinded fresh found members
  case grows => exact fun fresh => (count_addElement kinded members _).trans (if_pos ⟨rfl, fresh⟩)
  case replaces =>
    exact fun inUse => (count_addElement kinded members _).trans (if_neg fun new => new.2 inUse)
  case otherKind =>
    exact fun kind other =>
      (count_addElement kinded members kind).trans (if_neg fun new => other new.1)

theorem createVariable_returns {uid : Int} {draft : Draft VarData} {column : Option Values}
    {v : Variable} (done : (f.createVariable uid draft column).result = .ok v) :
    v = f.madeVariable uid draft := by
  have mapped : (f.addVariable (f.madeVariable uid draft) column).result.map
      (fun _ => f.madeVariable uid draft) = .ok v := done
  obtain ⟨_, _, made⟩ := Fault.exists_of_map_eq_ok mapped
  exact made.symm

theorem createConstraint_returns {uid : Int} {draft : Draft ConstrData} {row : Option Values}
    {c : Constraint} (done : (f.createConstraint uid draft row).result = .ok c) :
    c = f.madeConstraint uid draft := by
  have mapped : (f.addConstraint (f.madeConstraint uid draft) row).result.map
      (fun _ => f.madeConstraint uid draft) = .ok c := done
  obtain ⟨_, _, made⟩ := Fault.exists_of_map_eq_ok mapped
  exact made.symm

end Formulation

namespace Registry

/-- The uid of the entity is at most the last one that was drawn for its kind. -/
def HasDrawn (r : Registry) (e : Element) : Prop :=
  ∀ id : Ident, e.id = .ident id → id.uid ≤ (r.counter id.kind).value

/-- Entities under uids that have been drawn may be stored. -/
def drawn (r : Registry) : Formulation.Permit where
  stores e := e.WellKinded ∧ r.HasDrawn e
  notes _ := True
  wellKinded _ stored := stored.1
  lasting := ⟨fun _ _ stored => stored, fun _ _ stored => stored⟩
  copies e origin duty form flag stored named := by
    refine ⟨Element.wellKinded_copy stored.1 named duty form flag, fun id own => ?_⟩
    rw [Element.id_copy] at own
    cases own
    exact stored.2 origin (Ref.toIdent_eq_ok_iff.1 named)

/-- What a call on a formulation brings in from elsewhere bears uids that have been drawn. Creations
are left to the registry. -/
def Admits (r : Registry) : Formulation.Operation → Prop
  | .createVariable _ _ _ | .createConstraint _ _ _ => False
  | .cloneFrom source _ refs =>
      ∀ ref ∈ refs, ∀ e, source.element ref = .ok e → r.drawn.stores e
  | op => op.Gives r.drawn.stores

/-- Nothing comes in under a uid that is still to be drawn, as only a creation draws uids. -/
def Operation.BringsDrawn (r : Registry) : Operation → Prop
  | .change _ op => r.Admits op
  | _ => True

/-- The registries of histories in which nothing comes in under a uid that is still to be drawn. A
formulation that has counters of its own counts as the only one of a registry. -/
inductive Supplied : Registry → Prop
  | empty : Supplied .empty
  | alone (uid : Int) (duty : FormDuty) (parent : Option Int) :
      Supplied (Registry.empty.put (.empty uid duty parent))
  | step {r : Registry} (supplied : Supplied r) (op : Operation) (brings : op.BringsDrawn r) :
      Supplied (op.after r)

/-- A formulation whose entities bear drawn uids. -/
structure Enrolled (r : Registry) (uid : Int) (f : Formulation) : Prop where
  named : f.uid = uid
  keyed : f.Keyed
  drawn : f.AllStored r.drawn.stores

/-- All uids in use have been drawn. -/
def Numbered (r : Registry) : Prop := ∀ uid f, r.get uid = .ok f → r.Enrolled uid f

section Steps
variable {r s : Registry} {uid : Int} {f g : Formulation}

theorem drawn_mono (later : ∀ kind, (r.counter kind).value ≤ (s.counter kind).value) {e : Element}
    (stored : r.drawn.stores e) : s.drawn.stores e :=
  ⟨stored.1, fun id own => Int.le_trans (stored.2 id own) (later id.kind)⟩

theorem Enrolled.mono (enrolled : r.Enrolled uid f)
    (later : ∀ kind, (r.counter kind).value ≤ (s.counter kind).value) : s.Enrolled uid f where
  named := enrolled.named
  keyed := enrolled.keyed
  drawn := enrolled.drawn.imp fun _ => drawn_mono later

theorem Enrolled.change (enrolled : r.Enrolled uid f)
    (changes : Formulation.Changes r.drawn f g) : r.Enrolled uid g where
  named := changes.uid_eq.trans enrolled.named
  keyed := changes.keyed enrolled.keyed
  drawn := changes.allStored r.drawn.lasting (fun _ stored => stored) enrolled.drawn

theorem numbered_empty : Numbered .empty := fun _ _ found => nomatch found

theorem counter_put (r : Registry) (f : Formulation) (kind : EntityKind) :
    (r.put f).counter kind = r.counter kind := by
  cases kind <;> rfl

theorem Numbered.put (numbered : Numbered r) (enrolled : r.Enrolled f.uid f) :
    Numbered (r.put f) := by
  have same (kind : EntityKind) : (r.counter kind).value ≤ ((r.put f).counter kind).value :=
    Int.le_of_eq (congrArg Counter.value (counter_put r f kind).symm)
  intro uid g found
  rw [get_put] at found
  split at found
  · rename_i here
    cases found
    exact here ▸ enrolled.mono same
  · exact (numbered uid g found).mono same

theorem enrolled_empty (r : Registry) (uid : Int) (duty : FormDuty) (parent : Option Int) :
    r.Enrolled uid (.empty uid duty parent) where
  named := rfl
  keyed := (Formulation.sound_empty uid duty parent).keyed
  drawn := Formulation.allStored_empty _ uid duty parent

theorem Numbered.draw (numbered : Numbered r) (kind : EntityKind) : Numbered (r.draw kind) := by
  intro uid f found
  rw [get_draw] at found
  exact (numbered uid f found).mono (counter_le_draw r kind)

theorem Numbered.drawForm (numbered : Numbered r) : Numbered r.drawForm := by
  intro uid f found
  exact (numbered uid f found).mono fun kind => by cases kind <;> exact Int.le_refl _

/-- One formulation is changed, and stores nothing but what bears a drawn uid. -/
theorem Numbered.onForm {α : Type} (numbered : Numbered r) (form : Int)
    {change : Formulation → Outcome Formulation α}
    (changes : ∀ f, r.get form = .ok f → Formulation.Changes r.drawn f (change f).state) :
    Numbered (r.onForm form change).state := by
  rcases r.onForm_state form change with same | ⟨f, found, same⟩
  · rw [same]
    exact numbered
  · rw [same]
    have enrolled := (numbered form f found).change (changes f found)
    exact numbered.put (enrolled.named.symm ▸ enrolled)

/-- A creation stores its entity under the uid that it has drawn. -/
theorem Numbered.create {α : Type} (numbered : Numbered r) {kind : EntityKind} {form : Int}
    {creation : Formulation → Outcome Formulation α} {made : Formulation → Element}
    {members : Option Values} (new : ∀ f, r.New kind (made f))
    (adds : ∀ f, (creation f).state = (f.addElement (made f) members).state) :
    Numbered ((r.draw kind).onForm form creation).state := by
  refine (numbered.draw kind).onForm form fun f _ => ?_
  have permitted : (r.draw kind).drawn.stores (made f) := by
    refine ⟨(new f).kinded, fun id own => ?_⟩
    obtain ⟨other, named, rfl, uid⟩ := (new f).named
    rw [named] at own
    cases own
    refine Int.le_of_eq ?_
    rw [uid, counter_draw]
  rw [adds]
  exact .addElement permitted members

theorem Numbered.clone (numbered : Numbered r) (source dest : Int) (mark : Formulation.Mark)
    (refs : List Ref) : Numbered (r.clone source dest mark refs).state := by
  unfold Registry.clone
  split
  · exact numbered.onForm dest fun f found =>
      .cloneWithin (numbered dest f found).drawn (fun _ _ _ _ => trivial) mark refs
  · cases origin : r.get source with
    | error fault => exact numbered
    | ok src =>
        exact numbered.onForm dest fun f _ =>
          .cloneInto (numbered source src origin).drawn (fun _ _ _ _ => trivial) f mark refs

theorem changes_of_admits {op : Formulation.Operation} (admitted : r.Admits op)
    (own : f.AllStored r.drawn.stores) :
    Formulation.Changes r.drawn f (op.after f) := by
  have notes (source : Int) : r.drawn.NotesFrom source := fun _ _ _ _ => trivial
  cases op with
  | add given membership => exact .add admitted membership
  | addAll elements memberships => exact .addAll admitted memberships
  | createVariable | createConstraint => exact admitted.elim
  | cloneElement source e mark => exact .cloneElement (notes source) admitted mark
  | cloneFrom source mark refs => exact .cloneListed admitted (notes source.uid) f mark
  | cloneWithin mark refs => exact .cloneWithin own (notes f.uid) mark refs
  | _ => exact Formulation.Operation.Quiet.changes trivial

theorem Numbered.after (numbered : Numbered r) {op : Operation} (brings : op.BringsDrawn r) :
    Numbered (op.after r) := by
  cases op with
  | newFormulation duty parent =>
      rw [Operation.after]
      split
      · rename_i next form done
        obtain ⟨owner, rfl⟩ := exists_of_newFormulation done
        exact numbered.drawForm.put (enrolled_empty _ _ duty owner)
      · exact numbered
  | createVariable form draft column =>
      rw [Operation.after, createVariable_eq]
      exact numbered.create (fun f => r.new_madeVariable f draft) fun f =>
        f.createVariable_state _ draft column
  | createConstraint form draft row =>
      rw [Operation.after, createConstraint_eq]
      exact numbered.create (fun f => r.new_madeConstraint f draft) fun f =>
        f.createConstraint_state _ draft row
  | clone source dest mark refs => exact numbered.clone source dest mark refs
  | change form op =>
      exact numbered.onForm form fun f found =>
        changes_of_admits brings (numbered form f found).drawn

theorem Supplied.numbered (supplied : Supplied r) : Numbered r := by
  induction supplied with
  | empty => exact numbered_empty
  | alone uid duty parent => exact numbered_empty.put (enrolled_empty _ uid duty parent)
  | step _ op brings ih => exact ih.after brings

/-- The uid that is drawn next is greater than every uid in use. -/
theorem Enrolled.not_holds (enrolled : r.Enrolled uid f) {id : Ident}
    (next : id.uid = (r.counter id.kind).next.value) : ¬ f.Holds (.ident id) := by
  rintro ⟨e, held⟩
  obtain ⟨kinded, drawn⟩ := enrolled.drawn.element held
  obtain ⟨own, named⟩ := kinded.named
  have same := enrolled.keyed.element held
  rw [named, Ref.ident_beq_ident, Ident.beq_iff] at same
  have bound := drawn own named
  rw [same.1, same.2, next] at bound
  exact Int.not_lt.2 bound (Int.lt_succ _)

/-- The entity of a creation is stored in the formulation. -/
theorem get_create {α : Type} {kind : EntityKind} {form : Int}
    {creation : Formulation → Outcome Formulation α} {e : Element} {members : Option Values}
    (found : r.get form = .ok f) (named : f.uid = form) (new : r.New kind e)
    (adds : (creation f).state = (f.addElement e members).state) :
    ∃ g, ((r.draw kind).onForm form creation).state.get form = .ok g ∧ f.Stores g e := by
  refine ⟨(creation f).state, ?_, ?_⟩
  · have look := (get_draw r kind form).trans found
    have changes : Formulation.Changes .kinded f (f.addElement e members).state :=
      .addElement new.kinded members
    rw [onForm_of_get look, get_put, adds, changes.uid_eq, if_pos named]
  · rw [adds]
    exact Formulation.stores_addElement new.kinded members

theorem createVariable_stores {form : Int} (found : r.get form = .ok f) (named : f.uid = form)
    (draft : Formulation.Draft VarData) (column : Option Values) :
    let v := f.madeVariable (r.counter .variable).next.value draft
    let done := r.createVariable form draft column
    (∃ g, done.state.get form = .ok g ∧ f.Stores g (.variable v)) ∧
      ∀ returned, done.result = .ok returned → returned = v := by
  intro v done
  have look := (get_draw r .variable form).trans found
  have drawn : done = _ := r.createVariable_eq form draft column
  rw [drawn]
  constructor
  · exact get_create found named (r.new_madeVariable f draft)
      (f.createVariable_state _ draft column)
  · intro returned ended
    rw [onForm_of_get look] at ended
    exact Formulation.createVariable_returns ended

theorem createConstraint_stores {form : Int} (found : r.get form = .ok f) (named : f.uid = form)
    (draft : Formulation.Draft ConstrData) (row : Option Values) :
    let c := f.madeConstraint (r.counter .constraint).next.value draft
    let done := r.createConstraint form draft row
    (∃ g, done.state.get form = .ok g ∧ f.Stores g (.constraint c)) ∧
      ∀ returned, done.result = .ok returned → returned = c := by
  intro c done
  have look := (get_draw r .constraint form).trans found
  have drawn : done = _ := r.createConstraint_eq form draft row
  rw [drawn]
  constructor
  · exact get_create found named (r.new_madeConstraint f draft)
      (f.createConstraint_state _ draft row)
  · intro returned ended
    rw [onForm_of_get look] at ended
    exact Formulation.createConstraint_returns ended

/-- A creation stores its entity under the next uid. That uid is new, and nothing is lost, as long
as all that has come from elsewhere came with uids that were drawn before. An entity that bears the
uid otherwise is replaced. -/
theorem creations_store {form : Int} (found : r.get form = .ok f) (named : f.uid = form) :
    (∀ draft column,
      let v := f.madeVariable (r.counter .variable).next.value draft
      let done := r.createVariable form draft column
      (∃ g, done.state.get form = .ok g ∧ f.Stores g (.variable v)) ∧
        ∀ returned, done.result = .ok returned → returned = v) ∧
    (∀ draft row,
      let c := f.madeConstraint (r.counter .constraint).next.value draft
      let done := r.createConstraint form draft row
      (∃ g, done.state.get form = .ok g ∧ f.Stores g (.constraint c)) ∧
        ∀ returned, done.result = .ok returned → returned = c) ∧
    (r.Supplied → ∀ id : Ident, id.uid = (r.counter id.kind).next.value →
      ¬ f.Holds (.ident id)) :=
  ⟨createVariable_stores found named, createConstraint_stores found named,
    fun supplied _ next => (supplied.numbered form f found).not_holds next⟩

end Steps

/-- A variable is created in the first formulation, and a variable of the same uid is given to the
second one. -/
def suppliedRegistry : Registry :=
  [Operation.newFormulation .dwMaster none, .newFormulation .dwSp none,
    .createVariable 1 ⟨"x", .masterPureVar, .plain, .static⟩ none,
    .change 2 (.add (.element (.variable (Entity.make (.ofVar 1) "y" .plain .static)))
      none)].foldl Operation.after .empty

theorem supplied_suppliedRegistry : suppliedRegistry.Supplied := by
  have master := Supplied.empty.step (.newFormulation .dwMaster none) trivial
  have subproblem := master.step (.newFormulation .dwSp none) trivial
  have created :=
    subproblem.step (.createVariable 1 ⟨"x", .masterPureVar, .plain, .static⟩ none) trivial
  refine created.step (.change 2 (.add (.element (.variable _)) none)) ⟨rfl, ?_⟩
  rintro id ⟨⟩
  decide

/-- The next variable of the second formulation comes to the one that was given. -/
theorem creations_store_suppliedRegistry :
    suppliedRegistry.Supplied ∧
      ∃ f g, suppliedRegistry.get 2 = .ok f ∧ f.uid = 2 ∧ f.Holds (Ident.ofVar 1) ∧
        (suppliedRegistry.createVariable 2 ⟨"z", .dwSpPricingVar, .plain, .static⟩ none).state.get 2
          = .ok g ∧
        ¬ f.Holds (f.freshIdent .variable 2 .dwSpPricingVar) ∧
        g.Holds (f.freshIdent .variable 2 .dwSpPricingVar) ∧
        g.Holds (Ident.ofVar 1) ∧ g.count .variable = 2 := by
  obtain ⟨f, found, named, ⟨e, old⟩, one⟩ : ∃ f, suppliedRegistry.get 2 = .ok f ∧ f.uid = 2 ∧
      f.Holds (Ident.ofVar 1) ∧ f.count .variable = 1 := ⟨_, rfl, rfl, ⟨_, rfl⟩, rfl⟩
  obtain ⟨creates, _, fresh⟩ := creations_store found named
  have new : ¬ f.Holds (f.freshIdent .variable 2 .dwSpPricingVar) :=
    fresh supplied_suppliedRegistry (f.freshIdent .variable 2 .dwSpPricingVar) rfl
  obtain ⟨⟨g, here, stores⟩, _⟩ := creates ⟨"z", .dwSpPricingVar, .plain, .static⟩ none
  have grown : g.count .variable = f.count .variable + 1 := stores.grows new
  rw [one] at grown
  exact ⟨supplied_suppliedRegistry, f, g, found, named, ⟨e, old⟩, here, new, ⟨_, stores.found⟩,
    ⟨e, stores.kept new _ e old⟩, grown⟩

/-- A formulation by itself, to which a variable is given under the uid that is drawn next. -/
def crowdedRegistry : Registry :=
  (Operation.change 1
    (.add (.element (.variable (Entity.make (.ofVar 1) "x" .plain .static))) none)).after
    (Registry.empty.put (.empty 1 .compact none))

/-- The created variable takes the place of the one that was given. -/
theorem creation_replaces :
    ∃ f g created given left,
      crowdedRegistry.get 1 = .ok f ∧
      (crowdedRegistry.createVariable 1 ⟨"y", .compactVar, .plain, .static⟩ none).result
        = .ok created ∧
      (crowdedRegistry.createVariable 1 ⟨"y", .compactVar, .plain, .static⟩ none).state.get 1
        = .ok g ∧
      f.vars.get (.ident created.id) = .ok given ∧ given.name = "x" ∧
      g.vars.get (.ident given.id) = .ok left ∧ left.name = "y" ∧
      f.vars.size = 1 ∧ g.vars.size = 1 :=
  ⟨_, _, _, _, _, rfl, rfl, rfl, rfl, rfl, rfl, rfl, rfl, rfl⟩

end Registry

end Decomposition
