import Decomposition.Proofs.Registry.Book

namespace Decomposition.Registry

/-- The counter that uids of the kind are drawn from. -/
def counter (r : Registry) : EntityKind → Counter
  | .variable => r.varCounter
  | .constraint => r.constrCounter

/-- The registry after one more uid of the kind has been drawn. -/
def draw (r : Registry) : EntityKind → Registry
  | .variable => { r with varCounter := r.varCounter.next }
  | .constraint => { r with constrCounter := r.constrCounter.next }

/-- The registry after one more uid of a formulation has been drawn. -/
def drawForm (r : Registry) : Registry := { r with formCounter := r.formCounter.next }

/-- A formulation of the registry holds the entity. -/
def Holds (r : Registry) (origin : Int × Ident) : Prop :=
  ∃ f, r.get origin.1 = .ok f ∧ f.Holds (.ident origin.2)

/-- The entities of all formulations are found as they were. -/
def Keeps (r s : Registry) : Prop :=
  ∀ uid f, r.get uid = .ok f →
    ∃ g, s.get uid = .ok g ∧ ∀ ref e, f.element ref = .ok e → g.element ref = .ok e

/-- The records of one formulation of a registry. -/
structure Member (r : Registry) (book : Book) (uid : Int) (f : Formulation) : Prop where
  named : f.uid = uid
  drawn : uid ≤ r.formCounter.value
  keyed : f.Keyed
  known : f.AllStored book.Knows
  traced : ∀ note ∈ f.cloneOrigins.entries, r.Holds note.2

/-- The book has the lineages of all entities, and none for uids that are not drawn yet. -/
structure Kept (book : Book) (r : Registry) : Prop where
  unwritten : ∀ kind uid, (r.counter kind).value < uid → book kind uid = none
  members : ∀ uid f, r.get uid = .ok f → r.Member book uid f

/-- A new entity under a uid that is drawn for it. -/
structure New (r : Registry) (kind : EntityKind) (e : Element) : Prop where
  kinded : e.WellKinded
  named : ∃ id : Ident, e.id = .ident id ∧ id.kind = kind ∧ id.uid = (r.counter kind).next.value

theorem createVariable_eq (r : Registry) (form : Int) (draft : Formulation.Draft VarData)
    (column : Option Values) :
    r.createVariable form draft column = (r.draw .variable).onForm form
      (·.createVariable (r.counter .variable).next.value draft column) := rfl

theorem createConstraint_eq (r : Registry) (form : Int) (draft : Formulation.Draft ConstrData)
    (row : Option Values) :
    r.createConstraint form draft row = (r.draw .constraint).onForm form
      (·.createConstraint (r.counter .constraint).next.value draft row) := rfl

theorem new_madeVariable (r : Registry) (f : Formulation) (draft : Formulation.Draft VarData) :
    r.New .variable (.variable (f.madeVariable (r.counter .variable).next.value draft)) where
  kinded := rfl
  named := ⟨f.freshIdent .variable _ draft.duty, rfl, rfl, rfl⟩

theorem new_madeConstraint (r : Registry) (f : Formulation)
    (draft : Formulation.Draft ConstrData) :
    r.New .constraint (.constraint (f.madeConstraint (r.counter .constraint).next.value draft))
    where
  kinded := ⟨f.freshIdent .constraint _ draft.duty, rfl, rfl⟩
  named := ⟨f.freshIdent .constraint _ draft.duty, rfl, rfl, rfl⟩

section Steps
variable {book later : Book} {r s : Registry} {uid : Int} {f g : Formulation}

theorem Member.mono (member : r.Member book uid f) (knows : ∀ e, book.Knows e → later.Knows e)
    (holds : ∀ origin, r.Holds origin → s.Holds origin)
    (drawn : r.formCounter.value ≤ s.formCounter.value) : s.Member later uid f where
  named := member.named
  drawn := Int.le_trans member.drawn drawn
  keyed := member.keyed
  known := member.known.imp knows
  traced note mem := holds note.2 (member.traced note mem)

/-- Permitted changes keep the records of the formulation. -/
theorem Member.change {permit : Formulation.Permit} (member : r.Member book uid f)
    (changes : Formulation.Changes permit f g) (stores : ∀ e, permit.stores e → book.Knows e)
    (notes : ∀ origin, permit.notes origin → r.Holds origin) : r.Member book uid g where
  named := changes.uid_eq.trans member.named
  drawn := member.drawn
  keyed := changes.keyed member.keyed
  known := changes.allStored Book.Knows.lasting stores member.known
  traced := changes.noted notes member.traced

theorem kept_empty : Kept (fun _ _ => none) .empty where
  unwritten _ _ _ := rfl
  members _ _ found := nomatch found

theorem counter_le_draw (r : Registry) (kind other : EntityKind) :
    (r.counter other).value ≤ ((r.draw kind).counter other).value := by
  cases kind <;> cases other <;> first | exact Int.le_refl _ | exact Int.le_of_lt (Int.lt_succ _)

theorem counter_draw (r : Registry) (kind : EntityKind) :
    (r.draw kind).counter kind = (r.counter kind).next := by
  cases kind <;> rfl

theorem get_draw (r : Registry) (kind : EntityKind) (uid : Int) :
    (r.draw kind).get uid = r.get uid := by
  cases kind <;> rfl

theorem get_drawForm (r : Registry) (uid : Int) : r.drawForm.get uid = r.get uid := rfl

theorem holds_draw (kind : EntityKind) {origin : Int × Ident} (held : r.Holds origin) :
    (r.draw kind).Holds origin := by
  obtain ⟨f, found, holds⟩ := held
  exact ⟨f, (get_draw r kind _).trans found, holds⟩

theorem formCounter_draw (r : Registry) (kind : EntityKind) :
    (r.draw kind).formCounter = r.formCounter := by
  cases kind <;> rfl

theorem Kept.draw (kept : Kept book r) (kind : EntityKind) : Kept book (r.draw kind) where
  unwritten other uid above :=
    kept.unwritten other uid (Int.lt_of_le_of_lt (counter_le_draw r kind other) above)
  members uid f found := by
    rw [get_draw] at found
    exact (kept.members uid f found).mono (fun _ known => known) (fun _ => holds_draw kind)
      (Int.le_of_eq (congrArg Counter.value (formCounter_draw r kind).symm))

/-- The uid that is drawn next has no lineage yet. -/
theorem Kept.unwritten_next (kept : Kept book r) (kind : EntityKind) :
    book kind (r.counter kind).next.value = none :=
  kept.unwritten kind _ (Int.lt_succ _)

/-- A drawn uid is given to a new entity. -/
theorem Kept.enter (kept : Kept book r) {id : Ident}
    (new : id.uid = (r.counter id.kind).next.value) (lineage : Lineage) :
    Kept (book.enter id lineage) (r.draw id.kind) where
  unwritten kind uid above := by
    rw [Book.enter, if_neg]
    · exact (kept.draw id.kind).unwritten kind uid above
    · rintro ⟨rfl, rfl⟩
      rw [counter_draw, ← new] at above
      exact Int.lt_irrefl _ above
  members uid f found := by
    have fresh : book id.kind id.uid = none := new ▸ kept.unwritten_next id.kind
    exact ((kept.draw id.kind).members uid f found).mono
      (fun _ known => known.enter fresh lineage) (fun _ held => held) (Int.le_refl _)

/-- A formulation takes the place of the one that it has come from by permitted changes. -/
theorem Kept.put {permit : Formulation.Permit} (kept : Kept book r) (found : r.get uid = .ok f)
    (changes : Formulation.Changes permit f g) (stores : ∀ e, permit.stores e → book.Knows e)
    (notes : ∀ origin, permit.notes origin → r.Holds origin) : Kept book (r.put g) := by
  have changed := (kept.members uid f found).change changes stores notes
  -- Origins in the changed formulation are still there, since nothing is deleted.
  have holds (origin : Int × Ident) (held : r.Holds origin) : (r.put g).Holds origin := by
    obtain ⟨source, look, there⟩ := held
    by_cases here : g.uid = origin.1
    · rw [← here, changed.named, found] at look
      cases look
      exact ⟨g, by rw [get_put, if_pos here], changes.holds there⟩
    · exact ⟨source, by rw [get_put, if_neg here, look], there⟩
  refine ⟨kept.unwritten, fun other next look => ?_⟩
  rw [get_put] at look
  split at look
  · rename_i here
    cases look
    rw [← here, changed.named]
    exact changed.mono (fun _ known => known) holds (Int.le_refl _)
  · exact (kept.members other next look).mono (fun _ known => known) holds (Int.le_refl _)

theorem exists_of_newFormulation {duty : FormDuty} {parent : Option Parent} {next : Registry}
    {form : Formulation} (done : r.newFormulation duty parent = .ok (next, form)) :
    ∃ owner, next = r.drawForm.put (.empty r.formCounter.next.value duty owner) := by
  obtain ⟨owner, _, made⟩ := Fault.exists_of_map_eq_ok done
  exact ⟨owner, (congrArg Prod.fst made).symm⟩

/-- A new formulation has a new uid and is empty. -/
theorem Kept.putEmpty (kept : Kept book r) (duty : FormDuty) (owner : Option Int) :
    Kept book (r.drawForm.put (.empty r.formCounter.next.value duty owner)) := by
  have keyed := (Formulation.sound_empty r.formCounter.next.value duty owner).keyed
  have known := Formulation.allStored_empty book.Knows r.formCounter.next.value duty owner
  have untraced : (Formulation.empty r.formCounter.next.value duty owner).cloneOrigins = .empty :=
    rfl
  have uid_eq : (Formulation.empty r.formCounter.next.value duty owner).uid =
    r.formCounter.next.value := rfl
  generalize Formulation.empty r.formCounter.next.value duty owner = form at *
  have holds (origin : Int × Ident) (held : r.Holds origin) :
      (r.drawForm.put form).Holds origin := by
    obtain ⟨source, look, there⟩ := held
    have old : form.uid ≠ origin.1 := by
      rw [uid_eq]
      exact Int.ne_of_gt (Int.lt_of_le_of_lt (kept.members _ _ look).drawn (Int.lt_succ _))
    exact ⟨source, by rw [get_put, if_neg old, get_drawForm, look], there⟩
  refine ⟨kept.unwritten, fun other f look => ?_⟩
  rw [get_put] at look
  split at look
  · rename_i here
    cases look
    exact
      { named := here
        drawn := by rw [← here, uid_eq]; exact Int.le_refl _
        keyed := keyed
        known := known
        traced := fun note mem => by rw [untraced] at mem; cases mem }
  · exact (kept.members other f look).mono (fun _ known => known) holds
      (Int.le_of_lt (Int.lt_succ _))

/-- A new entity is entered in the book and stored. -/
theorem Kept.addElement (kept : Kept book r) {kind : EntityKind} {e : Element}
    (new : r.New kind e) (found : r.get uid = .ok f) (members : Option Values) :
    ∃ later, Kept later ((r.draw kind).put (f.addElement e members).state) := by
  obtain ⟨id, own, rfl, drawn⟩ := new.named
  have known : (book.enter id e.lineage).Knows e := Book.knows_entered new.kinded own
  have changes : Formulation.Changes (book.enter id e.lineage).entries f
      (f.addElement e members).state := .addElement known members
  have look := (get_draw r id.kind uid).trans found
  exact ⟨_, (kept.enter drawn e.lineage).put look changes (fun _ known => known)
    fun _ never => False.elim never⟩

/-- A creation in any formulation, also in one that does not exist. -/
theorem Kept.create {α : Type} (kept : Kept book r) {kind : EntityKind} {form : Int}
    {creation : Formulation → Outcome Formulation α} {made : Formulation → Element}
    {members : Option Values} (new : ∀ f, r.New kind (made f))
    (adds : ∀ f, (creation f).state = (f.addElement (made f) members).state) :
    ∃ later, Kept later ((r.draw kind).onForm form creation).state := by
  rcases (r.draw kind).onForm_state form creation with same | ⟨f, found, same⟩
  · rw [same]
    exact ⟨book, kept.draw kind⟩
  · rw [get_draw] at found
    rw [same, adds]
    exact kept.addElement (new f) found members

/-- Clones descend from entities that the source holds. -/
theorem Kept.clone (kept : Kept book r) (source dest : Int) (mark : Formulation.Mark)
    (refs : List Ref) : Kept book (r.clone source dest mark refs).state := by
  have noted {origin : Formulation} (found : r.get source = .ok origin) (place : Int × Ident)
      (permitted : (book.clones origin).notes place) : r.Holds place := by
    have here : place.1 = source := permitted.1.trans (kept.members source origin found).named
    exact ⟨origin, here ▸ found, permitted.2⟩
  have stored {origin : Formulation} (found : r.get source = .ok origin) :=
    Book.allStored_clones (kept.members source origin found).keyed
      (kept.members source origin found).known
  unfold Registry.clone
  split
  · rename_i same
    -- The source changes with every clone, but what it gains descends from what it held at first.
    rcases r.onForm_state dest (·.cloneWithin mark refs) with left | ⟨f, found, left⟩
    · rw [left]
      exact kept
    · rw [left]
      have origin : r.get source = .ok f := same ▸ found
      have changes := Formulation.Changes.cloneWithin (stored origin)
        (book.notesFrom_clones f) mark refs
      exact kept.put found changes (fun _ permitted => permitted.1) (noted origin)
  · cases origin : r.get source with
    | error fault => exact kept
    | ok src =>
        rcases r.onForm_state dest (fun target => src.cloneInto target mark refs) with
          left | ⟨f, found, left⟩
        · rw [left]
          exact kept
        · rw [left]
          have changes := Formulation.Changes.cloneInto (stored origin)
            (book.notesFrom_clones src) f mark refs
          exact kept.put found changes (fun _ permitted => permitted.1) (noted origin)

/-- What stores no entity leaves the lineages as they are. -/
theorem Kept.change (kept : Kept book r) (form : Int) {op : Formulation.Operation}
    (quiet : op.Quiet) : Kept book ((Operation.change form op).after r) := by
  rcases r.onForm_state form (fun f => .ok (op.after f) ()) with left | ⟨f, found, left⟩
  · rw [Operation.after, left]
    exact kept
  · rw [Operation.after, left]
    have changes : Formulation.Changes book.entries f (op.after f) := quiet.changes
    exact kept.put found changes (fun _ known => known) fun _ never => False.elim never

/-- Every operation leaves a book to be kept. -/
theorem Kept.after (kept : Kept book r) {op : Operation} (quiet : op.Quiet) :
    ∃ later, Kept later (op.after r) := by
  cases op with
  | newFormulation duty parent =>
      rw [Operation.after]
      split
      · rename_i next form done
        obtain ⟨owner, made⟩ := exists_of_newFormulation done
        exact ⟨book, made ▸ kept.putEmpty duty owner⟩
      · exact ⟨book, kept⟩
  | createVariable form draft column =>
      rw [Operation.after, createVariable_eq]
      exact kept.create (fun f => r.new_madeVariable f draft) fun f =>
        f.createVariable_state _ draft column
  | createConstraint form draft row =>
      rw [Operation.after, createConstraint_eq]
      exact kept.create (fun f => r.new_madeConstraint f draft) fun f =>
        f.createConstraint_state _ draft row
  | clone source dest mark refs => exact ⟨book, kept.clone source dest mark refs⟩
  | change form op => exact ⟨book, kept.change form quiet⟩

theorem Reachable.kept (reached : Reachable r) : ∃ book, Kept book r := by
  induction reached with
  | empty => exact ⟨_, kept_empty⟩
  | step _ op quiet ih =>
      obtain ⟨book, kept⟩ := ih
      exact kept.after quiet

/-- The uid that is drawn next belongs to no entity of its kind. -/
theorem Kept.not_holds (kept : Kept book r) {id : Ident} (found : r.get uid = .ok f)
    (next : id.uid = (r.counter id.kind).next.value) : ¬ f.Holds (.ident id) := by
  rintro ⟨e, held⟩
  have member := kept.members uid f found
  have written := (member.known.element held).lineage (member.keyed.element held)
  rw [next, kept.unwritten_next] at written
  cases written

/-- Entities of equal identifiers are of one lineage. -/
theorem Kept.lineage_eq (kept : Kept book r) {other : Int} {ref ref' : Ref} {e e' : Element}
    (found : r.get uid = .ok f) (foundOther : r.get other = .ok g)
    (held : f.element ref = .ok e) (heldOther : g.element ref' = .ok e')
    (same : (e.id == e'.id) = true) : e.lineage = e'.lineage := by
  have known := (kept.members uid f found).known.element held
  have knownOther := (kept.members other g foundOther).known.element heldOther
  obtain ⟨id, own⟩ := knownOther.kinded.named
  rw [own] at same
  have writtenOther := knownOther.written id own
  rw [known.lineage same] at writtenOther
  exact Option.some.inj writtenOther

/-- A creation leaves all entities as they are. -/
theorem Kept.keeps_create {α : Type} (kept : Kept book r) {kind : EntityKind} {form : Int}
    {creation : Formulation → Outcome Formulation α} {made : Formulation → Element}
    {members : Option Values} (new : ∀ f, r.New kind (made f))
    (adds : ∀ f, (creation f).state = (f.addElement (made f) members).state) :
    r.Keeps ((r.draw kind).onForm form creation).state := by
  intro uid f found
  rcases (r.draw kind).onForm_state form creation with same | ⟨target, look, same⟩
  · rw [same]
    exact ⟨f, (get_draw r kind uid).trans found, fun _ _ held => held⟩
  · rw [get_draw] at look
    rw [same, adds]
    have changes : Formulation.Changes .kinded target
        (target.addElement (made target) members).state := .addElement (new target).kinded members
    have named := changes.uid_eq.trans (kept.members form target look).named
    rw [get_put]
    split
    · rename_i here
      rw [← here, named, look] at found
      cases found
      obtain ⟨id, own, kind, next⟩ := (new f).named
      have fresh : ¬ f.Holds (made f).id := by
        rw [own]
        exact kept.not_holds look (kind ▸ next)
      exact ⟨_, rfl, fun ref e held =>
        Formulation.element_addElement (new f).kinded fresh held members⟩
    · exact ⟨f, (get_draw r kind uid).trans found, fun _ _ held => held⟩

/-- Uids of one kind are drawn once in a registry: the next one belongs to no entity, so that a
creation leaves every entity as it is. All entities of one uid have the name, the formulation of
origin and the perennial record in common, and the origins of clones are where they are said to
be. -/
theorem lineages_of_reachable (reached : Reachable r) :
    (∀ uid f id, r.get uid = .ok f → id.uid = (r.counter id.kind).next.value →
      ¬ f.Holds (.ident id)) ∧
    (∀ form draft column,
      r.Keeps (r.createVariable form draft column).state ∧
      ∀ v, (r.createVariable form draft column).result = .ok v →
        v.id.kind = .variable ∧ v.id.uid = (r.counter .variable).next.value) ∧
    (∀ form draft row,
      r.Keeps (r.createConstraint form draft row).state ∧
      ∀ c, (r.createConstraint form draft row).result = .ok c → ∃ id : Ident,
        c.id = .ident id ∧ id.kind = .constraint ∧
          id.uid = (r.counter .constraint).next.value) ∧
    (∀ uid f other g ref ref' e e', r.get uid = .ok f → r.get other = .ok g →
      f.element ref = .ok e → g.element ref' = .ok e' → (e.id == e'.id) = true →
      e.lineage = e'.lineage) ∧
    ∀ uid f, r.get uid = .ok f → ∀ note ∈ f.cloneOrigins.entries, r.Holds note.2 := by
  obtain ⟨book, kept⟩ := reached.kept
  refine ⟨fun uid f id found next => kept.not_holds found next, fun form draft column => ?_,
    fun form draft row => ?_, fun uid f other g ref ref' e e' => kept.lineage_eq, fun uid f found =>
      (kept.members uid f found).traced⟩
  · rw [createVariable_eq]
    refine ⟨kept.keeps_create (fun f => r.new_madeVariable f draft) fun f =>
      f.createVariable_state _ draft column, fun v done => ?_⟩
    obtain ⟨f, made⟩ := exists_of_onForm_eq_ok done
    obtain ⟨_, _, rfl⟩ := Fault.exists_of_map_eq_ok made
    exact ⟨rfl, rfl⟩
  · rw [createConstraint_eq]
    refine ⟨kept.keeps_create (fun f => r.new_madeConstraint f draft) fun f =>
      f.createConstraint_state _ draft row, fun c done => ?_⟩
    obtain ⟨f, made⟩ := exists_of_onForm_eq_ok done
    obtain ⟨_, _, rfl⟩ := Fault.exists_of_map_eq_ok made
    exact ⟨f.freshIdent .constraint _ draft.duty, rfl, rfl, rfl⟩

end Steps

/-- A variable is cloned from the first formulation into the second, the clone into the third, and
this one back over its first origin, while current values change. -/
def smallRegistry : Registry :=
  [Operation.newFormulation .compact none, .newFormulation .dwMaster (some (.own 1)),
    .newFormulation .dwSp (some (.own 2)),
    .createVariable 1 ⟨"open", .compactVar, { VarData.plain with kind := .binary, ub := 5 },
      .static⟩ none,
    .createConstraint 2 ⟨"", .masterPureConstr, .plain, .static⟩
      (some (.ofList [(Ident.ofVar 1, 2)])),
    .clone 1 2 ⟨.dynamic, .masterPureVar⟩ [Ident.ofVar 1],
    .change 2 (.setBounds (Ident.ofVar 1) (some (-3)) none),
    .clone 2 3 ⟨.dynamic, .dwSpPricingVar⟩ [Ident.ofVar 1, Ident.ofConstr 1],
    .change 3 (.reset none),
    .clone 3 1 ⟨.static, .compactVar⟩ [Ident.ofVar 1]].foldl Operation.after .empty

theorem lineages_smallRegistry :
    Reachable smallRegistry ∧ (smallRegistry.counter .variable).next.value = 2 ∧
      ∃ first third v w,
        smallRegistry.get 1 = .ok first ∧ smallRegistry.get 3 = .ok third ∧
          first.element (Ident.ofVar 1) = .ok v ∧ third.element (Ident.ofVar 1) = .ok w ∧
          v.lineage = w.lineage ∧ ¬ first.Holds (Ident.ofVar 2) ∧
          first.cloneOrigins.entries.map (fun note => (note.2.1, note.2.2.uid)) = [(3, 1)] ∧
          ∀ note ∈ first.cloneOrigins.entries, smallRegistry.Holds note.2 := by
  have reached : Reachable smallRegistry :=
    Reachable.empty.run (by simp [Operation.Quiet, Formulation.Operation.Quiet])
  obtain ⟨fresh, _, _, alike, traced⟩ := lineages_of_reachable reached
  have next : (smallRegistry.counter .variable).next.value = 2 := rfl
  obtain ⟨first, one, origins, v, here, own⟩ : ∃ first, smallRegistry.get 1 = .ok first ∧
      first.cloneOrigins.entries.map (fun note => (note.2.1, note.2.2.uid)) = [(3, 1)] ∧
      ∃ v, first.element (Ident.ofVar 1) = .ok v ∧ (v.id == Ref.ident (.ofVar 1)) = true :=
    ⟨_, rfl, rfl, _, rfl, rfl⟩
  obtain ⟨third, three, w, there, other⟩ : ∃ third, smallRegistry.get 3 = .ok third ∧
      ∃ w, third.element (Ident.ofVar 1) = .ok w ∧ (w.id == Ref.ident (.ofVar 1)) = true :=
    ⟨_, rfl, _, rfl, rfl⟩
  exact ⟨reached, next, first, third, v, w, one, three, here, there,
    alike 1 first 3 third _ _ v w one three here there (BEq.trans own (BEq.symm other)),
    fresh 1 first (.ofVar 2) one rfl, origins, traced 1 first one⟩

end Decomposition.Registry
