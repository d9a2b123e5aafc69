import Decomposition.Proofs.Formulation.Soundness
import Decomposition.Proofs.Registry.Operation
import Decomposition.Proofs.Relation.Merging

namespace Decomposition

/-- The reference of a clone. -/
def Ref.cloned (duty : Duty) (form : Int) : Ref → Ref
  | .ident id => .ident (id.cloned duty form)
  | .other d => .other d

namespace Formulation

/-- The clone of an entity. -/
def Mark.clone (mark : Mark) (form : Int) : Element → Element
  | .variable v => .variable (v.copy (v.id.cloned mark.duty form) mark.flag)
  | .constraint c => .constraint (c.copy (c.id.cloned mark.duty form) mark.flag)

/-- An entity is the clone of another. It has the duty and the flag of the mark and is assigned to
the formulation. -/
structure Mark.Clones (mark : Mark) (form : Int) (origin clone : Element) : Prop where
  named : ∃ id renamed, origin.id = .ident id ∧ clone.id = .ident renamed ∧
    id.Reassigns mark.duty form renamed
  copied : origin.IsCopy mark.flag clone

theorem Mark.clones_clone (mark : Mark) (form : Int) {e : Element} (kinded : e.WellKinded) :
    mark.Clones form e (mark.clone form e) := by
  rcases e with v | c
  · exact ⟨⟨v.id, _, rfl, rfl, v.id.reassigns_cloned mark.duty form⟩,
      Element.isCopy_copy (.variable v) (v.id.cloned mark.duty form) mark.flag⟩
  · obtain ⟨id, own, _⟩ := kinded
    have own : c.id = .ident id := own
    have renamed : (mark.clone form (.constraint c)).id = .ident (id.cloned mark.duty form) := by
      change c.id.cloned mark.duty form = _
      rw [own]
      rfl
    exact ⟨⟨id, _, own, renamed, id.reassigns_cloned mark.duty form⟩,
      Entity.isCopy_copy (fun _ => rfl) c _ mark.flag⟩

/-- A reference is an identifier of the given kind and among those listed. -/
def lists (ids : List Ident) (kind : EntityKind) : Ref → Bool
  | .ident id => id.kind == kind && ids.contains id
  | .other _ => false

/-- The destination after the clones of the listed entities. A run of clones is such a step as a
whole, whatever the destination held before. -/
structure Merges (src : Formulation) (mark : Mark) (ids : List Ident) (dest g : Formulation) :
    Prop where
  cloned : ∀ id e, ids.contains id = true → src.element (.ident id) = .ok e →
    g.element (.ident id) = .ok (mark.clone dest.uid e)
  /-- Entities that are not listed are not touched. -/
  others : ∀ id, ids.contains id = false → g.element (.ident id) = dest.element (.ident id)
  plain : ∀ d, g.constrs.get (.other d) = dest.constrs.get (.other d)
  /-- The source's coefficients are written over the destination's, and no other pair changes. -/
  coefficients : ∀ c x, g.coefficients.cells.get? c x =
    (if lists ids .constraint c || lists ids .variable x then src.coefficients.cells.get? c x
      else none).or (dest.coefficients.cells.get? c x)
  /-- The columns tell the same. -/
  consistent : g.coefficients.cells.Consistent
  rhs : ∀ ref, g.recordedRhs.get? ref =
    if lists ids .constraint ref then src.recordedRhs.get? ref else dest.recordedRhs.get? ref
  origins : ∀ id e origin, ids.contains id = true → src.element (.ident id) = .ok e →
    e.id = .ident origin → g.cloneOrigins.get? id = some (src.uid, origin)
  otherOrigins : ∀ id, ids.contains id = false →
    g.cloneOrigins.get? id = dest.cloneOrigins.get? id
  frozen : g.coefficients.frozen = dest.coefficients.frozen
  capacity : g.coefficients.capacity = dest.coefficients.capacity
  /-- The identity, the sense, the bounds and the best solutions stay. -/
  rest : { g with
      vars := dest.vars
      constrs := dest.constrs
      coefficients := dest.coefficients
      recordedRhs := dest.recordedRhs
      cloneOrigins := dest.cloneOrigins } = dest

/-- A formulation after the clone of a variable with its column. -/
def withVariable (f : Formulation) (v : Variable) (origin : Int × Ident) (column : Values) :
    Formulation :=
  let registered := f.coefficients.cells.addColumn v.id .empty
  { f with
    vars := f.vars.set v.id v
    coefficients := { f.coefficients with cells := registered.addColumn v.id column }
    cloneOrigins := f.cloneOrigins.insert v.id origin }

/-- A formulation after the clone of a constraint with its row. -/
def withConstraint (f : Formulation) (id : Ident) (c : Constraint) (origin : Int × Ident)
    (row : Values) : Formulation :=
  let registered := f.coefficients.cells.addRow c.id .empty
  { f with
    constrs := f.constrs.set c.id c
    recordedRhs := f.recordedRhs.insert c.id c.perennial.rhs
    coefficients := { f.coefficients with cells := registered.addRow c.id row }
    cloneOrigins := f.cloneOrigins.insert id origin }

section Step
variable {src dest : Formulation} {mark : Mark} {id : Ident}

theorem cloneOne_variable (mutable : dest.coefficients.frozen = false) {v : Variable}
    (kind : id.kind = .variable) (found : src.element (.ident id) = .ok (.variable v)) :
    cloneOne src dest mark (.ident id) =
      .ok (dest.withVariable (v.copy (v.id.cloned mark.duty dest.uid) mark.flag) (src.uid, v.id)
          (src.coefficients.cells.column id))
        (mark.clone dest.uid (.variable v)) := by
  have origin : (Element.variable v).id.toIdent = .ok v.id := rfl
  simp [cloneOne, found, cloneElement, origin, Element.copy, addElement, addVariable,
    mergeMembership, membership, kind, writeCoefficients, Relation.addColumn, Relation.write,
    mutable, Outcome.ofChange, Outcome.map, Except.map, Outcome.ok, Outcome.andThen, Mark.clone,
    withVariable]

theorem cloneOne_constraint (mutable : dest.coefficients.frozen = false) {c : Constraint}
    {origin : Ident} (kind : id.kind = .constraint)
    (found : src.element (.ident id) = .ok (.constraint c)) (own : c.id = .ident origin) :
    cloneOne src dest mark (.ident id) =
      .ok (dest.withConstraint (origin.cloned mark.duty dest.uid)
          (c.copy (.ident (origin.cloned mark.duty dest.uid)) mark.flag) (src.uid, origin)
          (src.coefficients.cells.row id))
        (mark.clone dest.uid (.constraint c)) := by
  have known : (Element.constraint c).id.toIdent = .ok origin := by
    change c.id.toIdent = _
    rw [own]
    rfl
  simp [cloneOne, found, cloneElement, known, Element.copy, addElement, addConstraint, Store.put,
    Ref.isKey, mergeMembership, membership, kind, writeCoefficients, Relation.addRow,
    Relation.write, mutable, Outcome.ofChange, Outcome.map, Except.map, Outcome.ok,
    Outcome.andThen, Mark.clone, Ref.cloned, own, withConstraint]

/-- One clone that is not refused is that of a variable or that of a constraint. -/
theorem cloneOne_cases (source : Sound src) (mark : Mark)
    (mutable : dest.coefficients.frozen = false) {e : Element}
    (found : src.element (.ident id) = .ok e) :
    (∃ v, id.kind = .variable ∧ e = .variable v ∧
      cloneOne src dest mark (.ident id) =
        .ok (dest.withVariable (v.copy (v.id.cloned mark.duty dest.uid) mark.flag) (src.uid, v.id)
            (src.coefficients.cells.column id))
          (mark.clone dest.uid e)) ∨
    ∃ c origin, id.kind = .constraint ∧ e = .constraint c ∧ c.id = .ident origin ∧
      cloneOne src dest mark (.ident id) =
        .ok (dest.withConstraint (origin.cloned mark.duty dest.uid)
            (c.copy (.ident (origin.cloned mark.duty dest.uid)) mark.flag) (src.uid, origin)
            (src.coefficients.cells.row id))
          (mark.clone dest.uid e) := by
  match kind : id.kind with
  | .variable =>
      have look := found
      rw [element_variable src kind] at look
      obtain ⟨v, _, rfl⟩ := Fault.exists_of_map_eq_ok look
      exact .inl ⟨v, rfl, rfl, cloneOne_variable mutable kind found⟩
  | .constraint =>
      have look := found
      rw [element_constraint src kind] at look
      obtain ⟨c, _, rfl⟩ := Fault.exists_of_map_eq_ok look
      obtain ⟨origin, named, _⟩ := source.kinded.element found
      exact .inr ⟨c, origin, rfl, rfl, named, cloneOne_constraint mutable kind found named⟩

end Step

section Lists

theorem lists_nil (kind : EntityKind) (ref : Ref) : lists [] kind ref = false := by
  cases ref <;> simp [lists]

theorem lists_single (id : Ident) (kind : EntityKind) (ref : Ref) :
    lists [id] kind ref = (id.kind == kind && Ref.ident id == ref) := by
  cases ref with
  | other d => rw [lists, Ref.ident_beq_other, Bool.and_false]
  | ident x =>
      rw [lists, Ref.ident_beq_ident, List.contains_cons, List.contains_nil, Bool.or_false,
        BEq.comm (a := x)]
      cases same : id == x with
      | false => simp
      | true => rw [(Ident.beq_iff.1 same).1]

theorem lists_append (first second : List Ident) (kind : EntityKind) (ref : Ref) :
    lists (first ++ second) kind ref = (lists first kind ref || lists second kind ref) := by
  cases ref with
  | other d => rfl
  | ident x => rw [lists, lists, lists, List.contains_append, Bool.and_or_distrib_left]

end Lists

namespace Merges
variable {src dest f g h : Formulation} {mark : Mark} {first second : List Ident}

theorem refl (src : Formulation) (mark : Mark) (consistent : dest.coefficients.cells.Consistent) :
    Merges src mark [] dest dest where
  cloned _ _ listed := nomatch listed
  others _ _ := rfl
  plain _ := rfl
  coefficients c x := by simp [lists_nil]
  consistent := consistent
  rhs ref := by simp [lists_nil]
  origins _ _ _ listed := nomatch listed
  otherOrigins _ _ := rfl
  frozen := rfl
  capacity := rfl
  rest := rfl

theorem uid_eq (merges : Merges src mark first f g) : g.uid = f.uid := by
  have same := congrArg Formulation.uid merges.rest
  exact same

/-- Two runs of clones are one run. -/
theorem trans (before : Merges src mark first f g) (after : Merges src mark second g h) :
    Merges src mark (first ++ second) f h where
  cloned id e listed found := by
    -- Of two clones of one entity the later one counts.
    cases later : second.contains id with
    | true => rw [after.cloned id e later found, before.uid_eq]
    | false =>
        rw [List.contains_append, later, Bool.or_false] at listed
        rw [after.others id later, before.cloned id e listed found]
  others id absent := by
    rw [List.contains_append, Bool.or_eq_false_iff] at absent
    rw [after.others id absent.2, before.others id absent.1]
  plain d := by rw [after.plain, before.plain]
  coefficients c x := by
    rw [after.coefficients, before.coefficients, lists_append, lists_append, ← Option.or_assoc]
    cases lists first .constraint c <;> cases lists first .variable x <;>
      cases lists second .constraint c <;> cases lists second .variable x <;> simp
  consistent := after.consistent
  rhs ref := by
    rw [after.rhs, before.rhs, lists_append]
    cases lists first .constraint ref <;> cases lists second .constraint ref <;> rfl
  origins id e origin listed found own := by
    cases later : second.contains id with
    | true => exact after.origins id e origin later found own
    | false =>
        rw [List.contains_append, later, Bool.or_false] at listed
        rw [after.otherOrigins id later, before.origins id e origin listed found own]
  otherOrigins id absent := by
    rw [List.contains_append, Bool.or_eq_false_iff] at absent
    rw [after.otherOrigins id absent.2, before.otherOrigins id absent.1]
  frozen := after.frozen.trans before.frozen
  capacity := after.capacity.trans before.capacity
  rest := by
    have outer := congrArg (fun k : Formulation =>
      { k with
        vars := f.vars
        constrs := f.constrs
        coefficients := f.coefficients
        recordedRhs := f.recordedRhs
        cloneOrigins := f.cloneOrigins }) after.rest
    exact outer.trans before.rest

end Merges

section Clones
variable {src dest : Formulation} {mark : Mark} {id : Ident}

theorem contains_single (id x : Ident) : [id].contains x = (id == x) := by
  rw [List.contains_cons, List.contains_nil, Bool.or_false, BEq.comm]

/-- Under equal identifiers the same entity is found. -/
theorem eq_of_contains_single {x : Ident} {e e' : Element} (listed : [id].contains x = true)
    (found : src.element (.ident id) = .ok e') (alike : src.element (.ident x) = .ok e) :
    (id == x) = true ∧ e = e' := by
  rw [contains_single] at listed
  have same := element_of_beq listed found
  rw [alike] at same
  exact ⟨listed, Except.ok.inj same⟩

/-- The right-hand side on record is that of the constraint. -/
theorem Sound.get?_recordedRhs (source : Sound src) {c : Constraint} (kind : id.kind = .constraint)
    (found : src.element (.ident id) = .ok (.constraint c)) {ref : Ref}
    (here : (Ref.ident id == ref) = true) : src.recordedRhs.get? ref = some c.perennial.rhs := by
  rw [element_constraint src kind] at found
  obtain ⟨_, look, same⟩ := Fault.exists_of_map_eq_ok found
  cases same
  obtain ⟨entry, mem, alike, rfl⟩ := OrderedMap.exists_mem_of_get? (Store.get_eq_ok_iff.1 look)
  rw [← src.recordedRhs.get?_congr (BEq.trans alike here)]
  exact source.recorded entry mem

/-- One clone of a variable merges its column. -/
theorem merges_withVariable (source : Sound src) (consistent : dest.coefficients.cells.Consistent)
    {v : Variable} (kind : id.kind = .variable)
    (found : src.element (.ident id) = .ok (.variable v)) :
    Merges src mark [id] dest
      (dest.withVariable (v.copy (v.id.cloned mark.duty dest.uid) mark.flag) (src.uid, v.id)
        (src.coefficients.cells.column id)) := by
  have own : (v.id == id) = true := Ref.ident_beq_ident.symm.trans (source.keyed.element found)
  have key (x : Ident) : (v.id.cloned mark.duty dest.uid == x) = (id == x) :=
    OrderedMap.beq_congr_left own
  have column : (Ref.ident (v.id.cloned mark.duty dest.uid) == Ref.ident id) = true :=
    Ref.ident_beq_ident.trans own
  let clone := v.copy (v.id.cloned mark.duty dest.uid) mark.flag
  have look (x : Ident) :
      (dest.withVariable clone (src.uid, v.id) (src.coefficients.cells.column id)).element
          (.ident x) = if id == x then .ok (.variable clone) else dest.element (.ident x) := by
    have cloneKind : clone.id.kind = .variable := (Ident.beq_iff.1 own).1.trans kind
    rw [← key x]
    exact element_set_variable cloneKind rfl rfl
  constructor
  case cloned =>
    intro x e listed alike
    obtain ⟨listed, rfl⟩ := eq_of_contains_single listed found alike
    rw [look, if_pos listed]
    rfl
  case others =>
    intro x absent
    rw [contains_single] at absent
    rw [look, absent, if_neg Bool.false_ne_true]
  case plain => exact fun _ => rfl
  case coefficients =>
    intro c x
    -- The empty column is written first and changes no pair.
    have merged := Incidence.get?_addColumn_column
      (dest.coefficients.cells.addColumn (Ref.ident (v.id.cloned mark.duty dest.uid)) .empty)
      source.cells column c x
    rw [Incidence.get?_addColumn_empty] at merged
    rw [lists_single, lists_single, kind]
    exact merged
  case consistent => exact (consistent.addColumn _ _).addColumn _ _
  case rhs =>
    intro ref
    rw [lists_single, kind]
    rfl
  case origins =>
    intro x e origin listed alike same
    obtain ⟨listed, rfl⟩ := eq_of_contains_single listed found alike
    cases same
    rw [withVariable, OrderedMap.get?_insert, Entity.copy_id, key, if_pos listed]
  case otherOrigins =>
    intro x absent
    rw [contains_single] at absent
    rw [withVariable, OrderedMap.get?_insert, Entity.copy_id, key, if_neg (by simp [absent])]
  case frozen => rfl
  case capacity => rfl
  case rest => rfl

/-- One clone of a constraint merges its row and puts its right-hand side on record. -/
theorem merges_withConstraint (source : Sound src)
    (consistent : dest.coefficients.cells.Consistent) {c : Constraint} {origin : Ident}
    (kind : id.kind = .constraint) (found : src.element (.ident id) = .ok (.constraint c))
    (named : c.id = .ident origin) :
    Merges src mark [id] dest
      (dest.withConstraint (origin.cloned mark.duty dest.uid)
        (c.copy (.ident (origin.cloned mark.duty dest.uid)) mark.flag) (src.uid, origin)
        (src.coefficients.cells.row id)) := by
  have own : (origin == id) = true := by
    have same : (c.id == Ref.ident id) = true := source.keyed.element found
    rw [named] at same
    exact Ref.ident_beq_ident.symm.trans same
  have key (x : Ident) : (origin.cloned mark.duty dest.uid == x) = (id == x) :=
    OrderedMap.beq_congr_left own
  have row (x : Ref) : (Ref.ident (origin.cloned mark.duty dest.uid) == x) = (Ref.ident id == x) :=
    OrderedMap.beq_congr_left (Ref.ident_beq_ident.trans own)
  let renamed := origin.cloned mark.duty dest.uid
  let clone := c.copy (.ident renamed) mark.flag
  have look (x : Ident) :
      (dest.withConstraint renamed clone (src.uid, origin)
          (src.coefficients.cells.row id)).element (.ident x) =
        if id == x then .ok (.constraint clone) else dest.element (.ident x) := by
    have cloneKind : renamed.kind = .constraint := (Ident.beq_iff.1 own).1.trans kind
    rw [← key x]
    exact element_set_constraint rfl cloneKind rfl rfl
  constructor
  case cloned =>
    intro x e listed alike
    obtain ⟨listed, rfl⟩ := eq_of_contains_single listed found alike
    rw [look, if_pos listed, Mark.clone, named]
    rfl
  case others =>
    intro x absent
    rw [contains_single] at absent
    rw [look, absent, if_neg Bool.false_ne_true]
  case plain =>
    intro d
    rw [withConstraint]
    dsimp only
    rw [Store.get_set _ (.other d) rfl, Entity.copy_id, Ref.ident_beq_other]
    rfl
  case coefficients =>
    intro a x
    have merged := Incidence.get?_addRow_row
      (dest.coefficients.cells.addRow (Ref.ident (origin.cloned mark.duty dest.uid)) .empty)
      source.cells ((row _).trans BEq.rfl) a x
    rw [Incidence.get?_addRow_empty] at merged
    have listed : (lists [id] .constraint a || lists [id] .variable x) = (Ref.ident id == a) := by
      rw [lists_single, lists_single, kind]
      simp
    rw [listed]
    exact merged
  case consistent => exact (consistent.addRow _ _).addRow _ _
  case rhs =>
    intro ref
    rw [lists_single, kind, withConstraint, OrderedMap.get?_insert, Entity.copy_id, row]
    by_cases here : (Ref.ident id == ref) = true
    · rw [if_pos here, if_pos (by simpa using here), source.get?_recordedRhs kind found here]
      rfl
    · rw [if_neg here, if_neg (by simpa using here)]
  case origins =>
    intro x e known listed alike same
    obtain ⟨listed, rfl⟩ := eq_of_contains_single listed found alike
    have agree : c.id = .ident known := same
    rw [named] at agree
    cases agree
    rw [withConstraint, OrderedMap.get?_insert, key, if_pos listed]
  case otherOrigins =>
    intro x absent
    rw [contains_single] at absent
    rw [withConstraint, OrderedMap.get?_insert, key, if_neg (by simp [absent])]
  case frozen => rfl
  case capacity => rfl
  case rest => rfl

/-- One clone succeeds and merges its entity. -/
theorem cloneOne_merges (source : Sound src) (consistent : dest.coefficients.cells.Consistent)
    (mutable : dest.coefficients.frozen = false) {e : Element}
    (found : src.element (.ident id) = .ok e) :
    ∃ g, cloneOne src dest mark (.ident id) = .ok g (mark.clone dest.uid e) ∧
      Merges src mark [id] dest g := by
  rcases cloneOne_cases source mark mutable found with
    ⟨v, kind, rfl, cloned⟩ | ⟨c, origin, kind, rfl, named, cloned⟩
  · exact ⟨_, cloned, merges_withVariable source consistent kind found⟩
  · exact ⟨_, cloned, merges_withConstraint source consistent kind found named⟩

/-- A run of clones succeeds and merges all of its entities. -/
theorem cloneInto_merged (source : Sound src) (mark : Mark)
    (consistent : dest.coefficients.cells.Consistent)
    (mutable : dest.coefficients.frozen = false) {ids : List Ident}
    (present : ∀ id ∈ ids, ∃ e, src.element (.ident id) = .ok e) :
    ∃ g clones, src.cloneInto dest mark (ids.map .ident) = .ok g clones ∧
      Merges src mark ids dest g ∧
      List.Forall₂ (fun id clone => ∃ e, src.element (.ident id) = .ok e ∧
        clone = mark.clone dest.uid e) ids clones := by
  induction ids generalizing dest with
  | nil => exact ⟨dest, [], rfl, .refl src mark consistent, .nil⟩
  | cons id rest ih =>
      obtain ⟨e, found⟩ := present id List.mem_cons_self
      obtain ⟨next, first, merges⟩ := cloneOne_merges source consistent mutable found
      obtain ⟨g, clones, run, others, alike⟩ := ih merges.consistent (merges.frozen.trans mutable)
        fun other mem => present other (List.mem_cons_of_mem _ mem)
      refine ⟨g, mark.clone dest.uid e :: clones, ?_, merges.trans others, ?_⟩
      · rw [List.map_cons, cloneInto, first, Outcome.ok_andThen, run]
        rfl
      · rw [merges.uid_eq] at alike
        exact .cons ⟨e, found, rfl⟩ alike

/-- The listed entities are cloned in order, each with its coefficients. These are written over
what the destination has, and nothing else in the destination or elsewhere changes. -/
theorem clone_of_reachable (sourceReached : Reachable src) (destReached : Reachable dest)
    (mutable : dest.coefficients.frozen = false)
    {ids : List Ident} (present : ∀ id ∈ ids, ∃ e, src.element (.ident id) = .ok e)
    (mark : Mark) :
    ∃ g clones, src.cloneInto dest mark (ids.map .ident) = .ok g clones ∧
      Merges src mark ids dest g ∧
      List.Forall₂ (fun id clone => ∃ e, src.element (.ident id) = .ok e ∧
        g.element (.ident id) = .ok clone ∧ mark.Clones dest.uid e clone) ids clones ∧
      ∀ r : Registry, r.get src.uid = .ok src → r.get dest.uid = .ok dest →
        src.uid ≠ dest.uid →
        r.clone src.uid dest.uid mark (ids.map .ident) = .ok (r.put g) clones ∧
          (r.put g).get dest.uid = .ok g ∧
          ∀ uid, uid ≠ dest.uid → (r.put g).get uid = r.get uid := by
  have source := sourceReached.sound
  obtain ⟨g, clones, run, merges, alike⟩ :=
    cloneInto_merged source mark destReached.sound.cells mutable present
  refine ⟨g, clones, run, merges, ?_, fun r origin target apart => ?_⟩
  · obtain ⟨sameLength, each⟩ := List.forall₂_iff_zip.1 alike
    refine List.forall₂_iff_zip.2 ⟨sameLength, fun {id clone} paired => ?_⟩
    obtain ⟨e, found, rfl⟩ := each paired
    have listed : ids.contains id = true :=
      List.contains_iff_exists_mem_beq.2 ⟨id, (List.of_mem_zip paired).1, BEq.rfl⟩
    exact ⟨e, found, merges.cloned id e listed found,
      mark.clones_clone dest.uid (source.kinded.element found)⟩
  · refine ⟨?_, ?_, fun uid other => ?_⟩
    · rw [Registry.clone, if_neg apart, origin]
      dsimp only
      rw [Registry.onForm_of_get target, run]
      rfl
    · rw [Registry.get_put, if_pos merges.uid_eq]
    · rw [Registry.get_put, if_neg fun same => other (same.symm.trans merges.uid_eq)]

end Clones

/-- A binary variable, whose current lower bound lies below zero, and another one in one
constraint. -/
def smallOrigin : Formulation :=
  run (.empty 1 .compact none)
    [.createVariable 1 ⟨"open", .compactVar, { VarData.plain with kind := .binary }, .static⟩ none,
      .createVariable 2 ⟨"", .compactVar, .plain, .static⟩ none,
      .createConstraint 1 ⟨"", .compactConstr, { ConstrData.plain with rhs := 4 }, .static⟩
        (some (.ofList [(Ident.ofVar 1, 2), (Ident.ofVar 2, 1)])),
      .setBounds (Ident.ofVar 1) (some (-3)) none]

/-- A constraint of the same uid, with a coefficient of its own and one that clones write over. -/
def smallTarget : Formulation :=
  run (.empty 2 .dwMaster none)
    [.createConstraint 1 ⟨"old", .masterPureConstr, .plain, .static⟩
      (some (.ofList [(Ident.ofVar 3, 7), (Ident.ofVar 2, 9)]))]

/-- The constraint and the variable are cloned, the variable twice. -/
theorem clone_smallOrigin :
    let ids := [Ident.ofVar 1, .ofConstr 1, .ofVar 1]
    let mark : Mark := ⟨.dynamic, .masterPureVar⟩
    let r := (Registry.empty.put smallOrigin).put smallTarget
    smallTarget.coefficients.frozen = false ∧
      (∀ id ∈ ids, ∃ e, smallOrigin.element (.ident id) = .ok e) ∧
      ∃ g clones, r.clone 1 2 mark (ids.map .ident) = .ok (r.put g) clones ∧
        Merges smallOrigin mark ids smallTarget g ∧
        clones.length = 3 ∧
        (smallOrigin.vars.find? (Ident.ofVar 1)).map (·.current.lb) = some (-3) ∧
        (∃ v, g.element (Ident.ofVar 1) = .ok (.variable v) ∧ v.name = "open" ∧
          v.id.duty = .masterPureVar ∧ v.id.assigned = some 2 ∧ v.flag = .dynamic ∧
          v.current.lb = 0 ∧ v.current.ub = 1) ∧
        g.coefficients.cells.get? (Ident.ofConstr 1) (Ident.ofVar 1) = some 2 ∧
        g.coefficients.cells.get? (Ident.ofConstr 1) (Ident.ofVar 2) = some 1 ∧
        g.coefficients.cells.get? (Ident.ofConstr 1) (Ident.ofVar 3) = some 7 := by
  intro ids mark r
  have reached : Reachable smallOrigin :=
    ReachableBy.run (.empty 1 .compact none) (by simp [Operation.WellKinded, Operation.source?])
  have targetReached : Reachable smallTarget :=
    ReachableBy.run (.empty 2 .dwMaster none) (by simp [Operation.WellKinded, Operation.source?])
  have mutable : smallTarget.coefficients.frozen = false := rfl
  have present : ∀ id ∈ ids, ∃ e, smallOrigin.element (.ident id) = .ok e := by
    simp only [ids, List.forall_mem_cons]
    exact ⟨⟨_, rfl⟩, ⟨_, rfl⟩, ⟨_, rfl⟩, List.forall_mem_nil _⟩
  have origin : r.get 1 = .ok smallOrigin := rfl
  have target : r.get 2 = .ok smallTarget := rfl
  obtain ⟨g, clones, _, merges, alike, registered⟩ :=
    clone_of_reachable reached targetReached mutable present mark
  refine ⟨mutable, present, g, clones, (registered r origin target (by decide)).1, merges,
    alike.length_eq.symm, by decide +kernel, ?_, ?_, ?_, ?_⟩
  · obtain ⟨v, found, name, kind, lb, ub⟩ : ∃ v, smallOrigin.element (Ident.ofVar 1) =
        .ok (.variable v) ∧ v.name = "open" ∧ v.current.kind = .binary ∧ v.current.lb = -3 ∧
          v.current.ub = 1 := ⟨_, rfl, rfl, rfl, by decide +kernel, by decide +kernel⟩
    obtain ⟨clone, _, ⟨e, same, stored, clones⟩, _, _⟩ := List.forall₂_cons_left_iff.1 alike
    rw [found] at same
    cases same
    rcases clone with w | c
    · obtain ⟨_, renamed, _, named, reassigns⟩ := clones.named
      have own : w.id = renamed := Ref.ident.inj named
      have copied : Entity.IsCopy VarData.Cuts .dynamic v w := clones.copied
      refine ⟨w, stored, copied.name.trans name, own ▸ reassigns.duty, own ▸ reassigns.assigned,
        copied.flagged, ?_, ?_⟩
      · rw [copied.current.lb, kind, lb]
        decide +kernel
      · rw [copied.current.ub, kind, ub]
        decide +kernel
    · exact clones.copied.elim
  · rw [merges.coefficients]
    decide +kernel
  · rw [merges.coefficients]
    decide +kernel
  · rw [merges.coefficients]
    decide +kernel

end Formulation

end Decomposition
