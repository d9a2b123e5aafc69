import Decomposition.Proofs.Formulation.Additions
import Decomposition.Proofs.Formulation.CloneMarks
import Decomposition.Proofs.Relation.Registration

namespace Decomposition.Formulation

/-- The calls are made in order, up to the first that is refused. -/
def cloneCalls (src dest : Formulation) (calls : List CloneCall) : Outcome Formulation Unit :=
  Outcome.forEach (fun g call => (src.cloneInto g call.mark (call.ids.map .ident)).map fun _ => ())
    dest calls

/-- The destination after the clones of the marked entities. What stands under a key can be told
from the marks alone. -/
structure Gathers (src : Formulation) (marks : Marks) (dest g : Formulation) : Prop where
  cloned : ∀ id mark e, marks id = some mark → src.element (.ident id) = .ok e →
    g.element (.ident id) = .ok (mark.clone dest.uid e)
  others : ∀ id, marks id = none → g.element (.ident id) = dest.element (.ident id)
  coefficients : ∀ c x, g.coefficients.cells.get? c x =
    (if marks.lists .constraint c || marks.lists .variable x then src.coefficients.cells.get? c x
      else none).or (dest.coefficients.cells.get? c x)
  consistent : g.coefficients.cells.Consistent
  rows : ∀ c, g.coefficients.cells.hasRow c = true ↔
    marks.BringsRow src c ∨ dest.coefficients.cells.hasRow c = true
  columns : ∀ x, g.coefficients.cells.hasColumn x = true ↔
    marks.BringsColumn src x ∨ dest.coefficients.cells.hasColumn x = true
  rhs : ∀ ref, g.recordedRhs.get? ref =
    if marks.lists .constraint ref then src.recordedRhs.get? ref else dest.recordedRhs.get? ref
  origins : ∀ id mark e origin, marks id = some mark → src.element (.ident id) = .ok e →
    e.id = .ident origin → g.cloneOrigins.get? id = some (src.uid, origin)
  otherOrigins : ∀ id, marks id = none → g.cloneOrigins.get? id = dest.cloneOrigins.get? id
  frozen : g.coefficients.frozen = dest.coefficients.frozen
  capacity : g.coefficients.capacity = dest.coefficients.capacity
  rest : { g with
      vars := dest.vars
      constrs := dest.constrs
      coefficients := dest.coefficients
      recordedRhs := dest.recordedRhs
      cloneOrigins := dest.cloneOrigins } = dest

/-- Two formulations hold the same under equal keys. They may hold it in another order. -/
structure Alike (g h : Formulation) : Prop where
  vars : ∀ ref, g.vars.find? ref = h.vars.find? ref
  constrs : ∀ ref, g.constrs.find? ref = h.constrs.find? ref
  coefficients : ∀ c x, g.coefficients.cells.get? c x = h.coefficients.cells.get? c x
  /-- The same, as seen from the columns. -/
  columns : ∀ c x, (g.coefficients.cells.column x).get? c = (h.coefficients.cells.column x).get? c
  hasRow : ∀ c, g.coefficients.cells.hasRow c = h.coefficients.cells.hasRow c
  hasColumn : ∀ x, g.coefficients.cells.hasColumn x = h.coefficients.cells.hasColumn x
  recordedRhs : ∀ ref, g.recordedRhs.get? ref = h.recordedRhs.get? ref
  cloneOrigins : ∀ id, g.cloneOrigins.get? id = h.cloneOrigins.get? id
  frozen : g.coefficients.frozen = h.coefficients.frozen
  capacity : g.coefficients.capacity = h.coefficients.capacity
  /-- The identity, the sense, the bounds and the best solutions are the same. -/
  rest : { g with
      vars := h.vars
      constrs := h.constrs
      coefficients := h.coefficients
      recordedRhs := h.recordedRhs
      cloneOrigins := h.cloneOrigins } = h

theorem Alike.refl (f : Formulation) : Alike f f :=
  ⟨fun _ => rfl, fun _ => rfl, fun _ _ => rfl, fun _ _ => rfl, fun _ => rfl, fun _ => rfl,
    fun _ => rfl, fun _ => rfl, rfl, rfl, rfl⟩

namespace Gathers
variable {src dest f g h : Formulation} {first second marks : Marks}

theorem refl (src : Formulation) (consistent : dest.coefficients.cells.Consistent) :
    Gathers src .unmarked dest dest where
  cloned _ _ _ marked := nomatch marked
  others _ _ := rfl
  coefficients c x := by simp [Marks.lists_unmarked]
  consistent := consistent
  rows c := by simp [Marks.BringsRow, Marks.lists_unmarked]
  columns x := by simp [Marks.BringsColumn, Marks.lists_unmarked]
  rhs ref := by simp [Marks.lists_unmarked]
  origins _ _ _ _ marked := nomatch marked
  otherOrigins _ _ := rfl
  frozen := rfl
  capacity := rfl
  rest := rfl

theorem uid_eq (gathers : Gathers src marks f g) : g.uid = f.uid := by
  have same := congrArg Formulation.uid gathers.rest
  exact same

theorem trans (before : Gathers src first f g) (after : Gathers src second g h) :
    Gathers src (first.followedBy second) f h where
  cloned id mark e marked found := by
    rcases Option.or_eq_some_iff.1 marked with later | ⟨unmarked, earlier⟩
    · rw [after.cloned id mark e later found, before.uid_eq]
    · rw [after.others id unmarked, before.cloned id mark e earlier found]
  others id absent := by
    obtain ⟨later, earlier⟩ := Option.or_eq_none_iff.1 absent
    rw [after.others id later, before.others id earlier]
  coefficients c x := by
    rw [after.coefficients, before.coefficients, Marks.lists_followedBy, Marks.lists_followedBy,
      ← Option.or_assoc]
    cases first.lists .constraint c <;> cases first.lists .variable x <;>
      cases second.lists .constraint c <;> cases second.lists .variable x <;> simp
  consistent := after.consistent
  rows c := by
    rw [after.rows, before.rows, Marks.bringsRow_followedBy, or_assoc, or_left_comm]
  columns x := by
    rw [after.columns, before.columns, Marks.bringsColumn_followedBy, or_assoc, or_left_comm]
  rhs ref := by
    rw [after.rhs, before.rhs, Marks.lists_followedBy]
    cases first.lists .constraint ref <;> cases second.lists .constraint ref <;> rfl
  origins id mark e origin marked found own := by
    rcases Option.or_eq_some_iff.1 marked with later | ⟨unmarked, earlier⟩
    · exact after.origins id mark e origin later found own
    · rw [after.otherOrigins id unmarked, before.origins id mark e origin earlier found own]
  otherOrigins id absent := by
    obtain ⟨later, earlier⟩ := Option.or_eq_none_iff.1 absent
    rw [after.otherOrigins id later, before.otherOrigins id earlier]
  frozen := after.frozen.trans before.frozen
  capacity := after.capacity.trans before.capacity
  rest := by
    have outer := congrArg (fun k : Formulation =>
      { k with
        vars := f.vars
        constrs := f.constrs
        coefficients := f.coefficients
        recordedRhs := f.recordedRhs
        cloneOrigins := f.cloneOrigins }) after.rest
    exact outer.trans before.rest

end Gathers

section Runs
variable {src dest g : Formulation} {mark : Mark} {id : Ident}

/-- What a clone merges, together with the lines that it registers. -/
theorem gathers_of_merges {ids : List Ident} (merges : Merges src mark ids dest g)
    (rows : ∀ c, g.coefficients.cells.hasRow c = true ↔
      (Marks.given ids mark).BringsRow src c ∨ dest.coefficients.cells.hasRow c = true)
    (columns : ∀ x, g.coefficients.cells.hasColumn x = true ↔
      (Marks.given ids mark).BringsColumn src x ∨ dest.coefficients.cells.hasColumn x = true) :
    Gathers src (.given ids mark) dest g where
  cloned id other e marked found := by
    obtain ⟨listed, same⟩ : ids.contains id = true ∧ mark = other := by
      simpa [Marks.given] using marked
    rw [← same]
    exact merges.cloned id e listed found
  others id unmarked := merges.others id (by simpa [Marks.given] using unmarked)
  coefficients c x := by rw [merges.coefficients, Marks.lists_given, Marks.lists_given]
  consistent := merges.consistent
  rows := rows
  columns := columns
  rhs ref := by rw [merges.rhs, Marks.lists_given]
  origins id other e origin marked found own := by
    obtain ⟨listed, _⟩ : ids.contains id = true ∧ mark = other := by
      simpa [Marks.given] using marked
    exact merges.origins id e origin listed found own
  otherOrigins id unmarked := merges.otherOrigins id (by simpa [Marks.given] using unmarked)
  frozen := merges.frozen
  capacity := merges.capacity
  rest := merges.rest

/-- The column of a variable is registered, and so are the rows that it has coefficients in. -/
theorem gathers_withVariable (source : Sound src) (consistent : dest.coefficients.cells.Consistent)
    {v : Variable} (kind : id.kind = .variable)
    (found : src.element (.ident id) = .ok (.variable v)) :
    Gathers src (.given [id] mark) dest
      (dest.withVariable (v.copy (v.id.cloned mark.duty dest.uid) mark.flag) (src.uid, v.id)
        (src.coefficients.cells.column id)) := by
  have own : (Ref.ident (v.id.cloned mark.duty dest.uid) == Ref.ident id) = true :=
    Ref.ident_beq_ident.trans (Ref.ident_beq_ident.symm.trans (source.keyed.element found))
  refine gathers_of_merges (merges_withVariable source consistent kind found) ?_ ?_
  · intro c
    rw [Marks.bringsRow_variable source.cells kind]
    simp [withVariable, Incidence.hasRow_addColumn]
  · intro x
    rw [Marks.bringsColumn_variable kind, ← OrderedMap.beq_congr_left own]
    simp [withVariable, Incidence.hasColumn_addColumn_eq]

theorem gathers_withConstraint (source : Sound src)
    (consistent : dest.coefficients.cells.Consistent) {c : Constraint} {origin : Ident}
    (kind : id.kind = .constraint) (found : src.element (.ident id) = .ok (.constraint c))
    (named : c.id = .ident origin) :
    Gathers src (.given [id] mark) dest
      (dest.withConstraint (origin.cloned mark.duty dest.uid)
        (c.copy (.ident (origin.cloned mark.duty dest.uid)) mark.flag) (src.uid, origin)
        (src.coefficients.cells.row id)) := by
  have own : (Ref.ident (origin.cloned mark.duty dest.uid) == Ref.ident id) = true := by
    have same : (c.id == Ref.ident id) = true := source.keyed.element found
    rw [named] at same
    exact same
  refine gathers_of_merges (merges_withConstraint source consistent kind found named) ?_ ?_
  · intro a
    rw [Marks.bringsRow_constraint kind, ← OrderedMap.beq_congr_left own]
    simp [withConstraint, Incidence.hasRow_addRow_eq]
  · intro x
    rw [Marks.bringsColumn_constraint kind]
    simp [withConstraint, Incidence.hasColumn_addRow]

/-- One clone succeeds and gathers its entity. -/
theorem cloneOne_gathers (source : Sound src) (mark : Mark)
    (consistent : dest.coefficients.cells.Consistent)
    (mutable : dest.coefficients.frozen = false) {e : Element}
    (found : src.element (.ident id) = .ok e) :
    ∃ g, cloneOne src dest mark (.ident id) = .ok g (mark.clone dest.uid e) ∧
      Gathers src (.given [id] mark) dest g := by
  rcases cloneOne_cases source mark mutable found with
    ⟨v, kind, rfl, cloned⟩ | ⟨c, origin, kind, rfl, named, cloned⟩
  · exact ⟨_, cloned, gathers_withVariable source consistent kind found⟩
  · exact ⟨_, cloned, gathers_withConstraint source consistent kind found named⟩

/-- One call succeeds and gathers all of its entities. -/
theorem cloneInto_gathers (source : Sound src) (mark : Mark)
    (consistent : dest.coefficients.cells.Consistent)
    (mutable : dest.coefficients.frozen = false) {ids : List Ident}
    (present : ∀ id ∈ ids, ∃ e, src.element (.ident id) = .ok e) :
    ∃ g clones, src.cloneInto dest mark (ids.map .ident) = .ok g clones ∧
      Gathers src (.given ids mark) dest g := by
  induction ids generalizing dest with
  | nil => exact ⟨dest, [], rfl, .refl src consistent⟩
  | cons id rest ih =>
      obtain ⟨e, found⟩ := present id List.mem_cons_self
      obtain ⟨next, first, gathers⟩ := cloneOne_gathers source mark consistent mutable found
      obtain ⟨g, clones, run, others⟩ := ih gathers.consistent (gathers.frozen.trans mutable)
        fun other mem => present other (List.mem_cons_of_mem _ mem)
      refine ⟨g, mark.clone dest.uid e :: clones, ?_, ?_⟩
      · rw [List.map_cons, cloneInto, first, Outcome.ok_andThen, run]
        rfl
      · rw [Marks.given_cons]
        exact gathers.trans others

/-- Calls succeed one after the other. -/
theorem cloneCalls_gathers (source : Sound src) (consistent : dest.coefficients.cells.Consistent)
    (mutable : dest.coefficients.frozen = false) {calls : List CloneCall}
    (present : ∀ id mark, Asks calls id mark → src.Holds (.ident id)) :
    ∃ g, cloneCalls src dest calls = .ok g () ∧ Gathers src (marksOf calls) dest g := by
  induction calls generalizing dest with
  | nil => exact ⟨dest, rfl, .refl src consistent⟩
  | cons call rest ih =>
      have here : ∀ id ∈ call.ids, src.Holds (.ident id) := fun id mem =>
        present id call.mark (asks_cons.2 (.inl
          ⟨List.contains_iff_exists_mem_beq.2 ⟨id, mem, BEq.rfl⟩, rfl⟩))
      obtain ⟨next, clones, first, gathers⟩ :=
        cloneInto_gathers source call.mark consistent mutable here
      obtain ⟨g, run, others⟩ := ih gathers.consistent (gathers.frozen.trans mutable)
        fun id mark asked => present id mark (asks_cons.2 (.inr asked))
      refine ⟨g, ?_, gathers.trans others⟩
      rw [cloneCalls, Outcome.forEach, first]
      exact run

/-- Calls for nothing do nothing. -/
theorem cloneCalls_nothing {calls : List CloneCall} (nothing : ∀ id mark, ¬ Asks calls id mark) :
    cloneCalls src dest calls = .ok dest () := by
  induction calls with
  | nil => rfl
  | cons call rest ih =>
      have empty : call.ids = [] := by
        refine List.eq_nil_iff_forall_not_mem.2 fun id mem => ?_
        exact nothing id call.mark (asks_cons.2 (.inl
          ⟨List.contains_iff_exists_mem_beq.2 ⟨id, mem, BEq.rfl⟩, rfl⟩))
      rw [cloneCalls, Outcome.forEach, empty]
      exact ih fun id mark asked => nothing id mark (asks_cons.2 (.inr asked))

/-- A frozen relation refuses every clone. -/
theorem mutable_of_addElement {e : Element} (done : (dest.addElement e none).result = .ok ()) :
    dest.coefficients.frozen = false := by
  cases key : e.id.isKey with
  | false =>
      rw [addElement_of_not_key key] at done
      cases done
  | true =>
      rw [addElement_eq key] at done
      cases frozen : dest.coefficients.frozen with
      | false => rfl
      | true =>
          rw [frozen] at done
          cases done

theorem mutable_of_cloneOne {ref : Ref} {copy : Element}
    (done : (cloneOne src dest mark ref).result = .ok copy) :
    dest.coefficients.frozen = false := by
  unfold cloneOne at done
  split at done
  · cases done
  · cases done
  · obtain ⟨_, cloned, _⟩ := Outcome.exists_of_andThen_eq_ok done
    unfold cloneElement at cloned
    split at cloned
    · cases cloned
    · obtain ⟨_, added, _⟩ := Outcome.exists_of_andThen_eq_ok cloned
      exact mutable_of_addElement added

/-- Calls that succeed on a frozen relation are for nothing. -/
theorem mutable_of_cloneCalls {calls : List CloneCall} (asked : Asks calls id mark)
    (done : (cloneCalls src dest calls).result = .ok ()) :
    dest.coefficients.frozen = false := by
  induction calls with
  | nil => exact (not_asks_nil id mark asked).elim
  | cons call rest ih =>
      obtain ⟨mark, ids⟩ := call
      cases ids with
      | nil =>
          rcases asks_cons.1 asked with ⟨listed, _⟩ | later
          · cases listed
          · exact ih later done
      | cons id others =>
          obtain ⟨_, called, _⟩ := Outcome.exists_of_andThen_eq_ok done
          obtain ⟨_, ran, _⟩ := Fault.exists_of_map_eq_ok called
          obtain ⟨_, first, _⟩ := Outcome.exists_of_andThen_eq_ok ran
          exact mutable_of_cloneOne first

/-- Calls succeed unless a frozen relation refuses what they are for. -/
theorem cloneCalls_ok_iff (source : Sound src) (target : Sound dest) {calls : List CloneCall}
    (present : ∀ id mark, Asks calls id mark → src.Holds (.ident id)) :
    (cloneCalls src dest calls).result = .ok () ↔
      dest.coefficients.frozen = false ∨ ∀ id mark, ¬ Asks calls id mark := by
  constructor
  · intro done
    by_cases something : ∃ id mark, Asks calls id mark
    · obtain ⟨id, mark, asked⟩ := something
      exact .inl (mutable_of_cloneCalls asked done)
    · exact .inr fun id mark asked => something ⟨id, mark, asked⟩
  · rintro (mutable | nothing)
    · obtain ⟨g, run, _⟩ := cloneCalls_gathers source target.cells mutable present
      rw [run]
      rfl
    · rw [cloneCalls_nothing nothing]
      rfl

theorem cloneCalls_reachable (sourceReached : Reachable src) (destReached : Reachable dest)
    (calls : List CloneCall) : Reachable (cloneCalls src dest calls).state := by
  refine Outcome.forEach_state destReached fun g call _ reached => ?_
  refine reached.step (.cloneFrom src call.mark (call.ids.map .ident)) trivial ?_
  rintro source ⟨⟩
  exact sourceReached

end Runs

section Alike
variable {src dest g h : Formulation} {marks : Marks}

theorem Gathers.element_eq (one : Gathers src marks dest g) (other : Gathers src marks dest h)
    (present : ∀ id mark, marks id = some mark → src.Holds (.ident id)) (ref : Ref) :
    g.element ref = h.element ref := by
  cases ref with
  | other d => rfl
  | ident id =>
      cases marked : marks id with
      | none => rw [one.others id marked, other.others id marked]
      | some mark =>
          obtain ⟨e, found⟩ := present id mark marked
          rw [one.cloned id mark e marked found, other.cloned id mark e marked found]

/-- The marks alone decide what is held in the end. -/
theorem Gathers.alike (source : Sound src) (one : Gathers src marks dest g)
    (other : Gathers src marks dest h) (sound : Sound g) (otherSound : Sound h)
    (present : ∀ id mark, marks id = some mark → src.Holds (.ident id)) : Alike g h where
  vars ref := Option.ext fun v => by
    rw [sound.find?_vars, otherSound.find?_vars, one.element_eq other present]
  constrs ref := Option.ext fun c => by
    rw [sound.find?_constrs, otherSound.find?_constrs, one.element_eq other present]
  coefficients c x := by rw [one.coefficients, other.coefficients]
  columns c x := by
    rw [one.consistent.agree, other.consistent.agree, one.coefficients, other.coefficients]
  hasRow c := Bool.eq_iff_iff.2 ((one.rows c).trans (other.rows c).symm)
  hasColumn x := Bool.eq_iff_iff.2 ((one.columns x).trans (other.columns x).symm)
  recordedRhs ref := by rw [one.rhs, other.rhs]
  cloneOrigins id := by
    cases marked : marks id with
    | none => rw [one.otherOrigins id marked, other.otherOrigins id marked]
    | some mark =>
        obtain ⟨e, found⟩ := present id mark marked
        obtain ⟨origin, own⟩ := (source.kinded.element found).named
        rw [one.origins id mark e origin marked found own,
          other.origins id mark e origin marked found own]
  frozen := one.frozen.trans other.frozen.symm
  capacity := one.capacity.trans other.capacity.symm
  rest := by
    have back := congrArg (fun k : Formulation =>
      { k with
        vars := h.vars
        constrs := h.constrs
        coefficients := h.coefficients
        recordedRhs := h.recordedRhs
        cloneOrigins := h.cloneOrigins }) (one.rest.trans other.rest.symm)
    exact back

/-- Calls that clone the same identifiers with the same marks succeed together and leave the same,
in whatever order the identifiers come and however they are divided among the calls. They succeed
unless there is something to clone and the destination is frozen. -/
theorem cloneCalls_alike (sourceReached : Reachable src) (destReached : Reachable dest)
    {first second : List CloneCall} (clear : Unambiguous first)
    (same : ∀ id mark, Asks first id mark ↔ Asks second id mark)
    (present : ∀ id mark, Asks first id mark → src.Holds (.ident id)) :
    ((cloneCalls src dest first).result = .ok () ↔
      dest.coefficients.frozen = false ∨ ∀ id mark, ¬ Asks first id mark) ∧
    ((cloneCalls src dest second).result = .ok () ↔
      (cloneCalls src dest first).result = .ok ()) ∧
    ((cloneCalls src dest first).result = .ok () →
      Alike (cloneCalls src dest first).state (cloneCalls src dest second).state) := by
  have source := sourceReached.sound
  have target := destReached.sound
  have alsoPresent : ∀ id mark, Asks second id mark → src.Holds (.ident id) :=
    fun id mark asked => present id mark ((same id mark).2 asked)
  have succeeds := cloneCalls_ok_iff source target present
  have alsoSucceeds := cloneCalls_ok_iff source target alsoPresent
  simp only [← same] at alsoSucceeds
  refine ⟨succeeds, alsoSucceeds.trans succeeds.symm, fun done => ?_⟩
  rcases succeeds.1 done with mutable | nothing
  · have sound := (cloneCalls_reachable sourceReached destReached first).sound
    have otherSound := (cloneCalls_reachable sourceReached destReached second).sound
    obtain ⟨g, run, gathers⟩ := cloneCalls_gathers source target.cells mutable present
    obtain ⟨h, otherRun, otherGathers⟩ :=
      cloneCalls_gathers source target.cells mutable alsoPresent
    rw [run] at sound ⊢
    rw [otherRun] at otherSound ⊢
    rw [← marksOf_congr clear same] at otherGathers
    exact gathers.alike source otherGathers sound otherSound fun id mark marked =>
      present id mark (asks_of_marksOf marked)
  · have alsoNothing : ∀ id mark, ¬ Asks second id mark :=
      fun id mark => mt (same id mark).2 (nothing id mark)
    rw [cloneCalls_nothing nothing, cloneCalls_nothing alsoNothing]
    exact .refl dest

end Alike

/-- The variables come one by one, with the constraint between them. -/
def interleavedCalls : List CloneCall :=
  [⟨⟨.dynamic, .masterPureVar⟩, [.ofVar 1]⟩, ⟨⟨.static, .masterMixedConstr⟩, [.ofConstr 1]⟩,
    ⟨⟨.dynamic, .masterPureVar⟩, [.ofVar 2]⟩]

/-- The constraint comes before both of them, and these change places. -/
def constraintFirstCalls : List CloneCall :=
  [⟨⟨.static, .masterMixedConstr⟩, [.ofConstr 1]⟩,
    ⟨⟨.dynamic, .masterPureVar⟩, [.ofVar 2, .ofVar 1]⟩]

/-- Only the order in which the variables are stored tells the two apart. -/
theorem cloneCalls_smallOrigin :
    let g := (cloneCalls smallOrigin smallTarget interleavedCalls).state
    let h := (cloneCalls smallOrigin smallTarget constraintFirstCalls).state
    Unambiguous interleavedCalls ∧
      (∀ id mark, Asks interleavedCalls id mark ↔ Asks constraintFirstCalls id mark) ∧
      (∀ id mark, Asks interleavedCalls id mark → smallOrigin.Holds (.ident id)) ∧
      (cloneCalls smallOrigin smallTarget interleavedCalls).result = .ok () ∧
      (cloneCalls smallOrigin smallTarget constraintFirstCalls).result = .ok () ∧
      Alike g h ∧
      g.vars.ids.map (·.uid) = [1, 2] ∧ h.vars.ids.map (·.uid) = [2, 1] ∧
      h.coefficients.cells.get? (Ident.ofConstr 1) (Ident.ofVar 1) = some 2 ∧
      h.coefficients.cells.get? (Ident.ofConstr 1) (Ident.ofVar 2) = some 1 ∧
      h.coefficients.cells.get? (Ident.ofConstr 1) (Ident.ofVar 3) = some 7 := by
  intro g h
  have reached : Reachable smallOrigin :=
    ReachableBy.run (.empty 1 .compact none) (by simp [Operation.WellKinded, Operation.source?])
  have targetReached : Reachable smallTarget :=
    ReachableBy.run (.empty 2 .dwMaster none) (by simp [Operation.WellKinded, Operation.source?])
  have clear : Unambiguous interleavedCalls := unambiguous_of_distinct (by decide)
  have same : ∀ id mark, Asks interleavedCalls id mark ↔ Asks constraintFirstCalls id mark := by
    intro id mark
    simp only [interleavedCalls, constraintFirstCalls, asks_cons, not_asks_nil, List.contains_cons,
      List.contains_nil, Bool.or_eq_true]
    tauto
  have present : ∀ id mark, Asks interleavedCalls id mark → smallOrigin.Holds (.ident id) := by
    intro id mark asked
    have held {x : Ident} (alike : (id == x) = true) (stored : smallOrigin.Holds (.ident x)) :
        smallOrigin.Holds (.ident id) := stored.imp fun _ => element_of_beq (BEq.symm alike)
    simp only [interleavedCalls, asks_cons, not_asks_nil, List.contains_cons, List.contains_nil,
      Bool.or_false, or_false] at asked
    rcases asked with ⟨alike, _⟩ | ⟨alike, _⟩ | ⟨alike, _⟩
    · exact held alike ⟨_, rfl⟩
    · exact held alike ⟨_, rfl⟩
    · exact held alike ⟨_, rfl⟩
  obtain ⟨succeeds, alsoSucceeds, alike⟩ :=
    cloneCalls_alike reached targetReached clear same present
  have done := succeeds.2 (.inl rfl)
  have like : Alike g h := alike done
  refine ⟨clear, same, present, done, alsoSucceeds.2 done, like, ?_, ?_, ?_, ?_, ?_⟩
  · decide +kernel
  · decide +kernel
  · rw [← like.coefficients]
    decide +kernel
  · rw [← like.coefficients]
    decide +kernel
  · rw [← like.coefficients]
    decide +kernel

end Decomposition.Formulation
