import Decomposition.Proofs.Formulation.Clone

namespace Decomposition.Formulation

/-- One call clones all of its identifiers with the same flag and the same duty. -/
structure CloneCall where
  mark : Mark
  ids : List Ident

/-- One of the calls clones the identifier with the mark. -/
def Asks (calls : List CloneCall) (id : Ident) (mark : Mark) : Prop :=
  ∃ call ∈ calls, call.ids.contains id = true ∧ call.mark = mark

/-- No identifier is cloned with two marks. -/
def Unambiguous (calls : List CloneCall) : Prop :=
  ∀ id mark other, Asks calls id mark → Asks calls id other → mark = other

theorem not_asks_nil (id : Ident) (mark : Mark) : ¬ Asks [] id mark := nofun

theorem asks_cons {call : CloneCall} {rest : List CloneCall} {id : Ident} {mark : Mark} :
    Asks (call :: rest) id mark ↔
      (call.ids.contains id = true ∧ call.mark = mark) ∨ Asks rest id mark :=
  List.exists_mem_cons_iff _ call rest

/-- The mark that each identifier has got, if any. -/
abbrev Marks := Ident → Option Mark

namespace Marks

/-- Nothing has been cloned. -/
def unmarked : Marks := fun _ => none

/-- The same mark for all that are listed. -/
def given (ids : List Ident) (mark : Mark) : Marks := fun id =>
  if ids.contains id then some mark else none

/-- Of two marks the later one counts. -/
def followedBy (first second : Marks) : Marks := fun id => (second id).or (first id)

/-- A reference is a marked identifier of the given kind. -/
def lists (marks : Marks) (kind : EntityKind) : Ref → Bool
  | .ident id => id.kind == kind && (marks id).isSome
  | .other _ => false

/-- A row is that of a marked constraint, or a marked variable has a coefficient in it. -/
def BringsRow (marks : Marks) (src : Formulation) (c : Ref) : Prop :=
  marks.lists .constraint c = true ∨
    ∃ x, marks.lists .variable x = true ∧ (src.coefficients.cells.get? c x).isSome = true

/-- A column is that of a marked variable, or a marked constraint has a coefficient in it. -/
def BringsColumn (marks : Marks) (src : Formulation) (x : Ref) : Prop :=
  marks.lists .variable x = true ∨
    ∃ c, marks.lists .constraint c = true ∧ (src.coefficients.cells.get? c x).isSome = true

end Marks

/-- The marks that calls give. -/
def marksOf : List CloneCall → Marks
  | [] => .unmarked
  | call :: rest => (Marks.given call.ids call.mark).followedBy (marksOf rest)

namespace Marks
variable {src : Formulation} {mark : Mark}

theorem lists_unmarked (kind : EntityKind) (ref : Ref) : unmarked.lists kind ref = false := by
  cases ref <;> simp [lists, unmarked]

theorem lists_given (ids : List Ident) (mark : Mark) (kind : EntityKind) (ref : Ref) :
    (given ids mark).lists kind ref = Formulation.lists ids kind ref := by
  cases ref with
  | other d => rfl
  | ident id =>
      rw [lists, given, Formulation.lists]
      cases ids.contains id <;> rfl

theorem lists_followedBy (first second : Marks) (kind : EntityKind) (ref : Ref) :
    (first.followedBy second).lists kind ref = (first.lists kind ref || second.lists kind ref) := by
  cases ref with
  | other d => rfl
  | ident id =>
      rw [lists, lists, lists, followedBy, Option.isSome_or, Bool.or_comm, Bool.and_or_distrib_left]

theorem bringsRow_followedBy {first second : Marks} {c : Ref} :
    (first.followedBy second).BringsRow src c ↔
      first.BringsRow src c ∨ second.BringsRow src c := by
  simp only [BringsRow, lists_followedBy, Bool.or_eq_true, or_and_right, exists_or]
  exact or_or_or_comm

theorem bringsColumn_followedBy {first second : Marks} {x : Ref} :
    (first.followedBy second).BringsColumn src x ↔
      first.BringsColumn src x ∨ second.BringsColumn src x := by
  simp only [BringsColumn, lists_followedBy, Bool.or_eq_true, or_and_right, exists_or]
  exact or_or_or_comm

theorem given_cons (id : Ident) (rest : List Ident) (mark : Mark) :
    given (id :: rest) mark = (given [id] mark).followedBy (given rest mark) := by
  funext x
  rw [followedBy, given, given, given, List.contains_cons, List.contains_cons, List.contains_nil,
    Bool.or_false]
  cases rest.contains x <;> cases x == id <;> rfl

section Single
variable {id : Ident}

/-- A variable brings the rows of its column. -/
theorem bringsRow_variable (consistent : src.coefficients.cells.Consistent)
    (kind : id.kind = .variable) {c : Ref} :
    (given [id] mark).BringsRow src c ↔
      (src.coefficients.cells.column id).contains c = true := by
  rw [OrderedMap.contains_eq_isSome, consistent.agree]
  simp only [BringsRow, lists_given, lists_single, kind]
  constructor
  · rintro (isConstraint | ⟨x, same, stored⟩)
    · cases isConstraint
    · rwa [Incidence.get?, OrderedMap.get?_congr _ (by simpa using same)]
  · exact fun stored => .inr ⟨.ident id, by simp, stored⟩

theorem bringsRow_constraint (kind : id.kind = .constraint) {c : Ref} :
    (given [id] mark).BringsRow src c ↔ (Ref.ident id == c) = true := by
  simp [BringsRow, lists_given, lists_single, kind]

theorem bringsColumn_variable (kind : id.kind = .variable) {x : Ref} :
    (given [id] mark).BringsColumn src x ↔ (Ref.ident id == x) = true := by
  simp [BringsColumn, lists_given, lists_single, kind]

/-- A constraint brings the columns of its row. -/
theorem bringsColumn_constraint (kind : id.kind = .constraint) {x : Ref} :
    (given [id] mark).BringsColumn src x ↔ (src.coefficients.cells.row id).contains x = true := by
  rw [OrderedMap.contains_eq_isSome]
  simp only [BringsColumn, lists_given, lists_single, kind]
  constructor
  · rintro (isVariable | ⟨c, same, stored⟩)
    · cases isVariable
    · rwa [src.coefficients.cells.row_congr (by simpa using same)]
  · exact fun stored => .inr ⟨.ident id, by simp, stored⟩

end Single

end Marks

section Calls
variable {calls first second : List CloneCall} {id : Ident} {mark : Mark}

theorem asks_of_marksOf (marked : marksOf calls id = some mark) : Asks calls id mark := by
  induction calls with
  | nil => cases marked
  | cons call rest ih =>
      rcases Option.or_eq_some_iff.1 marked with later | ⟨_, here⟩
      · exact asks_cons.2 (.inr (ih later))
      · exact asks_cons.2 (.inl (by simpa [Marks.given] using here))

theorem exists_marksOf_of_asks (asked : Asks calls id mark) :
    ∃ other, marksOf calls id = some other := by
  rw [← Option.isSome_iff_exists]
  induction calls with
  | nil => exact (not_asks_nil id mark asked).elim
  | cons call rest ih =>
      rw [marksOf, Marks.followedBy, Option.isSome_or, Bool.or_eq_true]
      rcases asks_cons.1 asked with ⟨listed, _⟩ | later
      · exact .inr (by simp [Marks.given, listed])
      · exact .inl (ih later)

/-- Without ambiguity the calls may be looked through in any order. -/
theorem marksOf_eq_some_iff (clear : Unambiguous calls) :
    marksOf calls id = some mark ↔ Asks calls id mark := by
  refine ⟨asks_of_marksOf, fun asked => ?_⟩
  obtain ⟨other, marked⟩ := exists_marksOf_of_asks asked
  rw [marked, clear id other mark (asks_of_marksOf marked) asked]

theorem marksOf_congr (clear : Unambiguous first)
    (same : ∀ id mark, Asks first id mark ↔ Asks second id mark) :
    marksOf first = marksOf second := by
  have alsoClear : Unambiguous second := fun id mark other asked asksOther =>
    clear id mark other ((same id mark).2 asked) ((same id other).2 asksOther)
  funext id
  refine Option.ext fun mark => ?_
  rw [marksOf_eq_some_iff clear, marksOf_eq_some_iff alsoClear, same]

/-- It is enough that every identifier is cloned once. -/
theorem unambiguous_of_distinct
    (distinct : (calls.flatMap (·.ids)).Pairwise fun a b => (a == b) = false) :
    Unambiguous calls := by
  intro id mark other asked asksOther
  induction calls with
  | nil => exact (not_asks_nil id mark asked).elim
  | cons call rest ih =>
      rw [List.flatMap_cons, List.pairwise_append] at distinct
      obtain ⟨_, restDistinct, apart⟩ := distinct
      -- What the first call clones, no other call clones.
      have alone (listed : call.ids.contains id = true) {later : Mark} :
          ¬ Asks rest id later := by
        rintro ⟨again, mem, relisted, _⟩
        obtain ⟨here, hereMem, same⟩ := List.contains_iff_exists_mem_beq.1 listed
        obtain ⟨there, thereMem, alike⟩ := List.contains_iff_exists_mem_beq.1 relisted
        have different := apart here hereMem there (List.mem_flatMap.2 ⟨again, mem, thereMem⟩)
        rw [BEq.trans (BEq.symm same) alike] at different
        cases different
      rcases asks_cons.1 asked with ⟨listed, marked⟩ | later
      · rcases asks_cons.1 asksOther with ⟨_, alsoMarked⟩ | laterOther
        · exact marked.symm.trans alsoMarked
        · exact (alone listed laterOther).elim
      · rcases asks_cons.1 asksOther with ⟨listed, _⟩ | laterOther
        · exact (alone listed later).elim
        · exact ih restDistinct later laterOther

end Calls

end Decomposition.Formulation
