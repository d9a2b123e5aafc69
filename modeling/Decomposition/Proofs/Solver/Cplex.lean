import Decomposition.Proofs.Outcome
import Decomposition.Proofs.Solver.LinearProgram
import Decomposition.Solver.Cplex

namespace Decomposition.Cplex
open Solver Binary64

namespace Intake

/-- A missing lower bound is read as zero, a missing upper bound as none, and all else is kept. -/
abbrev ReadsBounds (intake : Intake) (lower upper : Option Float) : Prop :=
  (intake.bounds lower upper).map (fun kept => (boundOf kept.1, boundOf kept.2)) =
    some (boundOf (lower.getD 0), boundOf (upper.getD infinity))

/-- The number is kept, apart from the sign of a zero. -/
abbrev Keeps (intake : Intake) (x : Float) : Prop :=
  (intake.number x).map exact = some (exact x)

/-- Nothing that is offered for a formulation is refused or changed. -/
structure Accepts (intake : Intake) (f : Formulation) : Prop where
  bounds : ∀ entry ∈ sentVariables f,
    intake.ReadsBounds (offeredLower (boundsOf entry.2.current).1)
      (offeredUpper (boundsOf entry.2.current).2)
  cost : ∀ entry ∈ sentVariables f, intake.Keeps entry.2.current.cost
  coefficient : ∀ entry ∈ sentConstraints f,
    ∀ cell ∈ entriesOf ((sentVariables f).map (·.1)) (f.coefficients.cells.row entry.1),
      intake.Keeps cell.2
  rhs : ∀ entry ∈ sentConstraints f, intake.Keeps entry.2.current.rhs

variable (intake : Intake)

/-- The number that is kept, if one is. -/
def kept (x : Float) : Float := (intake.number x).getD 0

def keptEntries (offered : Entries) : Entries :=
  offered.map fun cell => (cell.1, intake.kept cell.2)

def keptColumn (v : Variable) : Column :=
  let bounds := (intake.bounds (offeredLower (boundsOf v.current).1)
    (offeredUpper (boundsOf v.current).2)).getD (0, infinity)
  ⟨v.name, bounds.1, bounds.2, isInteger v⟩

def keptObjective (sent : List (Ident × Variable)) : Entries :=
  (intake.keptEntries (sent.zipIdx.map fun entry => (entry.2, entry.1.2.current.cost))).filter
    (·.2 != 0)

def keptRow (f : Formulation) (entry : Ref × Constraint) : Row where
  name := entry.2.name
  entries := intake.keptEntries
    (entriesOf ((sentVariables f).map (·.1)) (f.coefficients.cells.row entry.1))
  sense := entry.2.current.sense
  rhs := intake.kept entry.2.current.rhs

variable {intake}

theorem Keeps.number {x : Float} (keeps : intake.Keeps x) :
    intake.number x = some (intake.kept x) := by
  obtain ⟨y, number, _⟩ := Option.map_eq_some_iff.1 keeps
  rw [kept, number, Option.getD_some]

theorem Keeps.exact_kept {x : Float} (keeps : intake.Keeps x) :
    exact (intake.kept x) = exact x := by
  obtain ⟨y, number, same⟩ := Option.map_eq_some_iff.1 keeps
  rw [kept, number, Option.getD_some, same]

theorem entriesOf?_eq {offered : Entries} (keeps : ∀ cell ∈ offered, intake.Keeps cell.2) :
    entriesOf? intake offered = some (intake.keptEntries offered) := by
  unfold entriesOf? keptEntries
  induction offered with
  | nil => rfl
  | cons cell rest ih =>
      have first := (keeps cell List.mem_cons_self).number
      rw [List.mapM_cons, first, ih fun other mem => keeps other (List.mem_cons_of_mem _ mem)]
      rfl

theorem keptColumn_integer (v : Variable) : (intake.keptColumn v).integer = isInteger v := rfl

/-- Entries that are kept have the coefficients of those that were offered. -/
theorem coefficientAt_keptEntries {offered : Entries}
    (keeps : ∀ cell ∈ offered, intake.Keeps cell.2) :
    coefficientAt (intake.keptEntries offered) = coefficientAt offered := by
  funext position
  refine coefficientAt_congr (List.forall₂_map_left_iff.2 (List.forall₂_same.2 ?_))
  exact fun cell mem => ⟨rfl, (keeps cell mem).exact_kept⟩

end Intake

variable {intake : Intake} {f : Formulation}

theorem columnOf?_eq {v : Variable}
    (reads : intake.ReadsBounds (offeredLower (boundsOf v.current).1)
      (offeredUpper (boundsOf v.current).2)) :
    columnOf? intake v = some (intake.keptColumn v) := by
  obtain ⟨bounds, offered, _⟩ := Option.map_eq_some_iff.1 reads
  rw [columnOf?, Intake.keptColumn, offered]
  rfl

/-- The bounds that are kept for a column mean those of its variable. -/
theorem boundOf_keptColumn {v : Variable}
    (reads : intake.ReadsBounds (offeredLower (boundsOf v.current).1)
      (offeredUpper (boundsOf v.current).2)) :
    boundOf (intake.keptColumn v).lower = lowerLimit ((0 : WithTop ℚ) : Limit) v ∧
      boundOf (intake.keptColumn v).upper = boundOf (boundsOf v.current).2 := by
  obtain ⟨bounds, offered, same⟩ := Option.map_eq_some_iff.1 reads
  obtain ⟨lower, upper⟩ := Prod.mk.inj same
  rw [Intake.keptColumn, offered, Option.getD_some]
  constructor
  · rw [lower, lowerLimit, offeredLower]
    split
    · exact boundOf_zero
    · rfl
  · rw [upper, offeredUpper]
    split
    · rename_i infinite
      rw [boundOf_of_beq_infinity infinite]
      exact boundOf_infinity
    · rfl

namespace Loaded

@[simp] theorem extend_some {α : Type} (l : Loaded) (a : α) (put : α → Loaded) :
    l.extend (some a) put = .ok (put a) () := rfl

theorem addColumns_eq {entries : List (Ident × Variable)} (l : Loaded)
    (reads : ∀ entry ∈ entries,
      intake.ReadsBounds (offeredLower (boundsOf entry.2.current).1)
        (offeredUpper (boundsOf entry.2.current).2)) :
    Outcome.forEach (addColumn intake) l entries =
      .ok
        { l with
          program :=
            { l.program with
              columns := l.program.columns ++ entries.map fun entry => intake.keptColumn entry.2 }
          columnIds := l.columnIds ++ entries.map (·.1)
          mip := l.mip || entries.any fun entry => isInteger entry.2 } () := by
  induction entries generalizing l with
  | nil => simp [Outcome.forEach]
  | cons entry rest ih =>
      have here := columnOf?_eq (reads entry List.mem_cons_self)
      rw [Outcome.forEach, addColumn, here, extend_some, Outcome.ok_andThen]
      refine (ih _ fun other mem => reads other (List.mem_cons_of_mem _ mem)).trans ?_
      simp [Intake.keptColumn_integer, Bool.or_assoc]

theorem addRows_eq {entries : List (Ref × Constraint)} (l : Loaded)
    (columnIds : l.columnIds = (sentVariables f).map (·.1))
    (taken : ∀ entry ∈ entries, rowOf? intake f ((sentVariables f).map (·.1)) entry =
      some (intake.keptRow f entry)) :
    Outcome.forEach (addRow intake f) l entries =
      .ok
        { l with
          program :=
            { l.program with rows := l.program.rows ++ entries.map (intake.keptRow f) }
          rowIds := l.rowIds ++ entries.map (·.1) } () := by
  induction entries generalizing l with
  | nil => simp [Outcome.forEach]
  | cons entry rest ih =>
      have here := taken entry List.mem_cons_self
      rw [Outcome.forEach, addRow, columnIds, here, extend_some, Outcome.ok_andThen]
      refine (ih _ rfl fun other mem => taken other (List.mem_cons_of_mem _ mem)).trans ?_
      simp

/-- The linear program that is loaded. -/
def linear (l : Loaded) : LinearProgram where
  columns := (l.columnIds.zip l.program.columns).zipIdx.map fun entry =>
    (entry.1.1,
      { cost := coefficientAt l.program.objective entry.2
        lower := boundOf entry.1.2.lower
        upper := boundOf entry.1.2.upper
        integer := entry.1.2.integer })
  rows := (l.rowIds.zip l.program.rows).map fun entry =>
    (entry.1,
      { condition := some (entry.2.sense, exact entry.2.rhs)
        coefficients := coefficientsOf l.program.columns.length entry.2.entries })

end Loaded

theorem rowOf?_eq (accepts : intake.Accepts f) {entry : Ref × Constraint}
    (sent : entry ∈ sentConstraints f) :
    rowOf? intake f ((sentVariables f).map (·.1)) entry = some (intake.keptRow f entry) := by
  rw [rowOf?, Intake.entriesOf?_eq (accepts.coefficient entry sent), Option.bind_eq_bind,
    Option.bind_some, (accepts.rhs entry sent).number]
  rfl

/-- Every cost is offered, under the position of its variable. -/
theorem keeps_offeredCosts (accepts : intake.Accepts f) :
    ∀ cell ∈ (sentVariables f).zipIdx.map fun entry => (entry.2, entry.1.2.current.cost),
      intake.Keeps cell.2 := by
  intro cell mem
  obtain ⟨entry, listed, rfl⟩ := List.mem_map.1 mem
  exact accepts.cost entry.1 (List.fst_mem_of_mem_zipIdx listed)

theorem load_eq (accepts : intake.Accepts f) :
    load intake f =
      .ok
        { program :=
            { name := "form_" ++ toString f.uid
              columns := (sentVariables f).map fun entry => intake.keptColumn entry.2
              objective := intake.keptObjective (sentVariables f)
              rows := (sentConstraints f).map (intake.keptRow f) }
          columnIds := (sentVariables f).map (·.1)
          rowIds := (sentConstraints f).map (·.1)
          mip := (sentVariables f).any fun entry => isInteger entry.2 } () := by
  have objective : objectiveOf? intake (sentVariables f) =
      some (intake.keptObjective (sentVariables f)) := by
    rw [objectiveOf?, Intake.entriesOf?_eq (keeps_offeredCosts accepts)]
    rfl
  rw [load, Loaded.addColumns_eq _ accepts.bounds, Outcome.ok_andThen, Loaded.setObjective,
    objective, Loaded.extend_some, Outcome.ok_andThen]
  refine (Loaded.addRows_eq _ ?_ fun entry sent => rowOf?_eq accepts sent).trans ?_
  · rfl
  · simp [Loaded.empty]

/-- The objective has the cost of each sent variable at its position. -/
theorem coefficientAt_keptObjective (accepts : intake.Accepts f) {position : Nat}
    (sent : position < (sentVariables f).length) :
    coefficientAt (intake.keptObjective (sentVariables f)) position =
      exact (sentVariables f)[position].2.current.cost := by
  rw [Intake.keptObjective, coefficientAt_filter_nonzero,
    Intake.coefficientAt_keptEntries (keeps_offeredCosts accepts)]
  apply coefficientAt_of_mem
  · have positions : ((sentVariables f).zipIdx.map fun entry =>
        (entry.2, entry.1.2.current.cost)).map (·.1) = List.range (sentVariables f).length := by
      rw [List.map_map, List.range_eq_range', ← List.zipIdx_map_snd 0 (sentVariables f)]
      rfl
    rw [positions]
    exact List.nodup_range
  · refine List.mem_map.2 ⟨((sentVariables f)[position], position), ?_, rfl⟩
    rw [List.mem_zipIdx_iff_getElem?]
    exact List.getElem?_eq_getElem sent

/-- The load is not refused, and what it leaves is the formulation's program with zero for every
missing lower bound. -/
theorem linear_load (accepts : intake.Accepts f) :
    (load intake f).result = .ok () ∧
      (load intake f).state.linear = linearOf ((0 : WithTop ℚ) : Limit) f := by
  rw [load_eq accepts]
  refine ⟨rfl, ?_⟩
  rw [Outcome.ok_state, Loaded.linear, linearOf, LinearProgram.mk.injEq]
  constructor
  · refine List.ext_getElem (by simp) fun position _ inRange => ?_
    have sent : position < (sentVariables f).length := by simpa using inRange
    have bounds := boundOf_keptColumn (accepts.bounds _ (List.getElem_mem sent))
    simpa [coefficientAt_keptObjective accepts sent, Intake.keptColumn_integer] using bounds
  · rw [List.zip_map', List.map_map]
    refine List.map_congr_left fun entry sent => ?_
    have coefficients := coefficientsOf_entriesOf f entry.1
    have entries := Intake.coefficientAt_keptEntries (accepts.coefficient entry sent)
    rw [coefficientsOf, ← entries] at coefficients
    rw [← coefficients]
    simp [Intake.keptRow, (accepts.rhs entry sent).exact_kept, coefficientsOf]

end Decomposition.Cplex
