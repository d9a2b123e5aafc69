import Decomposition.Proofs.Solver.ReadBack

namespace Decomposition.Highs
open Solver

/-- A column without its integer mark. -/
def Column.unmarked (c : Column) : Column := { c with integer := false }

namespace Intake
variable (intake : Intake) (f : Formulation)

def takesColumn (entry : Ident × Variable) : Bool := (intake.column (columnOf entry.2)).isSome

/-- The sent variables whose columns the solver takes. -/
def takenVariables : List (Ident × Variable) := (sentVariables f).filter intake.takesColumn

/-- A row is offered when all columns have been offered. -/
def keptRow (entry : Ref × Constraint) : Option Row :=
  intake.row (intake.takenVariables f).length (offeredRow f entry)

/-- The sent constraints whose rows the solver takes. -/
def takenConstraints : List (Ref × Constraint) :=
  (sentConstraints f).filter fun entry => (intake.keptRow f entry).isSome

end Intake

/-- Every column and every row of a program with the variable or the constraint that it was offered
for. -/
structure Belongs (intake : Intake) (f : Formulation) (p : Program) : Prop where
  columns : List.Forall₂
    (fun entry c => (intake.column (columnOf entry.2)).map Column.unmarked = some c.unmarked)
    (intake.takenVariables f) p.columns
  rows : List.Forall₂ (fun entry r => intake.row p.columns.length (offeredRow f entry) = some r)
    (intake.takenConstraints f) p.rows

/-- At every position, the listed key is that of the column or of the row. The keys of all that is
offered are listed, while a refused column or row leaves no position free. -/
structure KeysInPlace (intake : Intake) (f : Formulation) (l : Loaded) : Prop where
  columns : l.columnIds = (intake.takenVariables f).map (·.1)
  rows : l.rowIds = (intake.takenConstraints f).map (·.1)

section Lists

/-- What a filter keeps stands position by position beside what is made of it. -/
theorem forall₂_filterMap {α β : Type} (make : α → Option β) (items : List α) :
    List.Forall₂ (fun a b => make a = some b) (items.filter fun a => (make a).isSome)
      (items.filterMap make) := by
  induction items with
  | nil => exact .nil
  | cons a rest ih =>
      cases made : make a with
      | none => simpa [made] using ih
      | some b => simpa [made] using ih

/-- A filter that drops nothing is seen from the lengths. -/
theorem length_le_filter_iff {α : Type} (keep : α → Bool) (items : List α) :
    items.length ≤ (items.filter keep).length ↔ ∀ a ∈ items, keep a = true := by
  rw [← List.length_filter_eq_length_iff]
  have shorter := List.length_filter_le keep items
  omega

theorem map_unmarked_markInteger (columns : List Column) (position : Nat) :
    (Loaded.markInteger columns position).map Column.unmarked = columns.map Column.unmarked := by
  rw [Loaded.markInteger]
  induction columns generalizing position with
  | nil => simp
  | cons c rest ih =>
      cases position with
      | zero => rfl
      | succ position => simp [ih]

end Lists

namespace Loaded
variable {intake : Intake} {f : Formulation}

/-- One variable is listed in any case, and its column is there if the solver takes it. -/
theorem addColumn_columns (l : Loaded) (entry : Ident × Variable) :
    (l.addColumn intake entry).program.columns.map Column.unmarked =
      l.program.columns.map Column.unmarked ++
        ((intake.column (columnOf entry.2)).map Column.unmarked).toList := by
  have grown : (l.program.columns ++ (intake.column (columnOf entry.2)).toList).map
        Column.unmarked =
      l.program.columns.map Column.unmarked ++
        ((intake.column (columnOf entry.2)).map Column.unmarked).toList := by
    cases intake.column (columnOf entry.2) <;> simp
  rw [← grown, addColumn]
  dsimp only
  split
  · exact map_unmarked_markInteger _ _
  · rfl

/-- What the offered columns add. -/
structure Columns (intake : Intake) (entries : List (Ident × Variable)) (l m : Loaded) :
    Prop where
  columns : m.program.columns.map Column.unmarked = l.program.columns.map Column.unmarked ++
    entries.filterMap fun entry => (intake.column (columnOf entry.2)).map Column.unmarked
  rows : m.program.rows = l.program.rows
  columnIds : m.columnIds = l.columnIds ++ entries.map (·.1)
  rowIds : m.rowIds = l.rowIds

theorem columns_foldl (entries : List (Ident × Variable)) (l : Loaded) :
    Columns intake entries l (entries.foldl (addColumn intake) l) := by
  induction entries generalizing l with
  | nil => exact ⟨by simp, rfl, by simp, rfl⟩
  | cons entry rest ih =>
      have others := ih (l.addColumn intake entry)
      constructor
      · rw [List.foldl_cons, others.columns, addColumn_columns, List.append_assoc]
        cases taken : intake.column (columnOf entry.2) <;> simp [taken]
      · exact others.rows
      · rw [List.foldl_cons, others.columnIds]
        simp [addColumn]
      · exact others.rowIds

/-- What the offered rows add. -/
structure Rows (intake : Intake) (f : Formulation) (entries : List (Ref × Constraint))
    (l m : Loaded) : Prop where
  columns : m.program.columns = l.program.columns
  rows : m.program.rows = l.program.rows ++
    entries.filterMap fun entry => intake.row l.program.columns.length (offeredRow f entry)
  columnIds : m.columnIds = l.columnIds
  rowIds : m.rowIds = l.rowIds ++ entries.map (·.1)

theorem rows_foldl (entries : List (Ref × Constraint)) {l : Loaded}
    (columnIds : l.columnIds = (sentVariables f).map (·.1)) :
    Rows intake f entries l (entries.foldl (addRow intake f) l) := by
  induction entries generalizing l with
  | nil => exact ⟨rfl, by simp, rfl, by simp⟩
  | cons entry rest ih =>
      have here : l.addRow intake f entry =
          { l with
            program := ⟨l.program.columns, l.program.rows ++
              (intake.row l.program.columns.length (offeredRow f entry)).toList⟩
            rowIds := l.rowIds ++ [entry.1] } := by
        rw [addRow, columnIds]
        rfl
      have others := ih (l := l.addRow intake f entry) columnIds
      rw [here] at others
      rw [List.foldl_cons, here]
      constructor
      · exact others.columns
      · rw [others.rows]
        cases taken : intake.row l.program.columns.length (offeredRow f entry) <;> simp [taken]
      · exact others.columnIds
      · rw [others.rowIds]
        simp

end Loaded

section Load
variable (intake : Intake) (f : Formulation)

theorem load_parts : ∃ withColumns,
    Loaded.Columns intake (sentVariables f) .empty withColumns ∧
      Loaded.Rows intake f (sentConstraints f) withColumns (load intake f) := by
  have columns : Loaded.Columns intake (sentVariables f) .empty _ := Loaded.columns_foldl _ _
  exact ⟨_, columns, Loaded.rows_foldl _ columns.columnIds⟩

/-- The keys of all that is offered are listed. -/
theorem columnIds_load : (load intake f).columnIds = (sentVariables f).map (·.1) := by
  obtain ⟨_, columns, rows⟩ := load_parts intake f
  simp [rows.columnIds, columns.columnIds, Loaded.empty]

theorem rowIds_load : (load intake f).rowIds = (sentConstraints f).map (·.1) := by
  obtain ⟨_, columns, rows⟩ := load_parts intake f
  simp [rows.rowIds, columns.rowIds, Loaded.empty]

/-- What is refused leaves nothing in the program. -/
theorem belongs_load : Belongs intake f (load intake f).program := by
  obtain ⟨withColumns, columns, rows⟩ := load_parts intake f
  have taken : List.Forall₂
      (fun entry c => (intake.column (columnOf entry.2)).map Column.unmarked = some c.unmarked)
      (intake.takenVariables f) (load intake f).program.columns := by
    have kept := forall₂_filterMap
      (fun entry : Ident × Variable => (intake.column (columnOf entry.2)).map Column.unmarked)
      (sentVariables f)
    have listed : withColumns.program.columns.map Column.unmarked = _ := columns.columns
    rw [Loaded.empty, Program.empty, List.map_nil, List.nil_append] at listed
    rw [← listed, List.forall₂_map_right_iff] at kept
    simp only [Option.isSome_map] at kept
    rw [rows.columns]
    exact kept
  refine ⟨taken, ?_⟩
  have width : withColumns.program.columns.length = (intake.takenVariables f).length := by
    rw [← rows.columns]
    exact taken.length_eq.symm
  rw [rows.rows, rows.columns, columns.rows, width]
  exact forall₂_filterMap (intake.keptRow f) (sentConstraints f)

end Load

section InPlace
variable {intake : Intake} {f : Formulation}

theorem length_columns :
    (load intake f).program.columns.length = (intake.takenVariables f).length :=
  (belongs_load intake f).columns.length_eq.symm

theorem length_rows : (load intake f).program.rows.length = (intake.takenConstraints f).length :=
  (belongs_load intake f).rows.length_eq.symm

/-- No column is refused if there are as many as identifiers. -/
theorem length_columnIds_le_iff :
    (sentVariables f).length ≤ (load intake f).program.columns.length ↔
      ∀ entry ∈ sentVariables f, intake.takesColumn entry = true := by
  rw [length_columns, Intake.takenVariables, length_le_filter_iff]

theorem length_rowIds_le_iff :
    (sentConstraints f).length ≤ (load intake f).program.rows.length ↔
      ∀ entry ∈ sentConstraints f, (intake.keptRow f entry).isSome = true := by
  rw [length_rows, Intake.takenConstraints, length_le_filter_iff]

theorem takenVariables_eq (takes : ∀ entry ∈ sentVariables f, intake.takesColumn entry = true) :
    intake.takenVariables f = sentVariables f :=
  List.filter_eq_self.2 takes

theorem takenConstraints_eq
    (takes : ∀ entry ∈ sentConstraints f, (intake.keptRow f entry).isSome = true) :
    intake.takenConstraints f = sentConstraints f :=
  List.filter_eq_self.2 takes

/-- Nothing is refused if there are as many columns and rows as keys. -/
theorem takesAll_iff :
    intake.TakesAll f ↔
      (∀ entry ∈ sentVariables f, intake.takesColumn entry = true) ∧
        ∀ entry ∈ sentConstraints f, (intake.keptRow f entry).isSome = true := by
  constructor
  · intro takes
    refine ⟨takes.column, fun entry sent => ?_⟩
    rw [Intake.keptRow, takenVariables_eq takes.column]
    exact takes.row entry sent
  · rintro ⟨columns, rows⟩
    refine ⟨columns, fun entry sent => ?_⟩
    have kept := rows entry sent
    rw [Intake.keptRow, takenVariables_eq columns] at kept
    exact kept

theorem keysInPlace_iff : KeysInPlace intake f (load intake f) ↔ intake.TakesAll f := by
  rw [takesAll_iff]
  constructor
  · intro inPlace
    have columns := congrArg List.length ((columnIds_load intake f).symm.trans inPlace.columns)
    have rows := congrArg List.length ((rowIds_load intake f).symm.trans inPlace.rows)
    rw [List.length_map, List.length_map] at columns rows
    rw [← length_columnIds_le_iff, ← length_rowIds_le_iff, length_columns, length_rows]
    exact ⟨columns.le, rows.le⟩
  · rintro ⟨columns, rows⟩
    constructor
    · rw [columnIds_load, takenVariables_eq columns]
    · rw [rowIds_load, takenConstraints_eq rows]

end InPlace

section Reading
variable {intake : Intake} {f : Formulation} {l : Loaded} {a : Answer}

theorem primalValues_refused_iff :
    primalValues l a = .error .noSuchPosition ↔ a.columnValues.length < l.columnIds.length := by
  rw [primalValues, byPosition, List.length_map]
  split
  · simp only [Except.map, reduceCtorEq, false_iff, not_lt]
    assumption
  · simp only [Except.map, true_iff]
    omega

/-- Duals are not asked for in an integer program, or if the solver has none. -/
theorem dualValues_refused_iff :
    dualValues l a = .error .noSuchPosition ↔
      l.mip = false ∧ a.dualsValid = true ∧ a.rowDuals.length < l.rowIds.length := by
  rw [dualValues, byPosition]
  cases l.mip <;> cases a.dualsValid <;> simp
  split
  · simp only [Except.map, reduceCtorEq, false_iff, not_lt]
    assumption
  · simp only [Except.map, true_iff]
    omega

theorem length_le_of_primalValues {values : Values} (read : primalValues l a = .ok values) :
    l.columnIds.length ≤ a.columnValues.length := by
  by_contra short
  rw [primalValues_refused_iff.2 (Nat.lt_of_not_le short)] at read
  cases read

theorem length_le_of_dualValues {duals : Values} (read : dualValues l a = .ok (some duals)) :
    l.rowIds.length ≤ a.rowDuals.length := by
  rw [dualValues, byPosition] at read
  split at read
  · cases read
  · split at read
    · assumption
    · cases read

/-- What is read back is refused if a key has no number, and is otherwise that of the key's own
column or row. -/
structure ReadsOwn (intake : Intake) (f : Formulation) (l : Loaded) (a : Answer) : Prop where
  primal_refused : primalValues l a = .error .noSuchPosition ↔
    ∃ entry ∈ sentVariables f, intake.takesColumn entry = false
  primal_own : ∀ values, primalValues l a = .ok values →
    ∀ (position : Nat) entry, (intake.takenVariables f)[position]? = some entry →
      ∃ v, a.columnValues[position]? = some v ∧
        values.get? entry.1 = if v.abs > Binary64.ofDecimal false 1 (-10) then some v else none
  dual_refused : dualValues l a = .error .noSuchPosition ↔
    l.mip = false ∧ a.dualsValid = true ∧
      ∃ entry ∈ sentConstraints f, intake.keptRow f entry = none
  dual_own : ∀ duals, dualValues l a = .ok (some duals) →
    ∀ (position : Nat) entry, (intake.takenConstraints f)[position]? = some entry →
      ∃ v, a.rowDuals[position]? = some v ∧ duals.get? entry.1 = some v

theorem readsOwn_load (complete : a.Complete (load intake f)) :
    ReadsOwn intake f (load intake f) a := by
  have columns : a.columnValues.length < (load intake f).columnIds.length ↔
      ¬ ∀ entry ∈ sentVariables f, intake.takesColumn entry = true := by
    rw [← length_columnIds_le_iff, complete.values, columnIds_load, List.length_map, not_le]
  have rows : a.rowDuals.length < (load intake f).rowIds.length ↔
      ¬ ∀ entry ∈ sentConstraints f, (intake.keptRow f entry).isSome = true := by
    rw [← length_rowIds_le_iff, complete.duals, rowIds_load, List.length_map, not_le]
  constructor
  · rw [primalValues_refused_iff, columns]
    simp
  · intro values read position entry taken
    have takes : ∀ entry ∈ sentVariables f, intake.takesColumn entry = true := by
      by_contra refused
      exact absurd (length_le_of_primalValues read) (Nat.not_le.2 (columns.2 refused))
    rw [takenVariables_eq takes] at taken
    have lengths : a.columnValues.length = (sentRefs f).length := by
      rw [complete.values, length_columns, takenVariables_eq takes, sentRefs, List.length_map,
        List.length_map]
    have refs : (load intake f).columnIds.map Ref.ident = sentRefs f := by
      rw [columnIds_load, sentRefs]
    rw [primalValues_of_sent refs lengths] at read
    cases read
    exact get?_solvedValues lengths taken
  · rw [dualValues_refused_iff, rows]
    simp
  · intro duals read position entry taken
    have takes : ∀ entry ∈ sentConstraints f, (intake.keptRow f entry).isSome = true := by
      by_contra refused
      exact absurd (length_le_of_dualValues read) (Nat.not_le.2 (rows.2 refused))
    rw [takenConstraints_eq takes] at taken
    have lengths : a.rowDuals.length = ((sentConstraints f).map (·.1)).length := by
      rw [complete.duals, length_rows, takenConstraints_eq takes, List.length_map]
    rw [dualValues_of_sent (rowIds_load intake f) lengths] at read
    split at read
    · cases read
    · cases read
      exact get?_solvedDuals lengths taken

end Reading

/-- The lists hold the keys of all that was offered. They are those of the program's columns and
rows exactly if nothing was refused, and then have as many entries. Otherwise reading by position is
refused, and nothing that is read back belongs to another key. -/
theorem load_keysInPlace_iff (intake : Intake) (f : Formulation) :
    Belongs intake f (load intake f).program ∧
    (load intake f).columnIds = (sentVariables f).map (·.1) ∧
    (load intake f).rowIds = (sentConstraints f).map (·.1) ∧
    (KeysInPlace intake f (load intake f) ↔ intake.TakesAll f) ∧
    ((load intake f).columnIds.length = (load intake f).program.columns.length ∧
      (load intake f).rowIds.length = (load intake f).program.rows.length ↔ intake.TakesAll f) ∧
    ∀ a : Answer, a.Complete (load intake f) → ReadsOwn intake f (load intake f) a := by
  refine ⟨belongs_load intake f, columnIds_load intake f, rowIds_load intake f, keysInPlace_iff,
    ?_, fun a complete => readsOwn_load complete⟩
  rw [takesAll_iff, ← length_columnIds_le_iff, ← length_rowIds_le_iff, columnIds_load, rowIds_load,
    List.length_map, List.length_map]
  have columns : (load intake f).program.columns.length ≤ (sentVariables f).length := by
    rw [length_columns]
    exact List.length_filter_le _ _
  have rows : (load intake f).program.rows.length ≤ (sentConstraints f).length := by
    rw [length_rows]
    exact List.length_filter_le _ _
  omega

/-- The lower bound of the first variable is infinite, so its column is refused. -/
def halfRefused : Formulation :=
  Formulation.run (.empty 1 .compact none)
    [.createVariable 1 ⟨"x", .compactVar, { VarData.plain with lb := Binary64.infinity }, .static⟩
        none,
      .createVariable 2 ⟨"y", .compactVar, { VarData.plain with ub := 4 }, .static⟩ none]

/-- The only column is the one of the second variable, and its value is not read back. -/
theorem load_halfRefused :
    let a : Answer := ⟨"kOptimal", feasible, 0, 0, [3], [], false⟩
    a.Complete (load Intake.limits halfRefused) ∧
      primalValues (load Intake.limits halfRefused) a = .error .noSuchPosition := by
  intro a
  have complete : a.Complete (load Intake.limits halfRefused) :=
    { values := by decide +kernel
      duals := by decide +kernel }
  have refused : ∃ entry ∈ sentVariables halfRefused,
      Intake.limits.takesColumn entry = false := by decide +kernel
  obtain ⟨_, _, _, _, _, reads⟩ := load_keysInPlace_iff Intake.limits halfRefused
  exact ⟨complete, (reads a complete).primal_refused.2 refused⟩

/-- The program has one column, that of the second variable, and the identifier that is listed for
it is that of the first one. -/
theorem refused_column_shifts :
    let l := load Intake.limits halfRefused
    l.program.columns = [⟨0, 0, 4, false⟩] ∧ l.columnIds.map (·.uid) = [1, 2] ∧
      (Intake.limits.takenVariables halfRefused).map (·.1.uid) = [2] ∧
      ¬ KeysInPlace Intake.limits halfRefused l := by
  intro l
  have listed : l.columnIds.map (·.uid) = [1, 2] := by decide +kernel
  have taken : (Intake.limits.takenVariables halfRefused).map (·.1.uid) = [2] := by decide +kernel
  refine ⟨by decide +kernel, listed, taken, fun inPlace => ?_⟩
  rw [inPlace.columns, List.map_map] at listed
  cases taken.symm.trans listed

end Decomposition.Highs
