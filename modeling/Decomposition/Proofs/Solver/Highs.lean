import Decomposition.Proofs.Formulation.Operation
import Decomposition.Proofs.Solver.Sent
import Decomposition.Solver.Highs
import Mathlib.Data.List.Forall2

namespace Decomposition.Highs
open Solver

/-- A column tells the current cost, the current bounds within the sign restriction, and whether
the variable is to be an integer. -/
structure ColumnDenotes (v : Variable) (c : Column) : Prop where
  cost : c.cost = v.current.cost
  lower : c.lower =
    if v.current.sense = .positive then raiseTo 0 v.current.lb else v.current.lb
  upper : c.upper =
    if v.current.sense = .negative then lowerTo 0 v.current.ub else v.current.ub
  integer : c.integer = true ↔ v.current.kind ≠ .continuous

/-- A row tells the interval of the current sense and right-hand side, and the coefficients of the
sent variables, each once. -/
structure RowDenotes (f : Formulation) (entry : Ref × Constraint) (r : Row) : Prop where
  lower : r.lower =
    if entry.2.current.sense = .less then Binary64.negativeInfinity else entry.2.current.rhs
  upper : r.upper =
    if entry.2.current.sense = .greater then Binary64.infinity else entry.2.current.rhs
  once : (r.entries.map (·.1)).Nodup
  inRange : ∀ cell ∈ r.entries, cell.1 < (sentVariables f).length
  coefficients : ∀ position (inRange : position < (sentVariables f).length) v,
    (position, v) ∈ r.entries ↔
      f.coefficients.cells.get? entry.1 (sentVariables f)[position].1 = some v

/-- The program is the one that the formulation's current state denotes. -/
structure Denotes (f : Formulation) (l : Loaded) : Prop where
  columns : List.Forall₂ (fun entry c => ColumnDenotes entry.2 c) (sentVariables f)
    l.program.columns
  rows : List.Forall₂ (RowDenotes f) (sentConstraints f) l.program.rows
  columnIds : l.columnIds = (sentVariables f).map (·.1)
  rowIds : l.rowIds = (sentConstraints f).map (·.1)
  mip : l.mip = true ↔ ∃ entry ∈ sentVariables f, entry.2.current.kind ≠ .continuous

/-- The row that is offered for a constraint. -/
def offeredRow (f : Formulation) (entry : Ref × Constraint) : Row :=
  ⟨(intervalOf entry.2).1, (intervalOf entry.2).2,
    entriesOf ((sentVariables f).map (·.1)) (f.coefficients.cells.row entry.1)⟩

/-- The column of a variable after its integer mark. -/
def markedColumn (v : Variable) : Column := { columnOf v with integer := isInteger v }

/-- Every column and every row that is offered for a formulation is taken in some form. -/
structure Intake.TakesAll (intake : Intake) (f : Formulation) : Prop where
  column : ∀ entry ∈ sentVariables f, (intake.column (columnOf entry.2)).isSome = true
  row : ∀ entry ∈ sentConstraints f,
    (intake.row (sentVariables f).length (offeredRow f entry)).isSome = true

/-- The column that the solver has for a variable, with its integer mark. -/
def Intake.takenColumn (intake : Intake) (v : Variable) : Column :=
  let taken := (intake.column (columnOf v)).getD (columnOf v)
  if isInteger v then { taken with integer := true } else taken

/-- The row that the solver has for a constraint. -/
def Intake.takenRow (intake : Intake) (f : Formulation) (entry : Ref × Constraint) : Row :=
  (intake.row (sentVariables f).length (offeredRow f entry)).getD (offeredRow f entry)

/-- Every column and every row that is offered for a formulation is kept as it is. -/
structure Intake.Accepts (intake : Intake) (f : Formulation) : Prop where
  column : ∀ entry ∈ sentVariables f,
    intake.column (columnOf entry.2) = some (columnOf entry.2)
  row : ∀ entry ∈ sentConstraints f,
    intake.row (sentVariables f).length (offeredRow f entry) = some (offeredRow f entry)

namespace Loaded
variable {intake : Intake} {f : Formulation}

/-- The mark of the last column. -/
theorem markInteger_append (columns : List Column) (c : Column) :
    markInteger (columns ++ [c]) columns.length = columns ++ [{ c with integer := true }] := by
  rw [markInteger]
  induction columns with
  | nil => rfl
  | cons head rest ih => simp [ih]

theorem addColumn_eq {l : Loaded} {entry : Ident × Variable}
    (aligned : l.program.columns.length = l.columnIds.length)
    (taken : (intake.column (columnOf entry.2)).isSome = true) :
    l.addColumn intake entry =
      { program := ⟨l.program.columns ++ [intake.takenColumn entry.2], l.program.rows⟩
        columnIds := l.columnIds ++ [entry.1]
        rowIds := l.rowIds
        mip := l.mip || isInteger entry.2 } := by
  obtain ⟨c, offered⟩ := Option.isSome_iff_exists.1 taken
  rw [addColumn, Intake.takenColumn, offered, Option.toList_some, Option.getD_some, ← aligned,
    markInteger_append]
  cases isInteger entry.2 <;> rfl

/-- Columns stay aligned with their identifiers. -/
theorem addColumns_eq {entries : List (Ident × Variable)} {l : Loaded}
    (aligned : l.program.columns.length = l.columnIds.length)
    (taken : ∀ entry ∈ entries, (intake.column (columnOf entry.2)).isSome = true) :
    entries.foldl (addColumn intake) l =
      { program :=
          ⟨l.program.columns ++ entries.map (fun entry => intake.takenColumn entry.2),
            l.program.rows⟩
        columnIds := l.columnIds ++ entries.map (·.1)
        rowIds := l.rowIds
        mip := l.mip || entries.any fun entry => isInteger entry.2 } := by
  induction entries generalizing l with
  | nil => simp
  | cons entry rest ih =>
      rw [List.foldl_cons, addColumn_eq aligned (taken entry List.mem_cons_self),
        ih (by simp [aligned]) fun other mem => taken other (List.mem_cons_of_mem _ mem)]
      simp [Bool.or_assoc]

theorem addRows_eq {entries : List (Ref × Constraint)} {l : Loaded}
    (columnIds : l.columnIds = (sentVariables f).map (·.1))
    (width : l.program.columns.length = (sentVariables f).length)
    (taken : ∀ entry ∈ entries,
      (intake.row (sentVariables f).length (offeredRow f entry)).isSome = true) :
    entries.foldl (addRow intake f) l =
      { l with
        program := ⟨l.program.columns, l.program.rows ++ entries.map (intake.takenRow f)⟩
        rowIds := l.rowIds ++ entries.map (·.1) } := by
  induction entries generalizing l with
  | nil => simp
  | cons entry rest ih =>
      have here : l.addRow intake f entry =
          { l with
            program := ⟨l.program.columns, l.program.rows ++ [intake.takenRow f entry]⟩
            rowIds := l.rowIds ++ [entry.1] } := by
        obtain ⟨r, offered⟩ := Option.isSome_iff_exists.1 (taken entry List.mem_cons_self)
        rw [Intake.takenRow, offered]
        rw [offeredRow] at offered
        rw [addRow, columnIds, width]
        dsimp only
        rw [offered]
        rfl
      rw [List.foldl_cons, here]
      refine (ih ?_ ?_ fun other mem => taken other (List.mem_cons_of_mem _ mem)).trans ?_
      · exact columnIds
      · exact width
      · simp

end Loaded

variable {intake : Intake} {f : Formulation}

/-- The program depends on the stores and the coefficients only. -/
theorem load_congr (intake : Intake) {g : Formulation} (vars : g.vars = f.vars)
    (constrs : g.constrs = f.constrs) (coefficients : g.coefficients = f.coefficients) :
    load intake g = load intake f := by
  have row : Loaded.addRow intake g = Loaded.addRow intake f := by
    funext l entry
    rw [Loaded.addRow, Loaded.addRow, coefficients]
  rw [load, load, row, sentVariables, sentVariables, sentConstraints, sentConstraints, vars,
    constrs]

/-- Columns and rows stand at the positions of their identifiers. -/
theorem load_taken (takes : intake.TakesAll f) :
    load intake f =
      { program :=
          ⟨(sentVariables f).map (fun entry => intake.takenColumn entry.2),
            (sentConstraints f).map (intake.takenRow f)⟩
        columnIds := (sentVariables f).map (·.1)
        rowIds := (sentConstraints f).map (·.1)
        mip := (sentVariables f).any fun entry => isInteger entry.2 } := by
  rw [load, Loaded.addColumns_eq rfl takes.column, Loaded.addRows_eq _ _ takes.row]
  · simp [Loaded.empty, Program.empty]
  · rfl
  · simp [Loaded.empty, Program.empty]

theorem Intake.Accepts.takesAll (accepts : intake.Accepts f) : intake.TakesAll f where
  column entry sent := by rw [accepts.column entry sent, Option.isSome_some]
  row entry sent := by rw [accepts.row entry sent, Option.isSome_some]

theorem load_eq (accepts : intake.Accepts f) :
    load intake f =
      { program :=
          ⟨(sentVariables f).map (fun entry => markedColumn entry.2),
            (sentConstraints f).map (offeredRow f)⟩
        columnIds := (sentVariables f).map (·.1)
        rowIds := (sentConstraints f).map (·.1)
        mip := (sentVariables f).any fun entry => isInteger entry.2 } := by
  have columns : (sentVariables f).map (fun entry => intake.takenColumn entry.2) =
      (sentVariables f).map fun entry => markedColumn entry.2 := by
    refine List.map_congr_left fun entry sent => ?_
    rw [Intake.takenColumn, accepts.column entry sent, Option.getD_some, markedColumn]
    cases isInteger entry.2 <;> rfl
  have rows : (sentConstraints f).map (intake.takenRow f) =
      (sentConstraints f).map (offeredRow f) := by
    refine List.map_congr_left fun entry sent => ?_
    rw [Intake.takenRow, accepts.row entry sent, Option.getD_some]
  rw [load_taken accepts.takesAll, columns, rows]

theorem isInteger_iff (v : Variable) : isInteger v = true ↔ v.current.kind ≠ .continuous := by
  rw [isInteger]
  cases v.current.kind <;> decide

theorem columnDenotes_markedColumn (v : Variable) : ColumnDenotes v (markedColumn v) where
  cost := rfl
  lower := by
    change (boundsOf v.current).1 = _
    rw [boundsOf]
    cases v.current.sense <;> rfl
  upper := by
    change (boundsOf v.current).2 = _
    rw [boundsOf]
    cases v.current.sense <;> rfl
  integer := isInteger_iff v

theorem rowDenotes_offeredRow (f : Formulation) (entry : Ref × Constraint) :
    RowDenotes f entry (offeredRow f entry) where
  lower := by
    change (intervalOf entry.2).1 = _
    rw [intervalOf]
    cases entry.2.current.sense <;> rfl
  upper := by
    change (intervalOf entry.2).2 = _
    rw [intervalOf]
    cases entry.2.current.sense <;> rfl
  once := entriesOf_nodup _ _
  inRange cell mem := by
    obtain ⟨inRange, _⟩ := mem_sentRow.1 mem
    exact inRange
  coefficients position inRange v := by
    have sent : (position, v) ∈ (offeredRow f entry).entries ↔ _ := mem_sentRow
    rw [sent]
    simp [inRange]

/-- What is loaded is the program that the formulation denotes. -/
theorem load_denotes (accepts : intake.Accepts f) : Denotes f (load intake f) := by
  rw [load_eq accepts]
  exact
    { columns := List.forall₂_map_right_iff.2
        (List.forall₂_same.2 fun entry _ => columnDenotes_markedColumn entry.2)
      rows := List.forall₂_map_right_iff.2
        (List.forall₂_same.2 fun entry _ => rowDenotes_offeredRow f entry)
      columnIds := rfl
      rowIds := rfl
      mip := by simp only [List.any_eq_true, isInteger_iff] }

deriving instance DecidableEq for Column, Row

/-- One variable is not explicit, one constraint is not active, and the row also has a coefficient
of an unknown variable. -/
def smallProgram : Formulation :=
  Formulation.run (.empty 1 .compact none)
    [.createVariable 1
        ⟨"", .compactVar, ⟨3, -5, 4, .integer, .negative, true, true⟩, .static⟩ none,
      .createVariable 2 ⟨"", .compactVar, { VarData.plain with explicit := false }, .static⟩ none,
      .createVariable 3 ⟨"", .compactVar, { VarData.plain with cost := 1 }, .static⟩ none,
      .createConstraint 1 ⟨"", .compactConstr, { ConstrData.plain with sense := .less }, .static⟩
        (some (.ofList [(Ident.ofVar 2, 1), (Ident.ofVar 9, 7), (Ident.ofVar 3, -1),
          (Ident.ofVar 1, 2)])),
      .createConstraint 2 ⟨"", .compactConstr, .plain, .static⟩ none,
      .setRhs (Ident.ofConstr 1) 6,
      .setActive (Ident.ofConstr 2) false]

theorem load_smallProgram :
    Intake.limits.Accepts smallProgram ∧ Denotes smallProgram (load Intake.limits smallProgram) ∧
      (load Intake.limits smallProgram).program.columns.length = 2 ∧
      (load Intake.limits smallProgram).program.rows.map (fun row => row.entries.map (·.1)) =
        [[1, 0]] := by
  have accepts : Intake.limits.Accepts smallProgram :=
    { column := by decide +kernel
      row := by decide +kernel }
  exact ⟨accepts, load_denotes accepts, by decide +kernel, by decide +kernel⟩

end Decomposition.Highs
