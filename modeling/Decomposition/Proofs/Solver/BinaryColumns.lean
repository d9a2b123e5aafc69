import Decomposition.Proofs.Formulation.UnitBounds
import Decomposition.Proofs.Solver.Cplex
import Decomposition.Proofs.Solver.Highs

namespace Decomposition
open Binary64

namespace Solver

/-- What a column lets its variable be. -/
structure Extent where
  lower : Float
  upper : Float
  integer : Bool
deriving DecidableEq

/-- Zero and one are all that is left. -/
structure Extent.IsUnit (e : Extent) : Prop where
  lower : 0 ≤ e.lower
  upper : e.upper ≤ 1
  integer : e.integer = true

/-- Columns stand for variables, in order, and those of binary variables leave zero and one. -/
structure UnitColumns (sent : List (Ident × Variable)) (ids : List Ident) (columns : List Extent) :
    Prop where
  ids : ids = sent.map (·.1)
  columns : List.Forall₂ (fun entry e => entry.2.current.kind = .binary → e.IsUnit) sent columns

/-- The sign restriction does not lead out of the unit interval. -/
theorem boundsOf_inUnit {d : VarData} (within : d.InUnit) (binary : d.kind = .binary) :
    0 ≤ (boundsOf d).1 ∧ (boundsOf d).2 ≤ 1 := by
  obtain ⟨lower, upper⟩ := within binary
  unfold boundsOf
  split
  · exact ⟨zero_le_raiseTo (le_iff_place.1 lower).2.1, upper⟩
  · refine ⟨lower, ?_⟩
    change lowerTo 0 d.ub ≤ 1
    unfold lowerTo
    split
    · decide +kernel
    · exact upper
  · exact ⟨lower, upper⟩

theorem isInteger_of_binary {v : Variable} (binary : v.current.kind = .binary) :
    isInteger v = true := by
  rw [isInteger, binary]
  rfl

/-- A sent variable is a stored one. -/
theorem current_of_mem_sentVariables {f : Formulation}
    (within : f.AllVars (·.current.InUnit)) {entry : Ident × Variable}
    (sent : entry ∈ sentVariables f) : entry.2.current.InUnit :=
  within entry (List.mem_of_mem_filter sent)

end Solver

namespace Highs
open Solver
variable {intake : Intake} {f : Formulation}

def Column.extent (c : Column) : Extent := ⟨c.lower, c.upper, c.integer⟩

/-- A column that is taken has the bounds that were offered, as far as these are not infinite to
the solver. -/
structure Intake.KeepsBounds (intake : Intake) : Prop where
  lower : ∀ {offered c}, intake.column offered = some c → ¬ offered.lower ≤ -infiniteBound →
    c.lower = offered.lower
  upper : ∀ {offered c}, intake.column offered = some c → ¬ infiniteBound ≤ offered.upper →
    c.upper = offered.upper

theorem Intake.keepsBounds_limits : Intake.limits.KeepsBounds := by
  constructor
  · intro offered c taken finite
    obtain ⟨bounds, kept, rfl⟩ := Option.map_eq_some_iff.1 taken
    rw [keepBounds, if_neg finite] at kept
    split at kept
    · cases kept
      rfl
    · cases kept
  · intro offered c taken finite
    obtain ⟨bounds, kept, rfl⟩ := Option.map_eq_some_iff.1 taken
    have finite : ¬ offered.upper >= infiniteBound := finite
    rw [keepBounds, if_neg finite] at kept
    split at kept
    · cases kept
      rfl
    · cases kept

/-- Bounds within the unit interval are far from infinite ones. -/
theorem isUnit_takenColumn (keeps : intake.KeepsBounds) {v : Variable}
    (within : v.current.InUnit) (binary : v.current.kind = .binary)
    (taken : (intake.column (columnOf v)).isSome = true) :
    (intake.takenColumn v).extent.IsUnit := by
  obtain ⟨low, high⟩ := boundsOf_inUnit within binary
  obtain ⟨c, offered⟩ := Option.isSome_iff_exists.1 taken
  have lower : c.lower = (boundsOf v.current).1 := keeps.lower offered fun below =>
    absurd (Binary64.le_trans low below) (by decide +kernel)
  have upper : c.upper = (boundsOf v.current).2 := keeps.upper offered fun above =>
    absurd (Binary64.le_trans above high) (by decide +kernel)
  rw [Intake.takenColumn, offered, isInteger_of_binary binary, if_pos rfl]
  exact ⟨lower ▸ low, upper ▸ high, rfl⟩

/-- Rows come beside the columns and do not touch them. -/
theorem columns_load
    (taken : ∀ entry ∈ sentVariables f, (intake.column (columnOf entry.2)).isSome = true) :
    (load intake f).columnIds = (sentVariables f).map (·.1) ∧
      (load intake f).program.columns =
        (sentVariables f).map fun entry => intake.takenColumn entry.2 := by
  have placed := Loaded.addColumns_eq (l := .empty) rfl taken
  unfold load
  rw [placed]
  refine (sentConstraints f).foldlRecOn (motive := fun l : Loaded =>
    l.columnIds = _ ∧ l.program.columns = _) _ ⟨rfl, rfl⟩ fun _ kept _ _ => kept

theorem unitColumns_load (keeps : intake.KeepsBounds) (within : f.AllVars (·.current.InUnit))
    (taken : ∀ entry ∈ sentVariables f, (intake.column (columnOf entry.2)).isSome = true) :
    UnitColumns (sentVariables f) (load intake f).columnIds
      ((load intake f).program.columns.map Column.extent) := by
  obtain ⟨ids, columns⟩ := columns_load taken
  refine ⟨ids, ?_⟩
  rw [columns, List.map_map]
  exact List.forall₂_map_right_iff.2 <| List.forall₂_same.2 fun entry sent binary =>
    isUnit_takenColumn keeps (current_of_mem_sentVariables within sent) binary (taken entry sent)

end Highs

namespace Cplex
open Solver
variable {intake : Intake} {f : Formulation}

def Column.extent (c : Column) : Extent := ⟨c.lower, c.upper, c.integer⟩

/-- Bounds that are given are kept, as far as they are not infinite to the solver. -/
structure Intake.KeepsBounds (intake : Intake) : Prop where
  lower : ∀ {x upper bounds}, intake.bounds (some x) upper = some bounds → ¬ x ≤ -largest →
    bounds.1 = x
  upper : ∀ {lower x bounds}, intake.bounds lower (some x) = some bounds → ¬ largest ≤ x →
    bounds.2 = x

theorem Intake.keepsBounds_limits : Intake.limits.KeepsBounds := by
  constructor
  · intro x upper bounds kept finite
    dsimp only [Intake.limits] at kept
    split at kept
    · cases kept
    · cases kept
      exact if_neg finite
  · intro lower x bounds kept finite
    dsimp only [Intake.limits] at kept
    split at kept
    · cases kept
    · cases kept
      exact if_neg finite

/-- Only infinite bounds are sent as missing ones. -/
theorem offeredLower_eq {lower : Float} (low : 0 ≤ lower) : offeredLower lower = some lower := by
  rw [offeredLower, if_neg]
  intro infinite
  exact absurd (Binary64.le_trans low (le_and_ge_of_beq infinite).1) (by decide +kernel)

theorem offeredUpper_eq {upper : Float} (high : upper ≤ 1) : offeredUpper upper = some upper := by
  rw [offeredUpper, if_neg]
  intro infinite
  exact absurd (Binary64.le_trans (le_and_ge_of_beq infinite).2 high) (by decide +kernel)

theorem isUnit_of_columnOf? (keeps : intake.KeepsBounds) {v : Variable}
    (within : v.current.InUnit) (binary : v.current.kind = .binary) {c : Column}
    (made : columnOf? intake v = some c) : c.extent.IsUnit := by
  obtain ⟨low, high⟩ := boundsOf_inUnit within binary
  obtain ⟨bounds, offered, rfl⟩ := Option.map_eq_some_iff.1 made
  rw [offeredLower_eq low, offeredUpper_eq high] at offered
  have lower : bounds.1 = (boundsOf v.current).1 := keeps.lower offered fun below =>
    absurd (Binary64.le_trans low below) (by decide +kernel)
  have upper : bounds.2 = (boundsOf v.current).2 := keeps.upper offered fun above =>
    absurd (Binary64.le_trans above high) (by decide +kernel)
  exact ⟨lower ▸ low, upper ▸ high, isInteger_of_binary binary⟩

/-- The columns and the identifiers that a load has added for variables. -/
structure HasColumns (intake : Intake) (entries : List (Ident × Variable)) (before after : Loaded) :
    Prop where
  columnIds : after.columnIds = before.columnIds ++ entries.map (·.1)
  columns : ∃ columns, after.program.columns = before.program.columns ++ columns ∧
    List.Forall₂ (fun entry c => columnOf? intake entry.2 = some c) entries columns

theorem hasColumns_addColumns {entries : List (Ident × Variable)} {l : Loaded}
    (loaded : (Outcome.forEach (Loaded.addColumn intake) l entries).result = .ok ()) :
    HasColumns intake entries l (Outcome.forEach (Loaded.addColumn intake) l entries).state := by
  induction entries generalizing l with
  | nil => exact ⟨(List.append_nil _).symm, [], (List.append_nil _).symm, .nil⟩
  | cons entry rest ih =>
      rw [Outcome.forEach] at loaded ⊢
      obtain ⟨_, first, goesOn⟩ := Outcome.exists_of_andThen_eq_ok loaded
      rw [goesOn] at loaded ⊢
      have tail := ih loaded
      cases made : columnOf? intake entry.2 with
      | none =>
          rw [Loaded.addColumn, made] at first
          cases first
      | some c =>
          rw [Loaded.addColumn, made, Loaded.extend_some, Outcome.ok_state] at tail ⊢
          obtain ⟨columns, all, denote⟩ := tail.columns
          exact ⟨by simp [tail.columnIds], c :: columns, by simp [all], .cons made denote⟩

section Beside
variable {entries : List (Ident × Variable)} {before l : Loaded}

theorem HasColumns.setObjective (has : HasColumns intake entries before l)
    (sent : List (Ident × Variable)) :
    HasColumns intake entries before (l.setObjective intake sent).state := by
  unfold Loaded.setObjective
  cases objectiveOf? intake sent with
  | none => exact has
  | some objective => exact ⟨has.columnIds, has.columns⟩

theorem HasColumns.addRow (has : HasColumns intake entries before l) (f : Formulation)
    (entry : Ref × Constraint) :
    HasColumns intake entries before (l.addRow intake f entry).state := by
  unfold Loaded.addRow
  cases rowOf? intake f l.columnIds entry with
  | none => exact has
  | some row => exact ⟨has.columnIds, has.columns⟩

end Beside

/-- The objective and the rows leave the columns alone. -/
theorem hasColumns_load (loaded : (load intake f).result = .ok ()) :
    HasColumns intake (sentVariables f) (.empty f.uid) (load intake f).state := by
  obtain ⟨_, withObjective, rows⟩ := Outcome.exists_of_andThen_eq_ok loaded
  obtain ⟨_, columns, objective⟩ := Outcome.exists_of_andThen_eq_ok withObjective
  rw [load, rows, objective]
  exact Outcome.forEach_state ((hasColumns_addColumns columns).setObjective _)
    fun l entry _ has => has.addRow f entry

theorem unitColumns_load (keeps : intake.KeepsBounds) (within : f.AllVars (·.current.InUnit))
    (loaded : (load intake f).result = .ok ()) :
    UnitColumns (sentVariables f) (load intake f).state.columnIds
      ((load intake f).state.program.columns.map Column.extent) := by
  obtain ⟨ids, columns, all, made⟩ := hasColumns_load loaded
  refine ⟨ids, ?_⟩
  rw [all, List.forall₂_map_right_iff]
  obtain ⟨sameLength, each⟩ := List.forall₂_iff_zip.1 made
  refine List.forall₂_iff_zip.2 ⟨sameLength, fun pair binary => ?_⟩
  have sent := current_of_mem_sentVariables within (List.of_mem_zip pair).1
  exact isUnit_of_columnOf? keeps sent binary (each pair)

end Cplex

namespace Formulation
open Solver
variable {f : Formulation}

/-- What is known of the binary variables of a formulation. -/
structure BinaryBounds (f : Formulation) : Prop where
  perennial : f.AllVars (·.perennial.InUnit)
  /-- A reset of everything brings the current bounds back as well. -/
  reset : (f.reset none).state.AllVars Variable.InUnit
  /-- If no bounds have been set that lead out, nothing else has led out. -/
  confined : Confined f → f.AllVars Variable.InUnit
  /-- The bounds that are set are the bounds that are kept. -/
  setBounds : f.AllVars Variable.InUnit → ∀ ref v lb ub, f.vars.get ref = .ok v →
    (((Operation.setBounds ref lb ub).after f).AllVars Variable.InUnit ↔
      (v.current.kind = .binary → BoundsInUnit lb ub))
  highs : ∀ intake : Highs.Intake, intake.KeepsBounds → f.AllVars (·.current.InUnit) →
    (∀ entry ∈ sentVariables f, (intake.column (Highs.columnOf entry.2)).isSome = true) →
    UnitColumns (sentVariables f) (Highs.load intake f).columnIds
      ((Highs.load intake f).program.columns.map Highs.Column.extent)
  cplex : ∀ intake : Cplex.Intake, intake.KeepsBounds → f.AllVars (·.current.InUnit) →
    (Cplex.load intake f).result = .ok () →
    UnitColumns (sentVariables f) (Cplex.load intake f).state.columnIds
      ((Cplex.load intake f).state.program.columns.map Cplex.Column.extent)

/-- The perennial bounds of a binary variable are within the unit interval after every history. Its
current bounds are until bounds are set that are not, and so long its columns leave zero and one. -/
theorem binaryBounds_of_reachable (reached : ReachableBy Operation.Measured f) :
    BinaryBounds f where
  perennial := reached.perennial_inUnit
  reset := reached.reset_inUnit
  confined := Confined.inUnit
  setBounds all _ _ lb ub found := inUnit_setBounds_iff all found lb ub
  highs _ := Highs.unitColumns_load
  cplex _ := Cplex.unitColumns_load

/-- An unrestricted variable with its kind and its bounds. -/
def boundedData (kind : VarKind) (lb ub : Float) : VarData := ⟨1, lb, ub, kind, .free, true, true⟩

/-- A binary variable is created with wide bounds, which are cut and then tightened. An integer
variable comes after it. -/
def tightProgram : Formulation :=
  run (.empty 1 .compact none)
    [.createVariable 1 ⟨"x", .compactVar, boundedData .binary (-3) 8, .static⟩ none,
      .setBounds (Ident.ofVar 1) none (some 0),
      .createVariable 2 ⟨"y", .compactVar, boundedData .integer 0 8, .static⟩ none]

/-- The bounds of the integer variable may be any. -/
def looseProgram : Formulation :=
  tightProgram.run [.setBounds (Ident.ofVar 2) (some (-3)) (some 5)]

theorem hasNumbers_boundedData :
    (boundedData .binary (-3) 8).HasNumbers ∧ (boundedData .integer 0 8).HasNumbers :=
  ⟨fun _ => by decide +kernel, nofun⟩

theorem confined_looseProgram : Confined looseProgram := by
  have inside : BoundsInUnit none (some 0) := by
    refine ⟨nofun, ?_⟩
    rintro x ⟨⟩
    decide +kernel
  have tight : Confined tightProgram := by
    refine .run (.empty 1 .compact none) ?_
    simp [Operation.Confines, Operation.source?, hasNumbers_boundedData, inside]
  refine tight.step (.setBounds (Ident.ofVar 2) (some (-3)) (some 5)) ?_ ?_
  · intro v found binary
    have integer : (tightProgram.vars.find? (Ident.ofVar 2)).map (·.current.kind) =
        some .integer := by decide +kernel
    rw [Store.get_eq_ok_iff.1 found] at integer
    cases binary.symm.trans (Option.some.inj integer)
  · intro g reads
    cases reads

theorem binaryBounds_looseProgram :
    ReachableBy Operation.Measured looseProgram ∧ Confined looseProgram ∧
      looseProgram.AllVars Variable.InUnit ∧
      UnitColumns (sentVariables looseProgram)
        (Highs.load Highs.Intake.limits looseProgram).columnIds
        [⟨0, 0, true⟩, ⟨-3, 5, true⟩] ∧
      UnitColumns (sentVariables looseProgram)
        (Cplex.load Cplex.Intake.limits looseProgram).state.columnIds
        [⟨0, 0, true⟩, ⟨-3, 5, true⟩] := by
  have reached : ReachableBy Operation.Measured looseProgram := by
    refine .run (.run (.empty 1 .compact none) ?_) ?_
    · simp [Operation.Measured, Operation.Gives, Operation.source?, hasNumbers_boundedData]
    · simp [Operation.Measured, Operation.Gives, Operation.source?]
  have bounds := binaryBounds_of_reachable reached
  have within := bounds.confined confined_looseProgram
  have current : looseProgram.AllVars (·.current.InUnit) :=
    fun entry mem => (within entry mem).current
  have toHighs : (Highs.load Highs.Intake.limits looseProgram).program.columns.map
      Highs.Column.extent = [⟨0, 0, true⟩, ⟨-3, 5, true⟩] := by decide +kernel
  have toCplex : (Cplex.load Cplex.Intake.limits looseProgram).state.program.columns.map
      Cplex.Column.extent = [⟨0, 0, true⟩, ⟨-3, 5, true⟩] := by decide +kernel
  have goesThrough : (Cplex.load Cplex.Intake.limits looseProgram).result = .ok () :=
    Fault.eq_ok_of_isOk (by decide +kernel)
  have taken := bounds.highs .limits Highs.Intake.keepsBounds_limits current (by decide +kernel)
  have loaded := bounds.cplex .limits Cplex.Intake.keepsBounds_limits current goesThrough
  rw [toHighs] at taken
  rw [toCplex] at loaded
  exact ⟨reached, confined_looseProgram, within, taken, loaded⟩

/-- Bounds are set with which no binary variable is ever built. -/
def wideProgram : Formulation :=
  run (.empty 1 .compact none)
    [.createVariable 1 ⟨"x", .compactVar, boundedData .binary 0 1, .static⟩ none,
      .setBounds (Ident.ofVar 1) (some (-3)) (some 5)]

/-- To both solvers it is a general integer variable. -/
theorem wideProgram_columns :
    ReachableBy Operation.Measured wideProgram ∧
      (∃ v, wideProgram.vars.get (Ident.ofVar 1) = .ok v ∧ v.current.kind = .binary ∧
        ¬ 0 ≤ v.current.lb ∧ ¬ v.current.ub ≤ 1) ∧
      (Highs.load Highs.Intake.limits wideProgram).program.columns.map Highs.Column.extent =
        [⟨-3, 5, true⟩] ∧
      (Cplex.load Cplex.Intake.limits wideProgram).state.program.columns.map Cplex.Column.extent =
        [⟨-3, 5, true⟩] := by
  have numbers : (boundedData .binary 0 1).HasNumbers := fun _ => by decide +kernel
  refine ⟨.run (.empty 1 .compact none) ?_, ⟨_, rfl, rfl, ?_, ?_⟩, ?_, ?_⟩
  · simp [Operation.Measured, Operation.Gives, Operation.source?, numbers]
  · decide +kernel
  · decide +kernel
  · decide +kernel
  · decide +kernel

end Formulation

end Decomposition
