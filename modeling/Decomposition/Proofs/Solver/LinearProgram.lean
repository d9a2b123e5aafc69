import Decomposition.Proofs.Number.Unpacked
import Decomposition.Proofs.Solver.Sent
import Mathlib.Algebra.BigOperators.Group.List.Basic
import Mathlib.Algebra.Order.Field.Rat
import Mathlib.Order.WithBot

namespace Decomposition.Solver
open Binary64

/-- A bound may be infinite on either side. -/
abbrev Limit := WithBot (WithTop ℚ)

/-- An undefined value is read as zero. -/
def limitOf (x : Float) : Limit :=
  match value x with
  | .finite v => ((v.exact : WithTop ℚ) : Limit)
  | .infinite true => ⊥
  | .infinite false => ((⊤ : WithTop ℚ) : Limit)
  | .nan => ((0 : WithTop ℚ) : Limit)

/-- Both solvers take bounds of this size and beyond for infinite. -/
def infiniteLimit : ℚ := 10 ^ 20

/-- What the bound of a column means to a solver. -/
def boundOf (x : Float) : Limit :=
  if ((infiniteLimit : WithTop ℚ) : Limit) ≤ limitOf x then ((⊤ : WithTop ℚ) : Limit)
  else if limitOf x ≤ ((-infiniteLimit : ℚ) : WithTop ℚ) then ⊥
  else limitOf x

structure LinearColumn where
  cost : ℚ
  lower : Limit
  upper : Limit
  integer : Bool
  deriving DecidableEq

/-- A row without a condition is not of the form that a constraint has. -/
structure LinearRow where
  condition : Option (ConstrSense × ℚ)
  coefficients : List ℚ
  deriving DecidableEq

/-- The columns and rows stand under the keys of their entities. -/
structure LinearProgram where
  columns : List (Ident × LinearColumn)
  rows : List (Ref × LinearRow)

/-- Entries at one position add up. -/
def coefficientAt (entries : Entries) (position : Nat) : ℚ :=
  (entries.map fun cell => if cell.1 = position then exact cell.2 else 0).sum

/-- The coefficients at each of a number of columns. -/
def coefficientsOf (width : Nat) (entries : Entries) : List ℚ :=
  (List.range width).map (coefficientAt entries)

/-- The lower bound of a variable, where `missing` is what minus infinity stands for. -/
def lowerLimit (missing : Limit) (v : Variable) : Limit :=
  if (boundsOf v.current).1 == negativeInfinity then missing
  else boundOf (boundsOf v.current).1

/-- The program of a formulation: the active explicit entities with their current values. -/
def linearOf (missing : Limit) (f : Formulation) : LinearProgram where
  columns := (sentVariables f).map fun entry =>
    (entry.1,
      { cost := exact entry.2.current.cost
        lower := lowerLimit missing entry.2
        upper := boundOf (boundsOf entry.2.current).2
        integer := isInteger entry.2 })
  rows := (sentConstraints f).map fun entry =>
    (entry.1,
      { condition := some (entry.2.current.sense, exact entry.2.current.rhs)
        coefficients := (sentVariables f).map fun column =>
          (f.coefficients.cells.get? entry.1 column.1).elim 0 exact })

/-- Two readings of a missing lower bound differ only where a bound is missing. -/
theorem linearOf_eq_iff {a b : Limit} (apart : a ≠ b) (f : Formulation) :
    linearOf a f = linearOf b f ↔
      ∀ entry ∈ sentVariables f, ((boundsOf entry.2.current).1 == negativeInfinity) = false := by
  constructor
  · intro same entry sent
    have columns := List.map_inj_left.1 (congrArg LinearProgram.columns same) entry sent
    have lower : lowerLimit a entry.2 = lowerLimit b entry.2 :=
      congrArg LinearColumn.lower (Prod.mk.inj columns).2
    by_contra missing
    rw [Bool.not_eq_false] at missing
    rw [lowerLimit, lowerLimit, if_pos missing, if_pos missing] at lower
    exact apart lower
  · intro bounded
    have columns : (linearOf a f).columns = (linearOf b f).columns := by
      refine List.map_congr_left fun entry sent => ?_
      simp [lowerLimit, bounded entry sent]
    rw [linearOf, linearOf, LinearProgram.mk.injEq]
    exact ⟨columns, rfl⟩

theorem boundOf_infinity : boundOf infinity = ((⊤ : WithTop ℚ) : Limit) := by decide +kernel

theorem boundOf_zero : boundOf 0 = ((0 : WithTop ℚ) : Limit) := by decide +kernel

/-- Values that are equal as floats to an infinity mean no bound. -/
theorem boundOf_of_beq_infinity {x : Float} (infinite : (x == infinity) = true) :
    boundOf x = ((⊤ : WithTop ℚ) : Limit) := by
  have same : value x = value infinity := (beq_infinity_iff x).1 infinite
  rw [boundOf, limitOf, same]
  exact boundOf_infinity

theorem boundOf_of_beq_negativeInfinity {x : Float} (infinite : (x == negativeInfinity) = true) :
    boundOf x = ⊥ := by
  have same : value x = value negativeInfinity := (beq_negativeInfinity_iff x).1 infinite
  have lowest : boundOf negativeInfinity = ⊥ := by decide +kernel
  rw [boundOf, limitOf, same]
  exact lowest

section Coefficients
variable {entries : Entries} {position : Nat}

@[simp] theorem coefficientAt_cons (cell : Nat × Float) :
    coefficientAt (cell :: entries) position =
      (if cell.1 = position then exact cell.2 else 0) + coefficientAt entries position := by
  simp [coefficientAt]

theorem coefficientAt_of_absent (absent : position ∉ entries.map (·.1)) :
    coefficientAt entries position = 0 := by
  induction entries with
  | nil => rfl
  | cons head rest ih =>
      have different : head.1 ≠ position := fun met => absent (met ▸ List.mem_cons_self)
      have absentRest : position ∉ rest.map (·.1) := fun mem => absent (List.mem_cons_of_mem _ mem)
      rw [coefficientAt_cons, if_neg different, ih absentRest, add_zero]

/-- A position that is listed once has the coefficient listed there. -/
theorem coefficientAt_of_mem (once : (entries.map (·.1)).Nodup) {v : Float}
    (listed : (position, v) ∈ entries) : coefficientAt entries position = exact v := by
  induction entries with
  | nil => cases listed
  | cons head rest ih =>
      obtain ⟨fresh, restOnce⟩ := List.nodup_cons.1 once
      rw [coefficientAt_cons]
      rcases List.mem_cons.1 listed with rfl | inRest
      · rw [if_pos rfl, coefficientAt_of_absent fresh, add_zero]
      · have known : position ∈ rest.map (·.1) := List.mem_map.2 ⟨(position, v), inRest, rfl⟩
        have different : head.1 ≠ position := by
          rintro rfl
          exact fresh known
        rw [if_neg different, zero_add, ih restOnce inRest]

/-- Only the rationals behind the entries count. -/
theorem coefficientAt_congr {others : Entries}
    (same : List.Forall₂ (fun a b => a.1 = b.1 ∧ exact a.2 = exact b.2) entries others) :
    coefficientAt entries position = coefficientAt others position := by
  induction same with
  | nil => rfl
  | cons alike _ ih => rw [coefficientAt_cons, coefficientAt_cons, alike.1, alike.2, ih]

/-- Entries that are zero may be left out. -/
theorem coefficientAt_filter_nonzero :
    coefficientAt (entries.filter (·.2 != 0)) position = coefficientAt entries position := by
  induction entries with
  | nil => rfl
  | cons head rest ih =>
      by_cases zero : (head.2 == 0) = true
      · have nothing : exact head.2 = 0 := exact_of_beq_zero zero
        rw [List.filter_cons_of_neg (by simp [bne, zero]), coefficientAt_cons, nothing, ite_self,
          zero_add, ih]
      · rw [List.filter_cons_of_pos (by simpa [bne] using zero), coefficientAt_cons,
          coefficientAt_cons, ih]

end Coefficients

/-- A sent row has the formulation's coefficients at the sent variables. -/
theorem coefficientsOf_entriesOf (f : Formulation) (row : Ref) :
    coefficientsOf (sentVariables f).length
        (entriesOf ((sentVariables f).map (·.1)) (f.coefficients.cells.row row)) =
      (sentVariables f).map fun column =>
        (f.coefficients.cells.get? row column.1).elim 0 exact := by
  refine List.ext_getElem (by simp [coefficientsOf]) fun position inRange _ => ?_
  have sent : position < (sentVariables f).length := by simpa [coefficientsOf] using inRange
  simp only [coefficientsOf, List.getElem_map, List.getElem_range]
  cases stored : f.coefficients.cells.get? row (sentVariables f)[position].1 with
  | some v =>
      exact coefficientAt_of_mem (entriesOf_nodup _ _) (mem_sentRow.2 ⟨sent, stored⟩)
  | none =>
      refine coefficientAt_of_absent fun listed => ?_
      obtain ⟨⟨_, v⟩, mem, rfl⟩ := List.mem_map.1 listed
      obtain ⟨_, found⟩ := mem_sentRow.1 mem
      rw [stored] at found
      cases found

end Decomposition.Solver
