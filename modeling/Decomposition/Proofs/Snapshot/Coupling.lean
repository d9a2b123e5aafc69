import Decomposition.Proofs.Formulation.Soundness
import Decomposition.Proofs.Relation.Products
import Decomposition.Snapshot

namespace Decomposition

/-- An active and explicit constraint whose duty is not that of a convexity constraint. -/
def Constraint.isCoupling (c : Constraint) : Bool :=
  c.isActive && c.isExplicit &&
    match c.id with
    | .ident id => !Category.convexityConstr id.duty
    | .other _ => false

namespace Formulation
variable {master : Formulation}

/-- The coupling constraints under the keys of the store and in its order. -/
def couplingConstraints (master : Formulation) : List (Ref × Constraint) :=
  master.constrs.entries.filter fun entry => entry.2.isCoupling

/-- The rows of a snapshot. In a sound formulation every constraint has a duty, so that none is
refused. -/
def couplingRefs (master : Formulation) : List Ref := master.couplingConstraints.map (·.1)

theorem couplingRefs_distinct (master : Formulation) :
    master.couplingRefs.Pairwise fun a b => (a == b) = false :=
  List.pairwise_map.2 (master.constrs.members.distinct.filter _)

theorem mem_couplingRefs {row : Ref × Constraint} (coupling : row ∈ master.couplingConstraints) :
    row.1 ∈ master.couplingRefs :=
  List.mem_map_of_mem coupling

/-- The selection of a snapshot gives an answer for every constraint under an identifier. -/
theorem keeps_isCoupling {c : Constraint} (kinded : (Element.constraint c).WellKinded) :
    Selection.keeps ⟨none, some Snapshot.isCoupling, true⟩ c = .ok c.isCoupling := by
  obtain ⟨id, same, _⟩ := kinded
  have duty : c.duty = .ok id.duty := by
    rw [Entity.duty, Entity.ref, same]
    rfl
  rw [Constraint.isCoupling, same]
  change (if (true && (!true || c.isActive)) = true then Snapshot.isCoupling c else .ok false) = _
  rw [Snapshot.isCoupling, duty]
  cases c.isActive <;> cases c.isExplicit <;> rfl

theorem selection_keys (s : Selection Ref ConstrData) {keep : Constraint → Bool}
    {entries : List (Ref × Constraint)}
    (answers : ∀ entry ∈ entries, s.keeps entry.2 = .ok (keep entry.2)) :
    s.keys entries = .ok ((entries.filter fun entry => keep entry.2).map (·.1)) := by
  induction entries with
  | nil => rfl
  | cons head rest ih =>
      have here := answers head List.mem_cons_self
      have later := ih fun entry mem => answers entry (List.mem_cons_of_mem _ mem)
      rw [Selection.keys, here, later, List.filter_cons]
      cases keep head.2 <;> rfl

/-- A snapshot keeps the coupling constraints and is not refused. -/
theorem Kinded.keptConstraints (kinded : Kinded master) :
    Snapshot.keptConstraints master = .ok master.couplingRefs :=
  selection_keys _ fun entry mem => keeps_isCoupling (kinded.ofConstraint entry mem)

end Formulation

namespace Snapshot

theorem contains_alike (refs : List Ref) (a b : Ref) (same : (a == b) = true) :
    refs.contains a = refs.contains b := by
  rw [List.contains_eq_any_beq, List.contains_eq_any_beq]
  congr 1
  funext ref
  exact OrderedMap.beq_congr_left same

theorem consistent_submatrix (master : Formulation) (rows : List Ref) (columns : List Ident)
    (capacity : Option Int) : (submatrix master rows columns capacity).cells.Consistent :=
  .extract _ _ _ rows

/-- The matrix holds the master's pairs at the kept rows and the chosen columns. -/
theorem get?_submatrix {master : Formulation} (cells : master.coefficients.cells.Consistent)
    (rows : List Ref) (columns : List Ident) (capacity : Option Int) (r c : Ref) :
    (submatrix master rows columns capacity).cells.get? r c =
      if rows.contains r && (columns.map Ref.ident).contains c then
        master.coefficients.cells.get? r c
      else none := by
  have candidate : rows.any (· == r) = rows.contains r := by
    rw [List.contains_eq_any_beq]
    congr 1
    funext ref
    exact BEq.comm
  have extracted := Incidence.get?_extract cells.nonzero (contains_alike rows)
    (contains_alike (columns.map Ref.ident)) rows r c
  rw [candidate, Bool.and_self] at extracted
  exact extracted

/-- The matrix registers kept rows alone. -/
theorem hasRow_submatrix {master : Formulation} {rows : List Ref} {columns : List Ident}
    {capacity : Option Int} {r : Ref}
    (registered : (submatrix master rows columns capacity).cells.hasRow r = true) :
    ∃ kept ∈ rows, (kept == r) = true :=
  Incidence.hasRow_extract registered

section KeptLines
variable {master : Formulation} (cells : master.coefficients.cells.Consistent) {rows : List Ref}
  {columns : List Ident}
include cells

/-- A kept row holds the master's coefficients of the chosen columns. -/
theorem row_submatrix (columns : List Ident) (capacity : Option Int) {r : Ref} (kept : r ∈ rows)
    (x : Ref) :
    ((submatrix master rows columns capacity).cells.row r).get? x =
      if (columns.map Ref.ident).contains x then master.coefficients.cells.get? r x else none := by
  have found := get?_submatrix cells rows columns capacity r x
  rw [show rows.contains r = true from List.elem_eq_true_of_mem kept, Bool.true_and] at found
  exact found

/-- A chosen column holds the master's coefficients of the kept rows. -/
theorem column_submatrix (rows : List Ref) (capacity : Option Int) {x : Ident}
    (chosen : x ∈ columns) (r : Ref) :
    ((submatrix master rows columns capacity).cells.column x).get? r =
      if rows.contains r then master.coefficients.cells.get? r x else none := by
  have listed : (columns.map Ref.ident).contains (Ref.ident x) = true :=
    List.elem_eq_true_of_mem (List.mem_map_of_mem chosen)
  rw [(consistent_submatrix master rows columns capacity).agree, get?_submatrix cells, listed,
    Bool.and_true]

/-- A chosen column is multiplied in the order of the kept rows. -/
theorem dot_column_submatrix (capacity : Option Int)
    (distinct : rows.Pairwise fun a b => (a == b) = false) {x : Ident} (chosen : x ∈ columns)
    (y : Values) :
    Incidence.dot ((submatrix master rows columns capacity).cells.column x) y =
      master.coefficients.cells.columnProduct rows x y := by
  have kept : rows.filter rows.contains = rows :=
    List.filter_eq_self.2 fun _ mem => List.elem_eq_true_of_mem mem
  have listed : (columns.map Ref.ident).contains (Ref.ident x) = true :=
    List.elem_eq_true_of_mem (List.mem_map_of_mem chosen)
  have product := Incidence.dot_column_extract cells.nonzero
    (contains_alike (columns.map Ref.ident)) rows.contains distinct listed y
  rw [kept] at product
  exact product

end KeptLines

end Snapshot

end Decomposition
