import Decomposition.Proofs.OrderedMap
import Decomposition.Solver.Sent

namespace Decomposition.Solver

theorem sentVariables_distinct (f : Formulation) :
    ((sentVariables f).map (·.1)).Pairwise fun a b => (a == b) = false :=
  List.pairwise_map.2 (f.vars.members.distinct.filter _)

/-- Among distinct identifiers one at most agrees with a reference. -/
theorem findIdx?_eq_some_iff {ids : List Ident}
    (distinct : ids.Pairwise fun a b => (a == b) = false) {key : Ref} {position : Nat} :
    ids.findIdx? (Ref.ident · == key) = some position ↔
      ∃ inRange : position < ids.length, (Ref.ident ids[position] == key) = true := by
  rw [List.findIdx?_eq_some_iff_getElem]
  constructor
  · rintro ⟨inRange, same, _⟩
    exact ⟨inRange, same⟩
  · rintro ⟨inRange, same⟩
    refine ⟨inRange, same, fun earlier before alike => ?_⟩
    have apart := List.pairwise_iff_getElem.1 distinct earlier position
      (Nat.lt_trans before inRange) inRange before
    rw [← Ref.ident_beq_ident, BEq.trans alike (BEq.symm same)] at apart
    cases apart

/-- The entries of a sent row are the row's coefficients at the sent variables. -/
theorem mem_entriesOf {ids : List Ident} (distinct : ids.Pairwise fun a b => (a == b) = false)
    {row : Values} {position : Nat} {v : Float} :
    (position, v) ∈ entriesOf ids row ↔
      ∃ inRange : position < ids.length, row.get? ids[position] = some v := by
  rw [entriesOf, List.mem_filterMap]
  constructor
  · rintro ⟨cell, mem, sent⟩
    obtain ⟨found, look, same⟩ := Option.map_eq_some_iff.1 sent
    cases same
    obtain ⟨inRange, alike⟩ := (findIdx?_eq_some_iff distinct).1 look
    exact ⟨inRange, OrderedMap.get?_of_mem mem (BEq.symm alike)⟩
  · rintro ⟨inRange, stored⟩
    obtain ⟨cell, mem, alike, rfl⟩ := OrderedMap.exists_mem_of_get? stored
    have look := (findIdx?_eq_some_iff distinct).2 ⟨inRange, BEq.symm alike⟩
    refine ⟨cell, mem, ?_⟩
    rw [look]
    rfl

/-- A row is sent with the formulation's coefficients at the sent variables. -/
theorem mem_sentRow {f : Formulation} {row : Ref} {position : Nat} {v : Float} :
    (position, v) ∈ entriesOf ((sentVariables f).map (·.1)) (f.coefficients.cells.row row) ↔
      ∃ inRange : position < (sentVariables f).length,
        f.coefficients.cells.get? row (sentVariables f)[position].1 = some v := by
  rw [mem_entriesOf (sentVariables_distinct f)]
  simp [Incidence.get?]

/-- No position is sent twice in a row. -/
theorem entriesOf_nodup (ids : List Ident) (row : Values) :
    ((entriesOf ids row).map (·.1)).Nodup := by
  refine List.pairwise_map.2 (List.pairwise_filterMap.2 (row.distinct.imp ?_))
  intro a b apart first fromA second fromB equal
  obtain ⟨position, lookA, rfl⟩ := Option.map_eq_some_iff.1 fromA
  obtain ⟨other, lookB, rfl⟩ := Option.map_eq_some_iff.1 fromB
  have same : position = other := equal
  rw [← same] at lookB
  obtain ⟨_, alikeA, _⟩ := List.findIdx?_eq_some_iff_getElem.1 lookA
  obtain ⟨_, alikeB, _⟩ := List.findIdx?_eq_some_iff_getElem.1 lookB
  rw [BEq.trans (BEq.symm alikeA) alikeB] at apart
  cases apart

end Decomposition.Solver
