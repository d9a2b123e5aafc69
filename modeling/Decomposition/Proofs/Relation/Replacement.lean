import Decomposition.Proofs.Relation.Reachability
import Decomposition.Proofs.Relation.Registration
import Decomposition.Proofs.Relation.Restriction

namespace Decomposition

namespace Incidence
variable {ρ κ σ : Type} [BEq ρ] [BEq κ]

/-- The same pairs with rows and columns exchanged. Every operation is the same from both sides. -/
def transpose (m : Incidence ρ κ σ) : Incidence κ ρ σ := ⟨m.cols, m.rows⟩

section Sides
variable [BEq σ] [OfNat σ 0] (m : Incidence ρ κ σ)

theorem transpose_set (r : ρ) (c : κ) (v : σ) :
    (m.set r c v).transpose = m.transpose.set c r v := rfl

theorem transpose_addColumn (c : κ) (members : OrderedMap ρ σ) :
    (m.addColumn c members).transpose = m.transpose.addRow c members :=
  (List.foldl_hom transpose fun n cell => (n.transpose_set cell.1 c cell.2).symm).symm

theorem transpose_clearColumn (c : κ) : (m.clearColumn c).transpose = m.transpose.clearRow c :=
  (List.foldl_hom transpose fun n r => (n.transpose_set r c 0).symm).symm

/-- A column is replaced as a row is, seen from the other side. -/
theorem transpose_resetColumn (c : κ) (members : OrderedMap ρ σ) :
    (m.resetColumn c members).transpose = m.transpose.resetRow c members := by
  rw [resetColumn, transpose_addColumn, transpose_clearColumn, resetRow]

end Sides

/-- Between `m` and `n` the content of a row has been replaced. -/
structure Replaces [BEq σ] [OfNat σ 0] (m n : Incidence ρ κ σ) (r : ρ) (members : OrderedMap κ σ) :
    Prop where
  registered : n.hasRow r = true
  row : (n.row r).entries = members.entries.filter fun cell => !(cell.2 == 0)
  otherRows : ∀ other, (r == other) = false → n.rows.get? other = m.rows.get? other
  /-- The row comes last in each column in which it has a value. -/
  columns : ∀ c, (n.column c).entries =
    ((m.column c).entries.filter fun cell => !(cell.1 == r)) ++
      (((members.get? c).bind kept).map fun v => (r, v)).toList
  rowKeys : n.rows.keys = m.rows.keys ++ if m.hasRow r then [] else [r]
  columnKeys : n.cols.keys = m.cols.keys ++ members.keys.filter fun c => !m.hasColumn c

section Writes
variable [BEq σ] [OfNat σ 0]

/-- Cells that are written under new keys are appended, except for the zeros. -/
theorem entries_writeCells {cells : List (κ × σ)}
    (distinct : cells.Pairwise fun a b => (a.1 == b.1) = false) {line : OrderedMap κ σ}
    (fresh : ∀ old ∈ line.entries, ∀ cell ∈ cells, (old.1 == cell.1) = false) :
    (cells.foldl (fun line cell => writeCell line cell.1 cell.2) line).entries =
      line.entries ++ cells.filter fun cell => !(cell.2 == 0) := by
  induction cells generalizing line with
  | nil => exact (List.append_nil _).symm
  | cons cell rest ih =>
      obtain ⟨apart, restDistinct⟩ := List.pairwise_cons.1 distinct
      have absent : ∀ old ∈ line.entries, (old.1 == cell.1) = false := fun old mem =>
        fresh old mem cell List.mem_cons_self
      have later : ∀ old ∈ line.entries, ∀ other ∈ rest, (old.1 == other.1) = false :=
        fun old mem other inRest => fresh old mem other (List.mem_cons_of_mem _ inRest)
      rw [List.foldl_cons, List.filter_cons]
      cases zero : cell.2 == 0 with
      | true =>
          have unchanged : writeCell line cell.1 cell.2 = line := by
            rw [writeCell, zero, if_pos rfl, OrderedMap.erase_of_absent absent]
          rw [unchanged, ih restDistinct later]
          rfl
      | false =>
          have appended : (writeCell line cell.1 cell.2).entries = line.entries ++ [cell] := by
            rw [writeCell, zero, if_neg Bool.false_ne_true]
            exact OrderedMap.entries_insert_of_absent cell.2 absent
          rw [ih restDistinct, appended, List.append_assoc]
          · rfl
          · intro old mem other inRest
            rw [appended, List.mem_append, List.mem_singleton] at mem
            rcases mem with before | rfl
            · exact later old before other inRest
            · exact apart other inRest

theorem clearRow_eq_writeLine (m : Incidence ρ κ σ) (r : ρ) :
    m.clearRow r = ((m.row r).entries.map fun cell => (cell.1, (0 : σ))).foldl
      (fun n cell => n.set r cell.1 cell.2) m := by
  rw [clearRow, OrderedMap.keys, List.foldl_map, List.foldl_map]

theorem writeCell_zero (zero : ((0 : σ) == 0) = true) (line : OrderedMap κ σ) (key : κ) :
    writeCell line key 0 = line.erase key := by
  rw [writeCell, zero, if_pos rfl]

end Writes

section Rows
variable [EquivBEq ρ] [BEq σ] [OfNat σ 0] (m : Incidence ρ κ σ)

theorem get?_rows_writeLine {r other : ρ} (apart : (r == other) = false) (cells : List (κ × σ)) :
    (cells.foldl (fun n cell => n.set r cell.1 cell.2) m).rows.get? other = m.rows.get? other := by
  let unchanged (n : Incidence ρ κ σ) : Prop := n.rows.get? other = m.rows.get? other
  refine cells.foldlRecOn (motive := unchanged) _ rfl fun n same cell _ => ?_
  change (n.set r cell.1 cell.2).rows.get? other = m.rows.get? other
  rw [set, OrderedMap.get?_insert, apart, if_neg Bool.false_ne_true, same]

variable (r : ρ) (members : OrderedMap κ σ)

theorem get?_rows_addRow {other : ρ} (apart : (r == other) = false) :
    (m.addRow r members).rows.get? other = m.rows.get? other := by
  refine (get?_rows_writeLine (m.registerRow r) apart members.entries).trans ?_
  rw [registerRow, OrderedMap.get?_insertIfNew, apart, Bool.false_and, if_neg Bool.false_ne_true]

theorem row_addRow_of_empty (empty : m.row r = .empty) :
    ((m.addRow r members).row r).entries =
      members.entries.filter fun cell => !(cell.2 == 0) := by
  rw [addRow, row_writeLine, if_pos BEq.rfl, row_registerRow, empty,
    entries_writeCells members.distinct (by simp)]
  rfl

theorem rowKeys_addRow :
    (m.addRow r members).rows.keys = m.rows.keys ++ if m.hasRow r then [] else [r] := by
  have registered : (m.registerRow r).hasRow r = true := by
    refine (m.rows.contains_insertIfNew r r .empty).trans ?_
    rw [BEq.rfl, Bool.true_or]
  refine (rowKeys_writeLine (m.registerRow r) r members.entries).trans ?_
  rw [registered, Bool.true_or, if_pos rfl, List.append_nil]
  exact m.rows.keys_insertIfNew_eq r .empty

end Rows

section Columns
variable [EquivBEq κ] [BEq σ] [OfNat σ 0] {m : Incidence ρ κ σ}

/-- The row is taken out of every column. -/
theorem column_clearRow (zero : ((0 : σ) == 0) = true) (h : Consistent m) (r : ρ) (c : κ) :
    (m.clearRow r).column c = (m.column c).erase r := by
  have distinct : ((m.row r).entries.map fun cell => (cell.1, (0 : σ))).Pairwise
      fun a b => (a.1 == b.1) = false := List.pairwise_map.2 (m.row r).distinct
  rw [clearRow_eq_writeLine, column_writeLine m r distinct, List.find?_map, Option.map_map]
  change (Option.map (fun _ => (0 : σ)) ((m.row r).binding? c)).elim _ _ = _
  cases found : (m.row r).binding? c with
  | some cell => exact writeCell_zero zero _ r
  | none =>
      have absent : (m.column c).get? r = none := by
        rw [h.agree, get?, OrderedMap.get?, found]
        rfl
      exact (OrderedMap.erase_of_absent (OrderedMap.absent_of_get? absent)).symm

theorem columnKeys_clearRow (h : Consistent m) (r : ρ) :
    (m.clearRow r).cols.keys = m.cols.keys := by
  have distinct : ((m.row r).entries.map fun cell => (cell.1, (0 : σ))).Pairwise
      fun a b => (a.1 == b.1) = false := List.pairwise_map.2 (m.row r).distinct
  have none : (((m.row r).entries.map fun cell => (cell.1, (0 : σ))).map (·.1)).filter
      (fun c => !m.hasColumn c) = [] := by
    refine List.filter_eq_nil_iff.2 fun c mem => ?_
    rw [List.map_map] at mem
    obtain ⟨cell, cellMem, rfl⟩ := List.mem_map.1 mem
    have stored : (m.column cell.1).get? r = some cell.2 := by
      rw [h.agree]
      exact OrderedMap.get?_self_of_mem cellMem
    simp [hasColumn_of_get? stored]
  rw [clearRow_eq_writeLine, columnKeys_writeLine _ distinct, none, List.append_nil]

variable (m) (r : ρ) (members : OrderedMap κ σ)

theorem column_addRow (c : κ) :
    (m.addRow r members).column c =
      (members.get? c).elim (m.column c) (writeCell (m.column c) r) :=
  column_writeLine (m.registerRow r) r members.distinct c

theorem columnKeys_addRow :
    (m.addRow r members).cols.keys =
      m.cols.keys ++ members.keys.filter fun c => !m.hasColumn c :=
  columnKeys_writeLine (m.registerRow r) members.distinct r

end Columns

section Lines
variable [EquivBEq ρ] [EquivBEq κ] [BEq σ] [OfNat σ 0] {m : Incidence ρ κ σ}

theorem row_clearRow (zero : ((0 : σ) == 0) = true) (m : Incidence ρ κ σ) (r : ρ) :
    (m.clearRow r).row r = .empty := by
  rw [clearRow_eq_writeLine, row_writeLine, if_pos BEq.rfl, List.foldl_map]
  simp only [writeCell_zero zero]
  have erased := (m.row r).foldl_erase_keys
  rwa [OrderedMap.keys, List.foldl_map] at erased

/-- What is cleared is registered, so that clearing registers nothing. -/
theorem rowKeys_clearRow (m : Incidence ρ κ σ) (r : ρ) :
    (m.clearRow r).rows.keys = m.rows.keys := by
  rw [clearRow_eq_writeLine, rowKeys_writeLine]
  cases stored : (m.row r).entries with
  | nil => simp
  | cons cell rest =>
      have mem : cell ∈ (m.row r).entries := stored ▸ List.mem_cons_self
      have registered : m.hasRow r = true := hasRow_of_get? (OrderedMap.get?_self_of_mem mem)
      simp [registered]

/-- The row is emptied and filled again. -/
theorem replaces_resetRow (zero : ((0 : σ) == 0) = true) (h : Consistent m) (r : ρ)
    (members : OrderedMap κ σ) : Replaces m (m.resetRow r members) r members where
  registered := hasRow_addRow _ r members
  row := row_addRow_of_empty _ r members (row_clearRow zero m r)
  otherRows other apart := by
    rw [resetRow, get?_rows_addRow _ r members apart, clearRow_eq_writeLine,
      get?_rows_writeLine m apart]
  columns c := by
    have cleared := column_clearRow zero h r c
    have absent : ∀ cell ∈ ((m.column c).erase r).entries, (cell.1 == r) = false :=
      fun cell mem => by simpa using (List.mem_filter.1 mem).2
    rw [resetRow, column_addRow, cleared]
    cases given : members.get? c with
    | none => exact (List.append_nil _).symm
    | some v =>
        rw [Option.elim_some, Option.bind_some, kept, writeCell]
        cases v == 0 with
        | true =>
            rw [if_pos rfl, if_pos rfl, OrderedMap.erase_of_absent absent]
            exact (List.append_nil _).symm
        | false => exact OrderedMap.entries_insert_of_absent v absent
  rowKeys := by
    have same : (m.clearRow r).hasRow r = m.hasRow r :=
      OrderedMap.contains_congr (rowKeys_clearRow m r) r
    rw [resetRow, rowKeys_addRow, rowKeys_clearRow, same]
  columnKeys := by
    have same (c : κ) : (m.clearRow r).hasColumn c = m.hasColumn c :=
      OrderedMap.contains_congr (columnKeys_clearRow h r) c
    rw [resetRow, columnKeys_addRow, columnKeys_clearRow h]
    simp only [same]

end Lines

/-- Also from the other side both indexes tell the same. -/
theorem Consistent.transpose [BEq σ] [OfNat σ 0] {m : Incidence ρ κ σ} (h : Consistent m) :
    Consistent m.transpose where
  agree c r := (h.agree r c).symm
  nonzero c r v found := h.nonzero r c v ((h.agree r c).symm.trans found)

end Incidence

namespace Relation

/-- A replacement on a relation that is not frozen succeeds. The line then lists exactly the nonzero
cells that were given, in their order, whether or not it was registered before. The other lines of
its side are as they were. Each line of the other side has lost the pair with the replaced one, and
has it at its end if it is given a value there. Nothing is taken off the indexes, and the lines that
are registered anew are the replaced one and those that are named. -/
theorem resets_replace {m : Relation Ref Float} (reached : m.Reachable)
    (mutable : m.frozen = false) :
    (∀ r members, ∃ n : Relation Ref Float, m.resetRow r members = .ok n ∧
      n.frozen = false ∧ n.capacity = m.capacity ∧
      m.cells.Replaces n.cells r members) ∧
    (∀ c members, ∃ n : Relation Ref Float, m.resetColumn c members = .ok n ∧
      n.frozen = false ∧ n.capacity = m.capacity ∧
      m.cells.transpose.Replaces n.cells.transpose c members) := by
  have zero : ((0 : Float) == 0) = true := rfl
  have consistent := reached.consistent
  constructor
  · intro r members
    refine ⟨_, perform_of_mutable mutable (.resetRow r members), mutable, rfl, ?_⟩
    exact Incidence.replaces_resetRow zero consistent r members
  · intro c members
    refine ⟨_, perform_of_mutable mutable (.resetColumn c members), mutable, rfl, ?_⟩
    change m.cells.transpose.Replaces (m.cells.resetColumn c members).transpose c members
    rw [Incidence.transpose_resetColumn]
    exact Incidence.replaces_resetRow zero consistent.transpose c members

/-- The first constraint loses one variable, keeps the other one and gains a third. A variable that
is given a zero is registered and nothing more. -/
theorem resets_replace_smallRelation :
    smallRelation.Reachable ∧ smallRelation.frozen = false ∧ ∃ n : Relation Ref Float,
      smallRelation.resetRow (Ident.ofConstr 1)
          (.ofList [(Ident.ofVar 4, 7), (Ident.ofVar 5, 0), (Ident.ofVar 2, 3)]) = .ok n ∧
        (n.cells.row (Ident.ofConstr 1)).entries =
          [(Ref.ident (.ofVar 4), 7), (.ident (.ofVar 2), 3)] ∧
        (n.cells.column (Ident.ofVar 1)).entries = [(Ref.ident (.ofConstr 2), 5)] ∧
        (n.cells.column (Ident.ofVar 2)).entries =
          [(Ref.ident (.ofConstr 2), 4), (.ident (.ofConstr 1), 3)] ∧
        n.cells.cols.keys = [1, 2, 3, 4, 5].map fun uid => Ref.ident (.ofVar uid) := by
  obtain ⟨rows, _⟩ := resets_replace reachable_smallRelation rfl
  obtain ⟨n, done, _, _, replaces⟩ := rows (Ident.ofConstr 1)
    (.ofList [(Ident.ofVar 4, 7), (Ident.ofVar 5, 0), (Ident.ofVar 2, 3)])
  exact ⟨reachable_smallRelation, rfl, n, done, replaces.row, replaces.columns (Ident.ofVar 1),
    replaces.columns (Ident.ofVar 2), replaces.columnKeys⟩

end Relation

end Decomposition
