import Decomposition.Proofs.Relation.Reachability
import Mathlib.Data.List.Induction

namespace Decomposition

namespace Incidence
variable {ρ κ σ : Type} [BEq ρ] [BEq κ]

/-- The column is listed behind the position, which then stays zero. -/
def listedAfter (columns : List κ) (j : Nat) (c : κ) : Bool :=
  (columns.drop (j + 1)).any (· == c)

theorem listedAfter_append {columns : List κ} {j : Nat} (inside : j < columns.length) (d c : κ) :
    listedAfter (columns ++ [d]) j c = (listedAfter columns j c || d == c) := by
  rw [listedAfter, List.drop_append_of_le_length inside, List.any_append, listedAfter]
  simp

theorem listedAfter_of_le {columns : List κ} {j : Nat} (outside : columns.length ≤ j + 1) (c : κ) :
    listedAfter columns j c = false := by
  simp [listedAfter, List.drop_eq_nil_of_le outside]

/-- Among distinct columns none is listed twice. -/
theorem listedAfter_of_distinct {columns : List κ}
    (distinct : columns.Pairwise fun a b => (a == b) = false) [EquivBEq κ] {j : Nat} {c : κ}
    (listed : columns[j]? = some c) : listedAfter columns j c = false := by
  rw [listedAfter, List.any_eq_false]
  intro d mem
  obtain ⟨k, found⟩ := List.mem_iff_getElem?.1 mem
  rw [List.getElem?_drop] at found
  obtain ⟨later, rfl⟩ := List.getElem?_eq_some_iff.1 found
  obtain ⟨here, rfl⟩ := List.getElem?_eq_some_iff.1 listed
  have apart := List.pairwise_iff_getElem.1 distinct j (j + 1 + k) here later (by omega)
  rw [BEq.comm, apart]
  exact Bool.false_ne_true

theorem listedAfter_congr [EquivBEq κ] {columns : List κ} {j : Nat} {a b : κ}
    (same : (a == b) = true) : listedAfter columns j a = listedAfter columns j b := by
  simp only [listedAfter, OrderedMap.beq_congr_right same]

/-- A further column takes its place from the columns before it that are equal to it. -/
theorem places_append (columns : List κ) (d : κ) :
    places (columns ++ [d]) = (places columns).insert d columns.length := by
  simp [places, OrderedMap.ofList, OrderedMap.insertAll, List.zipIdx_append, List.foldl_append]

section Places
variable [EquivBEq κ]

/-- The place of a column is where it is listed last. -/
theorem get?_places (columns : List κ) (c : κ) (j : Nat) :
    (places columns).get? c = some j ↔
      (∃ d, columns[j]? = some d ∧ (d == c) = true) ∧ listedAfter columns j c = false := by
  induction columns using List.reverseRecOn with
  | nil =>
      have absent : (places ([] : List κ)).get? c = none := rfl
      simp [absent]
  | append_singleton columns d ih =>
      rw [places_append, OrderedMap.get?_insert]
      rcases Nat.lt_trichotomy j columns.length with before | rfl | behind
      · rw [List.getElem?_append_left before, listedAfter_append before]
        cases same : d == c with
        | true => simp; omega
        | false => simp [ih]
      · have last : listedAfter (columns ++ [d]) columns.length c = false :=
          listedAfter_of_le (by simp) c
        cases same : d == c with
        | true => simp [same, last]
        | false => simp [same, ih]
      · have missing : columns[j]? = none := List.getElem?_eq_none (by omega)
        have stillMissing : (columns ++ [d])[j]? = none :=
          List.getElem?_eq_none (by rw [List.length_append, List.length_singleton]; omega)
        have apart : columns.length ≠ j := by omega
        cases d == c <;> simp [ih, missing, stillMissing, apart]

/-- The place at which a column is listed is its own, unless it is listed again behind it. -/
theorem get?_places_of_listed {columns : List κ} {j : Nat} {c : κ} (listed : columns[j]? = some c)
    (a : κ) :
    (places columns).get? a = some j ↔ (a == c) = true ∧ listedAfter columns j c = false := by
  rw [get?_places, listed]
  constructor
  · rintro ⟨⟨d, here, same⟩, last⟩
    cases here
    exact ⟨BEq.symm same, (listedAfter_congr same).trans last⟩
  · rintro ⟨same, last⟩
    exact ⟨⟨c, rfl, BEq.symm same⟩, (listedAfter_congr same).trans last⟩

end Places

section Filling
variable {place : OrderedMap κ Nat}

@[simp] theorem length_putCell (filled : List σ) (cell : κ × σ) :
    (putCell place filled cell).length = filled.length := by
  unfold putCell
  split <;> simp

theorem length_fill (cells : List (κ × σ)) (filled : List σ) :
    (cells.foldl (putCell place) filled).length = filled.length := by
  induction cells generalizing filled with
  | nil => rfl
  | cons cell rest ih => rw [List.foldl_cons, ih, length_putCell]

theorem getElem?_putCell (filled : List σ) (cell : κ × σ) (j : Nat) :
    (putCell place filled cell)[j]? =
      if place.get? cell.1 = some j then filled[j]?.map fun _ => cell.2 else filled[j]? := by
  unfold putCell
  cases found : place.get? cell.1 with
  | none => simp
  | some k =>
      by_cases here : k = j
      · subst here
        simp [List.getElem?_set_self', Function.const_def]
      · simp [here, List.getElem?_set_ne here]

/-- What has no column stays as it is. -/
theorem getElem?_fill_of_unplaced {j : Nat} (unplaced : ∀ c, place.get? c ≠ some j)
    (cells : List (κ × σ)) (filled : List σ) :
    (cells.foldl (putCell place) filled)[j]? = filled[j]? := by
  induction cells generalizing filled with
  | nil => rfl
  | cons cell rest ih => rw [List.foldl_cons, ih, getElem?_putCell, if_neg (unplaced cell.1)]

/-- The place of a column gets the value that the cells have there. -/
theorem getElem?_fill [EquivBEq κ] {j : Nat} {c : κ}
    (placed : ∀ a, place.get? a = some j ↔ (a == c) = true)
    {cells : List (κ × σ)} (distinct : cells.Pairwise fun a b => (a.1 == b.1) = false)
    {filled : List σ} {old : σ} (start : filled[j]? = some old) :
    (cells.foldl (putCell place) filled)[j]? =
      some (((cells.find? (·.1 == c)).map (·.2)).getD old) := by
  induction cells generalizing filled old with
  | nil => exact start
  | cons cell rest ih =>
      obtain ⟨apart, restDistinct⟩ := List.pairwise_cons.1 distinct
      have step : (putCell place filled cell)[j]? = _ := getElem?_putCell filled cell j
      rw [start] at step
      simp only [placed] at step
      rw [List.foldl_cons, List.find?_cons]
      cases met : cell.1 == c with
      | false =>
          rw [met] at step
          exact ih restDistinct step
      | true =>
          rw [met] at step
          have absent : rest.find? (·.1 == c) = none := by
            apply List.find?_eq_none.2
            intro other mem
            rw [OrderedMap.beq_congr_right (BEq.symm met), BEq.comm, apart other mem]
            exact Bool.false_ne_true
          rw [ih restDistinct step, absent]
          rfl

end Filling

/-- A place of the table by its line and its column. -/
def cellAt? (table : List (List σ)) (i j : Nat) : Option σ := table[i]?.bind (·[j]?)

section Tables
variable [OfNat σ 0] (m : Incidence ρ κ σ) {rows : List ρ} {columns : List κ}

theorem length_denseRow (place : OrderedMap κ Nat) (width : Nat) (line : OrderedMap κ σ) :
    (denseRow place width line).length = width := by
  rw [denseRow, length_fill, List.length_replicate]

variable (rows columns) in
theorem length_dense (rows : List ρ) (columns : List κ) :
    (m.dense rows columns).length = rows.length := by
  rw [dense, List.length_map]

theorem length_of_mem_dense (line : List σ) (mem : line ∈ m.dense rows columns) :
    line.length = columns.length := by
  obtain ⟨r, _, rfl⟩ := List.mem_map.1 mem
  exact length_denseRow _ _ _

variable [EquivBEq κ]

/-- The last place of a column reads off the line, and an earlier one is zero. -/
theorem getElem?_denseRow (line : OrderedMap κ σ) {j : Nat} {c : κ}
    (listed : columns[j]? = some c) :
    (denseRow (places columns) columns.length line)[j]? =
      some (if listedAfter columns j c then 0 else line.getD c 0) := by
  have inside : j < columns.length := (List.getElem?_eq_some_iff.1 listed).1
  have start : (List.replicate columns.length (0 : σ))[j]? = some 0 :=
    List.getElem?_replicate_of_lt inside
  rw [denseRow]
  cases again : listedAfter columns j c with
  | true =>
      have unplaced (a : κ) : (places columns).get? a ≠ some j := by
        rw [ne_eq, get?_places_of_listed listed, again]
        simp
      rw [getElem?_fill_of_unplaced unplaced, start, if_pos rfl]
  | false =>
      have placed (a : κ) : (places columns).get? a = some j ↔ (a == c) = true := by
        rw [get?_places_of_listed listed, again]
        simp
      rw [getElem?_fill placed line.distinct start, if_neg Bool.false_ne_true]
      rfl

theorem cellAt?_dense {i j : Nat} {r : ρ} {c : κ} (row : rows[i]? = some r)
    (column : columns[j]? = some c) :
    cellAt? (m.dense rows columns) i j =
      some (if listedAfter columns j c then 0 else m.getD r c 0) := by
  rw [cellAt?, dense, List.getElem?_map, row]
  exact getElem?_denseRow (m.row r) column

end Tables

end Incidence

namespace Ident

/-- Distinct identifiers of one kind are sorted by uid, each uid once. -/
theorem sortByUid_ascending {kind : EntityKind} {ids : List Ident}
    (distinct : ids.Pairwise fun a b => (a == b) = false) (kinds : ∀ a ∈ ids, a.kind = kind) :
    (sortByUid ids).Pairwise fun a b => a.uid < b.uid := by
  have perm : (sortByUid ids).Perm ids := List.mergeSort_perm _ _
  have apart : (sortByUid ids).Pairwise fun a b => (a == b) = false :=
    perm.symm.pairwise distinct fun different => BEq.comm.trans different
  have ordered : (sortByUid ids).Pairwise fun a b => decide (a.uid ≤ b.uid) = true :=
    List.pairwise_mergeSort (by intro a b c; simp; omega) (by intro a b; simp; omega) ids
  apply (apart.and ordered).imp_of_mem
  rintro a b inA inB ⟨different, below⟩
  have sameKind : a.kind = b.kind :=
    (kinds a (perm.mem_iff.1 inA)).trans (kinds b (perm.mem_iff.1 inB)).symm
  have uids : a.uid ≠ b.uid := by
    intro same
    rw [Ident.beq_iff.2 ⟨sameKind, same⟩] at different
    cases different
  have := of_decide_eq_true below
  omega

end Ident

namespace Relation

/-- The rows are constraints and the columns are variables. -/
structure Bipartite (m : Relation Ident Float) : Prop where
  rows : ∀ r ∈ m.cells.rows.keys, r.kind = .constraint
  columns : ∀ c ∈ m.cells.cols.keys, c.kind = .variable

/-- The table has a line for each row and an entry for each column, which is the coefficient of the
pair. -/
structure Tabulates (m : Relation Ident Float) (rows columns : List Ident)
    (table : List (List Float)) : Prop where
  height : table.length = rows.length
  width : ∀ line ∈ table, line.length = columns.length
  entries : ∀ i j r c, rows[i]? = some r → columns[j]? = some c →
    Incidence.cellAt? table i j = some (m.cells.getD r c 0)

/-- All registered lines are listed, sorted by uid. -/
def ListsByUid (registered listed : List Ident) : Prop :=
  listed.Perm registered ∧ listed.Pairwise fun a b => a.uid < b.uid

theorem listsByUid_sortByUid {β : Type} {kind : EntityKind} (lines : OrderedMap Ident β)
    (kinds : ∀ a ∈ lines.keys, a.kind = kind) :
    ListsByUid lines.keys (Ident.sortByUid lines.keys) :=
  ⟨List.mergeSort_perm _ _, Ident.sortByUid_ascending lines.keys_distinct kinds⟩

/-- Columns that are sorted by uid are listed once each. -/
theorem ListsByUid.distinct {registered listed : List Ident}
    (lists : ListsByUid registered listed) : listed.Pairwise fun a b => (a == b) = false := by
  apply lists.2.imp
  intro a b below
  rw [Bool.eq_false_iff]
  intro same
  have := (Ident.beq_iff.1 same).2
  omega

section Entries
variable {m : Relation Ident Float} {rows columns : List Ident}

/-- A table is right where no repeated column has a coefficient, and nowhere else. -/
theorem tabulates_dense_iff (h : m.cells.Consistent) :
    m.Tabulates rows columns (m.cells.dense rows columns) ↔
      ∀ r ∈ rows, ∀ j c, columns[j]? = some c → Incidence.listedAfter columns j c = true →
        m.cells.get? r c = none := by
  constructor
  · intro tabulates r mem j c column again
    obtain ⟨i, row⟩ := List.mem_iff_getElem?.1 mem
    have entry := tabulates.entries i j r c row column
    rw [m.cells.cellAt?_dense row column, if_pos again, Incidence.getD] at entry
    cases stored : m.cells.get? r c with
    | none => rfl
    | some v =>
        have zero : (0 : Float) = v := by simpa [stored] using entry
        have nonzero := h.nonzero r c v stored
        rw [← zero] at nonzero
        cases nonzero
  · intro missing
    constructor
    · exact m.cells.length_dense rows columns
    · exact m.cells.length_of_mem_dense
    · intro i j r c row column
      rw [m.cells.cellAt?_dense row column]
      cases again : Incidence.listedAfter columns j c with
      | false => rfl
      | true =>
          have none := missing r (List.mem_of_getElem? row) j c column again
          rw [if_pos rfl, Incidence.getD, none]
          rfl

end Entries

/-- A table has one line for each row that is asked for and one entry for each column, or all
registered ones by their uids. An entry is the coefficient of its pair, unless its column is listed
again behind it: then it is zero. So the table is right if and only if no repeated column has a
coefficient in a listed row, and in particular if no column is repeated. -/
theorem dense_tabulates_iff {m : Relation Ident Float} (reached : m.Reachable)
    (bipartite : m.Bipartite) (rows columns : Option (List Ident)) :
    let rowKeys := rows.getD (Ident.sortByUid m.cells.rows.keys)
    let columnKeys := columns.getD (Ident.sortByUid m.cells.cols.keys)
    let table := m.dense rows columns
    (rows = none → ListsByUid m.cells.rows.keys rowKeys) ∧
    (columns = none → ListsByUid m.cells.cols.keys columnKeys) ∧
    table.length = rowKeys.length ∧ (∀ line ∈ table, line.length = columnKeys.length) ∧
    (∀ i j r c, rowKeys[i]? = some r → columnKeys[j]? = some c →
      Incidence.cellAt? table i j =
        some (if Incidence.listedAfter columnKeys j c then 0 else m.cells.getD r c 0)) ∧
    (m.Tabulates rowKeys columnKeys table ↔ ∀ r ∈ rowKeys, ∀ j c, columnKeys[j]? = some c →
      Incidence.listedAfter columnKeys j c = true → m.cells.get? r c = none) ∧
    ((columns = none ∨ columnKeys.Pairwise fun a b => (a == b) = false) →
      m.Tabulates rowKeys columnKeys table) := by
  intro rowKeys columnKeys table
  have faithful : m.Tabulates rowKeys columnKeys table ↔ _ := tabulates_dense_iff reached.consistent
  have sortedRows := listsByUid_sortByUid m.cells.rows bipartite.rows
  have sortedColumns := listsByUid_sortByUid m.cells.cols bipartite.columns
  refine ⟨?_, ?_, m.cells.length_dense rowKeys columnKeys, m.cells.length_of_mem_dense, ?_,
    faithful, ?_⟩
  · rintro rfl
    exact sortedRows
  · rintro rfl
    exact sortedColumns
  · intro i j r c row column
    exact m.cells.cellAt?_dense row column
  · intro once
    have distinct : columnKeys.Pairwise fun a b => (a == b) = false := by
      rcases once with rfl | distinct
      · exact sortedColumns.distinct
      · exact distinct
    apply faithful.2
    intro r _ j c column again
    rw [Incidence.listedAfter_of_distinct distinct column] at again
    cases again

/-- Two constraints and two variables. -/
def smallBipartite : Relation Ident Float :=
  let writes : List (Write Ident Float) :=
    [.addRow (.ofConstr 2) (.ofList [(.ofVar 2, 4)]),
      .addRow (.ofConstr 1) (.ofList [(.ofVar 1, 2), (.ofVar 2, 3)])]
  writes.foldl attempt (.empty none)

theorem reachable_smallBipartite : smallBipartite.Reachable :=
  ((Reachable.empty none).write _).write _

theorem bipartite_smallBipartite : smallBipartite.Bipartite := by
  constructor <;> decide

/-- All rows are taken in the order of their uids. The columns are the other way round, and one of
them is unknown. -/
theorem dense_tabulates_smallBipartite :
    let columns : List Ident := [.ofVar 9, .ofVar 2, .ofVar 1]
    let rowKeys := Ident.sortByUid smallBipartite.cells.rows.keys
    smallBipartite.Reachable ∧ smallBipartite.Bipartite ∧
      (columns.Pairwise fun a b => (a == b) = false) ∧
      ListsByUid smallBipartite.cells.rows.keys rowKeys ∧
      smallBipartite.Tabulates rowKeys columns (smallBipartite.dense none (some columns)) := by
  intro columns rowKeys
  have distinct : columns.Pairwise fun a b => (a == b) = false := by decide
  obtain ⟨sorted, _, _, _, _, _, tabulates⟩ :=
    dense_tabulates_iff reachable_smallBipartite bipartite_smallBipartite none (some columns)
  exact ⟨reachable_smallBipartite, bipartite_smallBipartite, distinct, sorted rfl,
    tabulates (.inr distinct)⟩

/-- A variable that is asked for twice has its coefficient in one column of the table alone. A
constraint that is asked for twice has it in both of its rows. -/
theorem repeatedColumn_dense :
    smallBipartite.Reachable ∧ smallBipartite.Bipartite ∧
      smallBipartite.dense (some [.ofConstr 1, .ofConstr 1]) (some [.ofVar 1, .ofVar 1]) =
        [[0, 2], [0, 2]] ∧
      smallBipartite.cells.getD (.ofConstr 1) (.ofVar 1) 0 = 2 ∧
      ¬ smallBipartite.Tabulates [.ofConstr 1, .ofConstr 1] [.ofVar 1, .ofVar 1]
        (smallBipartite.dense (some [.ofConstr 1, .ofConstr 1]) (some [.ofVar 1, .ofVar 1])) := by
  refine ⟨reachable_smallBipartite, bipartite_smallBipartite, rfl, rfl, ?_⟩
  intro tabulates
  have entry := tabulates.entries 0 0 (.ofConstr 1) (.ofVar 1) rfl rfl
  have zero : (some 0 : Option Float) = some 2 := entry
  have : (0 : Float) ≠ 2 := by decide
  exact this (Option.some.inj zero)

end Relation

end Decomposition
