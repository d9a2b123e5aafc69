import Decomposition.Proofs.Relation.Histories

namespace Decomposition

namespace Incidence
variable {ρ κ σ : Type} [BEq ρ] [BEq κ]

/-- The registered lines keep their places. New ones are registered at the end. -/
structure Extends (m n : Incidence ρ κ σ) : Prop where
  rows : m.rows.keys <+: n.rows.keys
  columns : m.cols.keys <+: n.cols.keys

namespace Extends
variable {l m n : Incidence ρ κ σ}

theorem refl (m : Incidence ρ κ σ) : Extends m m := ⟨List.prefix_rfl, List.prefix_rfl⟩

theorem trans (before : Extends l m) (after : Extends m n) : Extends l n :=
  ⟨before.rows.trans after.rows, before.columns.trans after.columns⟩

theorem hasRow (larger : Extends m n) {r : ρ} (registered : m.hasRow r = true) :
    n.hasRow r = true :=
  OrderedMap.contains_of_prefix larger.rows registered

theorem hasColumn (larger : Extends m n) {c : κ} (registered : m.hasColumn c = true) :
    n.hasColumn c = true :=
  OrderedMap.contains_of_prefix larger.columns registered

theorem registerRow (m : Incidence ρ κ σ) (r : ρ) : Extends m (m.registerRow r) :=
  ⟨m.rows.keys_insertIfNew r .empty, List.prefix_rfl⟩

theorem registerColumn (m : Incidence ρ κ σ) (c : κ) : Extends m (m.registerColumn c) :=
  ⟨List.prefix_rfl, m.cols.keys_insertIfNew c .empty⟩

variable [BEq σ] [OfNat σ 0]

theorem set (m : Incidence ρ κ σ) (r : ρ) (c : κ) (v : σ) : Extends m (m.set r c v) :=
  ⟨m.rows.keys_insert r _, m.cols.keys_insert c _⟩

/-- Writes at any pairs, zeros among them. -/
theorem writes {α : Type} (m : Incidence ρ κ σ) (items : List α) (row : α → ρ) (column : α → κ)
    (value : α → σ) :
    Extends m (items.foldl (fun m item => m.set (row item) (column item) (value item)) m) := by
  refine items.foldlRecOn _ (refl m) fun n extended item _ => ?_
  exact extended.trans (set n (row item) (column item) (value item))

theorem addRow (m : Incidence ρ κ σ) (r : ρ) (members : OrderedMap κ σ) :
    Extends (m.registerRow r) (m.addRow r members) :=
  writes (m.registerRow r) members.entries (fun _ => r) (·.1) (·.2)

theorem addColumn (m : Incidence ρ κ σ) (c : κ) (members : OrderedMap ρ σ) :
    Extends (m.registerColumn c) (m.addColumn c members) :=
  writes (m.registerColumn c) members.entries (·.1) (fun _ => c) (·.2)

theorem clearRow (m : Incidence ρ κ σ) (r : ρ) : Extends m (m.clearRow r) :=
  writes m (m.row r).keys (fun _ => r) id fun _ => 0

theorem clearColumn (m : Incidence ρ κ σ) (c : κ) : Extends m (m.clearColumn c) :=
  writes m (m.column c).keys id (fun _ => c) fun _ => 0

end Extends

section Rows
variable [EquivBEq ρ] (m : Incidence ρ κ σ)

theorem hasRow_congr {a b : ρ} (same : (a == b) = true) : m.hasRow a = m.hasRow b := by
  rw [hasRow, hasRow, OrderedMap.contains_eq_isSome, OrderedMap.contains_eq_isSome,
    m.rows.get?_congr same]

variable [BEq σ] [OfNat σ 0]

/-- Writes at pairs register their rows, zeros among them. -/
theorem hasRow_writes {α : Type} (items : List α) (row : α → ρ) (column : α → κ) (value : α → σ)
    (a : ρ) :
    (items.foldl (fun m item => m.set (row item) (column item) (value item)) m).hasRow a =
      (items.any (fun item => row item == a) || m.hasRow a) := by
  induction items generalizing m with
  | nil => rfl
  | cons item rest ih =>
      rw [List.foldl_cons, ih, hasRow_set, List.any_cons, Bool.or_left_comm, Bool.or_assoc]

/-- A line that is written into a row registers the row, unless there is nothing to write. -/
theorem rowKeys_writeLine (r : ρ) (cells : List (κ × σ)) :
    (cells.foldl (fun n cell => n.set r cell.1 cell.2) m).rows.keys =
      m.rows.keys ++ if m.hasRow r || cells.isEmpty then [] else [r] := by
  induction cells generalizing m with
  | nil => simp
  | cons cell rest ih =>
      rw [List.foldl_cons, ih, hasRow_set, BEq.rfl, Bool.true_or, Bool.true_or, if_pos rfl,
        List.append_nil, set, OrderedMap.keys_insert_eq, List.isEmpty_cons, Bool.or_false]
      rfl

/-- A row is registered with its first addition, and so is each column that it has a cell for. -/
theorem hasRow_addRow_eq (r : ρ) (members : OrderedMap κ σ) (a : ρ) :
    (m.addRow r members).hasRow a = (r == a || m.hasRow a) := by
  have registered : (m.registerRow r).hasRow a = (r == a || m.hasRow a) :=
    m.rows.contains_insertIfNew r a .empty
  refine (hasRow_writes _ members.entries (fun _ => r) (·.1) (·.2) a).trans ?_
  rw [registered, ← Bool.or_assoc]
  cases r == a <;> simp

theorem hasRow_addRow (r : ρ) (members : OrderedMap κ σ) :
    (m.addRow r members).hasRow r = true := by
  rw [hasRow_addRow_eq, BEq.rfl, Bool.true_or]

theorem hasRow_addColumn (c : κ) (members : OrderedMap ρ σ) (a : ρ) :
    (m.addColumn c members).hasRow a = (members.contains a || m.hasRow a) :=
  hasRow_writes (m.registerColumn c) members.entries (·.1) (fun _ => c) (·.2) a

end Rows

section Columns
variable [EquivBEq κ] (m : Incidence ρ κ σ)

theorem hasColumn_congr {a b : κ} (same : (a == b) = true) : m.hasColumn a = m.hasColumn b := by
  rw [hasColumn, hasColumn, OrderedMap.contains_eq_isSome, OrderedMap.contains_eq_isSome,
    m.cols.get?_congr same]

variable [BEq σ] [OfNat σ 0]

theorem hasColumn_writes {α : Type} (items : List α) (row : α → ρ) (column : α → κ)
    (value : α → σ) (b : κ) :
    (items.foldl (fun m item => m.set (row item) (column item) (value item)) m).hasColumn b =
      (items.any (fun item => column item == b) || m.hasColumn b) := by
  induction items generalizing m with
  | nil => rfl
  | cons item rest ih =>
      rw [List.foldl_cons, ih, hasColumn_set, List.any_cons, Bool.or_left_comm, Bool.or_assoc]

/-- The columns of the cells are registered in the order of the line. -/
theorem columnKeys_writeLine {cells : List (κ × σ)}
    (distinct : cells.Pairwise fun a b => (a.1 == b.1) = false) (r : ρ) :
    (cells.foldl (fun n cell => n.set r cell.1 cell.2) m).cols.keys =
      m.cols.keys ++ (cells.map (·.1)).filter fun c => !m.hasColumn c := by
  induction cells generalizing m with
  | nil => exact (List.append_nil _).symm
  | cons cell rest ih =>
      obtain ⟨apart, restDistinct⟩ := List.pairwise_cons.1 distinct
      have elsewhere : ((rest.map (·.1)).filter fun c => !(m.set r cell.1 cell.2).hasColumn c) =
          (rest.map (·.1)).filter fun c => !m.hasColumn c := by
        refine List.filter_congr fun c mem => ?_
        obtain ⟨other, inRest, rfl⟩ := List.mem_map.1 mem
        rw [hasColumn_set, apart other inRest, Bool.false_or]
      rw [List.foldl_cons, ih _ restDistinct, elsewhere, set, OrderedMap.keys_insert_eq,
        List.map_cons, List.filter_cons, List.append_assoc]
      cases registered : m.cols.contains cell.1 <;> simp [hasColumn, registered]

theorem hasColumn_addColumn_eq (c : κ) (members : OrderedMap ρ σ) (b : κ) :
    (m.addColumn c members).hasColumn b = (c == b || m.hasColumn b) := by
  have registered : (m.registerColumn c).hasColumn b = (c == b || m.hasColumn b) :=
    m.cols.contains_insertIfNew c b .empty
  refine (hasColumn_writes _ members.entries (·.1) (fun _ => c) (·.2) b).trans ?_
  rw [registered, ← Bool.or_assoc]
  cases c == b <;> simp

theorem hasColumn_addColumn (c : κ) (members : OrderedMap ρ σ) :
    (m.addColumn c members).hasColumn c = true := by
  rw [hasColumn_addColumn_eq, BEq.rfl, Bool.true_or]

theorem hasColumn_addRow (r : ρ) (members : OrderedMap κ σ) (b : κ) :
    (m.addRow r members).hasColumn b = (members.contains b || m.hasColumn b) :=
  hasColumn_writes (m.registerRow r) members.entries (fun _ => r) (·.1) (·.2) b

end Columns

end Incidence

namespace Relation
variable {κ σ : Type} [BEq κ] [BEq σ] [OfNat σ 0]

theorem Write.extends_apply (write : Write κ σ) (m : Incidence κ κ σ) :
    Incidence.Extends m (write.apply m) := by
  cases write with
  | set r c v => exact .set m r c v
  | addRow r members => exact (Incidence.Extends.registerRow m r).trans (.addRow m r members)
  | addColumn c members =>
      exact (Incidence.Extends.registerColumn m c).trans (.addColumn m c members)
  | resetRow r members =>
      have cleared := Incidence.Extends.clearRow m r
      exact (cleared.trans (.registerRow _ r)).trans (.addRow _ r members)
  | resetColumn c members =>
      have cleared := Incidence.Extends.clearColumn m c
      exact (cleared.trans (.registerColumn _ c)).trans (.addColumn _ c members)

/-- Also a write that is refused takes nothing off the indexes. -/
theorem attempt_extends (m : Relation κ σ) (write : Write κ σ) :
    Incidence.Extends m.cells (m.attempt write).cells := by
  unfold attempt
  split
  · exact .refl m.cells
  · exact write.extends_apply m.cells

@[simp] theorem attempt_frozen (m : Relation κ σ) (write : Write κ σ) :
    (m.attempt write).frozen = m.frozen := by
  unfold attempt
  split <;> rfl

end Relation

end Decomposition
