import Decomposition.Proofs.Relation.Extraction
import Decomposition.Proofs.Relation.Histories

namespace Decomposition

namespace Incidence
variable {ρ κ σ : Type} [BEq ρ] [BEq κ]

/-- The pairs of a row whose columns pass, in the order of the row. An extraction reads nothing else
of its source. -/
def restrictRow (m : Incidence ρ κ σ) (keep : κ → Bool) (r : ρ) : OrderedMap κ σ :=
  (m.row r).filter fun c _ => keep c

variable {keep : κ → Bool}

/-- A restriction can be restricted further. -/
theorem filter_restrictRow (m : Incidence ρ κ σ) {wide : κ → Bool}
    (wider : ∀ c, keep c = true → wide c = true) (r : ρ) :
    ((m.restrictRow wide r).filter fun c _ => keep c) = m.restrictRow keep r := by
  refine OrderedMap.ext_entries (List.filter_filter.trans (List.filter_congr fun cell _ => ?_))
  dsimp only
  cases passes : keep cell.1 with
  | false => rfl
  | true => rw [wider cell.1 passes]; rfl

section Congruence
variable [BEq σ] [OfNat σ 0] {m n : Incidence ρ κ σ}

theorem copyRow_congr {other : κ → Bool} {r : ρ}
    (agree : m.restrictRow keep r = n.restrictRow other r) (into : Incidence ρ κ σ) :
    m.copyRow keep into r = n.copyRow other into r := by
  rw [copyRow_eq_writeLine, copyRow_eq_writeLine]
  exact congrArg (fun line => line.entries.foldl (fun n cell => n.set r cell.1 cell.2) into) agree

/-- An extraction reads the restricted rows of its candidates, and nothing else. -/
theorem extract_congr {keepRow : ρ → Bool} {candidates : List ρ}
    (agree : ∀ r ∈ candidates, m.restrictRow keep r = n.restrictRow keep r) :
    m.extract keepRow keep (some candidates) = n.extract keepRow keep (some candidates) := by
  rw [extract_eq_copies, extract_eq_copies]
  exact List.foldl_ext _ _ _ fun into r mem =>
    copyRow_congr (agree r (List.mem_filter.1 mem).1) into

end Congruence

section OtherRows
variable [EquivBEq ρ]

theorem restrictRow_registerRow (m : Incidence ρ κ σ) (keep : κ → Bool) (r other : ρ) :
    (m.registerRow r).restrictRow keep other = m.restrictRow keep other := by
  rw [restrictRow, row_registerRow, restrictRow]

variable [BEq σ] [OfNat σ 0]

/-- Writing a line into a row changes no other row. -/
theorem row_writeLine (into : Incidence ρ κ σ) (r other : ρ) (cells : List (κ × σ)) :
    (cells.foldl (fun n cell => n.set r cell.1 cell.2) into).row other =
      if r == other then
        cells.foldl (fun line cell => writeCell line cell.1 cell.2) (into.row other)
      else into.row other := by
  induction cells generalizing into with
  | nil => exact (ite_self _).symm
  | cons cell rest ih =>
      rw [List.foldl_cons, ih, row_set]
      by_cases same : (r == other) = true
      · simp only [if_pos same, List.foldl_cons, into.row_congr same]
      · simp only [if_neg same]

theorem row_copyRow_of_other (m into : Incidence ρ κ σ) (keep : κ → Bool) {r other : ρ}
    (apart : (r == other) = false) : (m.copyRow keep into r).row other = into.row other := by
  rw [copyRow_eq_writeLine, row_writeLine, apart, if_neg Bool.false_ne_true]

theorem row_copies_of_other (m into : Incidence ρ κ σ) (keep : κ → Bool) {rows : List ρ} {other : ρ}
    (apart : ∀ r ∈ rows, (r == other) = false) :
    (rows.foldl (m.copyRow keep) into).row other = into.row other := by
  let unchanged (n : Incidence ρ κ σ) : Prop := n.row other = into.row other
  refine rows.foldlRecOn (motive := unchanged) _ rfl fun n same r mem => ?_
  exact (row_copyRow_of_other m n keep (apart r mem)).trans same

end OtherRows

section Writes
variable [EquivBEq ρ] [EquivBEq κ] [BEq σ] [OfNat σ 0]
variable (alike : ∀ a b, (a == b) = true → keep a = keep b)
include alike

theorem filter_writeCell_of_hidden (line : OrderedMap κ σ) {key : κ} (hidden : keep key = false)
    (v : σ) :
    ((writeCell line key v).filter fun c _ => keep c) = line.filter fun c _ => keep c := by
  have hides (other : κ) (same : (other == key) = true) : keep other = false :=
    (alike other key same).trans hidden
  unfold writeCell
  split
  · exact line.filter_erase_of_hidden hides
  · exact line.filter_insert_of_hidden hides v

/-- A write in another row or in a column outside is not seen. -/
theorem restrictRow_set (m : Incidence ρ κ σ) {r other : ρ} {c : κ}
    (elsewhere : (r == other) = false ∨ keep c = false) (v : σ) :
    (m.set r c v).restrictRow keep other = m.restrictRow keep other := by
  rw [restrictRow, restrictRow, row_set]
  rcases elsewhere with apart | hidden
  · rw [apart, if_neg Bool.false_ne_true]
  · by_cases same : (r == other) = true
    · rw [if_pos same, filter_writeCell_of_hidden alike _ hidden, m.row_congr same]
    · rw [if_neg same]

theorem restrictRow_writes {α : Type} (m : Incidence ρ κ σ) {other : ρ} (items : List α)
    {row : α → ρ} {column : α → κ} (value : α → σ)
    (elsewhere : ∀ item, (row item == other) = false ∨ keep (column item) = false) :
    (items.foldl (fun m item => m.set (row item) (column item) (value item)) m).restrictRow keep
      other = m.restrictRow keep other := by
  let unseen (n : Incidence ρ κ σ) : Prop := n.restrictRow keep other = m.restrictRow keep other
  refine items.foldlRecOn (motive := unseen) _ rfl fun n same item _ => ?_
  exact (restrictRow_set alike n (elsewhere item) (value item)).trans same

end Writes

section Extraction
variable [EquivBEq ρ] [EquivBEq κ] [BEq σ] [OfNat σ 0] {m : Incidence ρ κ σ}

/-- A row that is copied into an empty one is the restricted row. -/
theorem row_copyRow_self (nonzero : ∀ r c v, m.get? r c = some v → (v == 0) = false)
    {into : Incidence ρ κ σ} {r : ρ} (empty : into.row r = .empty) :
    (m.copyRow keep into r).row r = m.restrictRow keep r := by
  let line := m.restrictRow keep r
  have written : ∀ (start : OrderedMap κ σ), ∀ cell ∈ line.entries,
      writeCell start cell.1 cell.2 = start.insert cell.1 cell.2 := by
    intro start cell mem
    have stored : m.get? r cell.1 = some cell.2 :=
      OrderedMap.get?_self_of_mem (List.mem_filter.1 mem).1
    rw [writeCell, nonzero r cell.1 cell.2 stored, if_neg Bool.false_ne_true]
  have filled :
      line.entries.foldl (fun line cell => writeCell line cell.1 cell.2) .empty = line := by
    rw [List.foldl_ext _ _ _ written]
    exact OrderedMap.ext_entries (OrderedMap.entries_ofList line.distinct)
  rw [copyRow_eq_writeLine, row_writeLine, if_pos BEq.rfl, empty]
  exact filled

/-- Each of several distinct rows is copied as it is. -/
theorem row_copies (nonzero : ∀ r c v, m.get? r c = some v → (v == 0) = false) {rows : List ρ}
    (distinct : rows.Pairwise fun a b => (a == b) = false) {into : Incidence ρ κ σ}
    (fresh : ∀ r ∈ rows, into.row r = .empty) {r : ρ} (listed : r ∈ rows) :
    (rows.foldl (m.copyRow keep) into).row r = m.restrictRow keep r := by
  induction rows generalizing into with
  | nil => cases listed
  | cons head rest ih =>
      obtain ⟨apart, restDistinct⟩ := List.pairwise_cons.1 distinct
      rw [List.foldl_cons]
      rcases List.mem_cons.1 listed with rfl | inRest
      · have later : ∀ other ∈ rest, (other == r) = false := fun other mem =>
          BEq.comm.trans (apart other mem)
        rw [row_copies_of_other m _ keep later]
        exact row_copyRow_self nonzero (fresh r List.mem_cons_self)
      · refine ih restDistinct (fun other mem => ?_) inRest
        rw [row_copyRow_of_other m into keep (apart other mem)]
        exact fresh other (List.mem_cons_of_mem _ mem)

/-- A row of an extraction is the restricted row of the source. -/
theorem row_extract (nonzero : ∀ r c v, m.get? r c = some v → (v == 0) = false)
    {keepRow : ρ → Bool} {candidates : List ρ}
    (distinct : candidates.Pairwise fun a b => (a == b) = false) {r : ρ}
    (listed : r ∈ candidates) (passes : keepRow r = true) :
    (m.extract keepRow keep (some candidates)).row r = m.restrictRow keep r := by
  rw [extract_eq_copies]
  exact row_copies nonzero (distinct.filter _) (fun _ _ => rfl)
    (List.mem_filter.2 ⟨listed, passes⟩)

end Extraction

end Incidence

namespace Relation
variable {κ σ : Type} [BEq κ]

/-- The write does not touch the restricted row. -/
def Write.Misses (keep : κ → Bool) (r : κ) : Write κ σ → Prop
  | .set a c _ => (a == r) = false ∨ keep c = false
  | .addRow a _ | .resetRow a _ => (a == r) = false
  | .addColumn c _ | .resetColumn c _ => keep c = false

variable [EquivBEq κ] [BEq σ] [OfNat σ 0] {keep : κ → Bool}

theorem Write.Misses.restrictRow_apply {write : Write κ σ} {r : κ} (misses : write.Misses keep r)
    (alike : ∀ a b, (a == b) = true → keep a = keep b) (m : Incidence κ κ σ) :
    (write.apply m).restrictRow keep r = m.restrictRow keep r := by
  cases write with
  | set a c v => exact Incidence.restrictRow_set alike m misses v
  | addRow a members =>
      exact (Incidence.restrictRow_writes alike _ _ _ fun _ => .inl misses).trans
        (m.restrictRow_registerRow keep a r)
  | addColumn c members => exact Incidence.restrictRow_writes alike _ _ _ fun _ => .inr misses
  | resetRow a members =>
      have cleared : (m.clearRow a).restrictRow keep r = m.restrictRow keep r :=
        Incidence.restrictRow_writes alike m _ _ fun _ => .inl misses
      refine (Incidence.restrictRow_writes alike _ _ _ fun _ => .inl misses).trans ?_
      exact ((m.clearRow a).restrictRow_registerRow keep a r).trans cleared
  | resetColumn c members =>
      have cleared : (m.clearColumn c).restrictRow keep r = m.restrictRow keep r :=
        Incidence.restrictRow_writes alike m _ _ fun _ => .inr misses
      exact (Incidence.restrictRow_writes alike _ _ _ fun _ => .inr misses).trans cleared

/-- Also a write that is refused is not seen. -/
theorem restrictRow_attempt (m : Relation κ σ) {write : Write κ σ} {r : κ}
    (misses : write.Misses keep r) (alike : ∀ a b, (a == b) = true → keep a = keep b) :
    (m.attempt write).cells.restrictRow keep r = m.cells.restrictRow keep r := by
  unfold attempt
  split
  · rfl
  · exact misses.restrictRow_apply alike m.cells

end Relation

end Decomposition
