import Decomposition.Proofs.Relation.Consistency

namespace Decomposition.Incidence
variable {ρ κ σ : Type} [BEq ρ] [BEq κ] [BEq σ] [OfNat σ 0]

theorem copyRow_eq_writeLine (m into : Incidence ρ κ σ) (keepColumn : κ → Bool) (r : ρ) :
    m.copyRow keepColumn into r =
      ((m.row r).filter fun c _ => keepColumn c).entries.foldl
        (fun n cell => n.set r cell.1 cell.2) into := by
  rw [OrderedMap.entries_filter, List.foldl_filter]
  rfl

/-- Rows are copied if they pass the row predicate. -/
theorem extract_eq_copies (m : Incidence ρ κ σ) (keepRow : ρ → Bool) (keepColumn : κ → Bool)
    (candidates : List ρ) :
    m.extract keepRow keepColumn (some candidates) =
      (candidates.filter keepRow).foldl (m.copyRow keepColumn) .empty := by
  rw [List.foldl_filter]
  rfl

variable {m : Incidence ρ κ σ} {keepColumn : κ → Bool}

section Rows
variable [EquivBEq ρ]

/-- Copying a row registers no other row. -/
theorem hasRow_copyRow {into : Incidence ρ κ σ} {r other : ρ}
    (registered : (m.copyRow keepColumn into r).hasRow other = true) :
    (r == other) = true ∨ into.hasRow other = true := by
  rw [copyRow_eq_writeLine] at registered
  let onlyRow (written : Incidence ρ κ σ) : Prop :=
    written.hasRow other = true → (r == other) = true ∨ into.hasRow other = true
  refine List.foldlRecOn (motive := onlyRow) _ _ Or.inr ?_ registered
  intro written kept cell _ registered
  rw [hasRow_set, Bool.or_eq_true] at registered
  exact registered.elim Or.inl kept

/-- An extraction registers candidates alone. -/
theorem hasRow_extract {keepRow : ρ → Bool} {candidates : List ρ} {r : ρ}
    (registered : (m.extract keepRow keepColumn (some candidates)).hasRow r = true) :
    ∃ candidate ∈ candidates, (candidate == r) = true := by
  rw [extract_eq_copies] at registered
  let onlyCandidates (into : Incidence ρ κ σ) : Prop :=
    into.hasRow r = true → ∃ candidate ∈ candidates, (candidate == r) = true
  have none : onlyCandidates .empty := fun registered => nomatch registered
  refine List.foldlRecOn (motive := onlyCandidates) _ _ none ?_ registered
  intro into kept candidate mem registered
  rcases hasRow_copyRow registered with same | before
  · exact ⟨candidate, (List.mem_filter.1 mem).1, same⟩
  · exact kept before

end Rows

section Columns
variable [EquivBEq κ]

/-- Writing a line into a row changes a column by the line's value there. -/
theorem column_writeLine (into : Incidence ρ κ σ) (r : ρ) {cells : List (κ × σ)}
    (distinct : cells.Pairwise fun a b => (a.1 == b.1) = false) (c : κ) :
    (cells.foldl (fun n cell => n.set r cell.1 cell.2) into).column c =
      ((cells.find? (·.1 == c)).map (·.2)).elim (into.column c)
        (writeCell (into.column c) r) := by
  induction cells generalizing into with
  | nil => rfl
  | cons cell rest ih =>
      obtain ⟨apart, restDistinct⟩ := List.pairwise_cons.1 distinct
      rw [List.foldl_cons, ih _ restDistinct, column_set]
      by_cases same : (cell.1 == c) = true
      · have absent : rest.find? (·.1 == c) = none := by
          refine List.find?_eq_none.2 fun other mem => ?_
          rw [OrderedMap.beq_congr_right (BEq.symm same), BEq.comm, apart other mem]
          simp
        simp [same, absent, into.column_congr same]
      · simp [same]

/-- Copying a row adds to a column the row's value there. -/
theorem column_copyRow (alike : ∀ a b, (a == b) = true → keepColumn a = keepColumn b)
    (into : Incidence ρ κ σ) (r : ρ) (c : κ) :
    (m.copyRow keepColumn into r).column c =
      (if keepColumn c then m.get? r c else none).elim (into.column c)
        (writeCell (into.column c) r) := by
  rw [copyRow_eq_writeLine,
    column_writeLine into r ((m.row r).filter fun c _ => keepColumn c).distinct c]
  have look := (m.row r).get?_filter_key alike c
  rw [OrderedMap.get?, OrderedMap.binding?] at look
  rw [look, get?]

/-- The pairs that a list of rows has in one column. -/
def columnPairs (m : Incidence ρ κ σ) (rows : List ρ) (c : κ) : List (ρ × σ) :=
  rows.filterMap fun r => (m.get? r c).map fun v => (r, v)

/-- The copies of distinct rows are appended to a column that has none of them. -/
theorem column_copies (nonzero : ∀ r c v, m.get? r c = some v → (v == 0) = false)
    (alike : ∀ a b, (a == b) = true → keepColumn a = keepColumn b) {c : κ}
    (keep : keepColumn c = true) {rows : List ρ}
    (distinct : rows.Pairwise fun a b => (a == b) = false) (into : Incidence ρ κ σ)
    (fresh : ∀ entry ∈ (into.column c).entries, ∀ r ∈ rows, (entry.1 == r) = false) :
    ((rows.foldl (m.copyRow keepColumn) into).column c).entries =
      (into.column c).entries ++ m.columnPairs rows c := by
  induction rows generalizing into with
  | nil => simp [columnPairs]
  | cons r rest ih =>
      obtain ⟨apart, restDistinct⟩ := List.pairwise_cons.1 distinct
      have copied := column_copyRow (m := m) alike into r c
      simp only [keep, if_true] at copied
      have later : ∀ entry ∈ (into.column c).entries, ∀ other ∈ rest,
          (entry.1 == other) = false := fun entry mem other inRest =>
        fresh entry mem other (List.mem_cons_of_mem _ inRest)
      rw [List.foldl_cons]
      cases found : m.get? r c with
      | none =>
          have unchanged : (m.copyRow keepColumn into r).column c = into.column c := by
            rw [copied, found]
            rfl
          rw [ih restDistinct _ (by rw [unchanged]; exact later), unchanged]
          simp [columnPairs, found]
      | some v =>
          have appended : ((m.copyRow keepColumn into r).column c).entries =
              (into.column c).entries ++ [(r, v)] := by
            rw [copied, found, Option.elim_some, writeCell, nonzero r c v found]
            exact OrderedMap.entries_insert_of_absent v fun entry mem =>
              fresh entry mem r List.mem_cons_self
          rw [ih restDistinct _ ?_, appended]
          · simp [columnPairs, found]
          · intro entry mem other inRest
            rw [appended, List.mem_append, List.mem_singleton] at mem
            rcases mem with old | rfl
            · exact later entry old other inRest
            · exact apart other inRest

/-- A kept column of an extraction lists the chosen rows in the order of the candidates. -/
theorem column_extract (nonzero : ∀ r c v, m.get? r c = some v → (v == 0) = false)
    (alike : ∀ a b, (a == b) = true → keepColumn a = keepColumn b) (keepRow : ρ → Bool)
    {candidates : List ρ} (distinct : candidates.Pairwise fun a b => (a == b) = false) {c : κ}
    (keep : keepColumn c = true) :
    ((m.extract keepRow keepColumn (some candidates)).column c).entries =
      m.columnPairs (candidates.filter keepRow) c := by
  rw [extract_eq_copies, column_copies nonzero alike keep (distinct.filter _) _ (by simp)]
  simp

end Columns

variable [EquivBEq ρ] [EquivBEq κ]

theorem Consistent.copyRow {into : Incidence ρ κ σ} (h : Consistent into)
    (m : Incidence ρ κ σ) (keepColumn : κ → Bool) (r : ρ) :
    Consistent (m.copyRow keepColumn into r) := by
  rw [copyRow_eq_writeLine]
  exact h.foldl ((m.row r).filter fun c _ => keepColumn c).entries (fun _ => r) (·.1) (·.2)

theorem Consistent.extract (m : Incidence ρ κ σ) (keepRow : ρ → Bool) (keepColumn : κ → Bool)
    (candidates : List ρ) :
    Consistent (m.extract keepRow keepColumn (some candidates)) := by
  rw [extract_eq_copies]
  exact List.foldlRecOn _ _ Consistent.empty fun _ h r _ => h.copyRow m keepColumn r

/-- A copied row is seen under its own keys, and hides nothing else. -/
theorem get?_copyRow {into : Incidence ρ κ σ} (h : Consistent into)
    (nonzero : ∀ r c v, m.get? r c = some v → (v == 0) = false)
    (alike : ∀ a b, (a == b) = true → keepColumn a = keepColumn b) (r a : ρ) (c : κ) :
    (m.copyRow keepColumn into r).get? a c =
      (if r == a && keepColumn c then m.get? r c else none).or (into.get? a c) := by
  rw [← (h.copyRow m keepColumn r).agree, ← h.agree, column_copyRow alike]
  by_cases keep : keepColumn c = true
  · cases found : m.get? r c with
    | none => simp [keep]
    | some v =>
        simp only [keep, if_true, Option.elim_some, get?_writeCell, kept, nonzero r c v found,
          Bool.and_true]
        by_cases same : (r == a) = true <;> simp [same]
  · simp [keep]

theorem get?_copies (nonzero : ∀ r c v, m.get? r c = some v → (v == 0) = false)
    (alike : ∀ a b, (a == b) = true → keepColumn a = keepColumn b) (rows : List ρ)
    {into : Incidence ρ κ σ} (h : Consistent into) (a : ρ) (c : κ) :
    (rows.foldl (m.copyRow keepColumn) into).get? a c =
      (if rows.any (· == a) && keepColumn c then m.get? a c else none).or (into.get? a c) := by
  induction rows generalizing into with
  | nil => simp
  | cons r rest ih =>
      rw [List.foldl_cons, ih (h.copyRow m keepColumn r), get?_copyRow h nonzero alike,
        List.any_cons]
      by_cases same : (r == a) = true
      · have equal : m.get? r c = m.get? a c := by rw [get?, get?, m.row_congr same]
        by_cases keep : keepColumn c = true <;> by_cases listed : rest.any (· == a) = true <;>
          simp [same, keep, listed, equal, ← Option.or_assoc]
      · simp [same]

/-- An extraction holds a pair of the source if its row is a candidate and both ends pass. -/
theorem get?_extract (nonzero : ∀ r c v, m.get? r c = some v → (v == 0) = false)
    {keepRow : ρ → Bool} (alikeRows : ∀ a b, (a == b) = true → keepRow a = keepRow b)
    (alike : ∀ a b, (a == b) = true → keepColumn a = keepColumn b) (candidates : List ρ)
    (r : ρ) (c : κ) :
    (m.extract keepRow keepColumn (some candidates)).get? r c =
      if candidates.any (· == r) && keepRow r && keepColumn c then m.get? r c else none := by
  have chosen : (candidates.filter keepRow).any (· == r) =
      (candidates.any (· == r) && keepRow r) := by
    rw [Bool.eq_iff_iff, List.any_eq_true, Bool.and_eq_true, List.any_eq_true]
    constructor
    · rintro ⟨other, mem, same⟩
      obtain ⟨listed, passes⟩ := List.mem_filter.1 mem
      exact ⟨⟨other, listed, same⟩, by rw [← alikeRows other r same, passes]⟩
    · rintro ⟨⟨other, listed, same⟩, passes⟩
      exact ⟨other, List.mem_filter.2 ⟨listed, by rw [alikeRows other r same, passes]⟩, same⟩
  rw [extract_eq_copies, get?_copies nonzero alike _ Consistent.empty, chosen]
  exact Option.or_none

end Decomposition.Incidence
