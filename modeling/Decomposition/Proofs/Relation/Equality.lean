import Decomposition.Proofs.Number.Comparison
import Decomposition.Proofs.Relation.Marks
import Decomposition.Proofs.Relation.RationalProducts

namespace Decomposition

/-- Pairs are equal where both of their ends are. -/
instance equivBEqPair {ρ κ : Type} [BEq ρ] [BEq κ] [EquivBEq ρ] [EquivBEq κ] :
    EquivBEq (ρ × κ) where
  rfl := Bool.and_eq_true_iff.2 ⟨BEq.rfl, BEq.rfl⟩
  symm same := by
    obtain ⟨first, second⟩ := Bool.and_eq_true_iff.1 same
    exact Bool.and_eq_true_iff.2 ⟨BEq.symm first, BEq.symm second⟩
  trans same next := by
    obtain ⟨first, second⟩ := Bool.and_eq_true_iff.1 same
    obtain ⟨first', second'⟩ := Bool.and_eq_true_iff.1 next
    exact Bool.and_eq_true_iff.2 ⟨BEq.trans first first', BEq.trans second second'⟩

/-- Distinct items that all have an equal in a list are at most as many as the list has. -/
theorem length_le_of_into {α : Type} [BEq α] [EquivBEq α] {items into : List α}
    (distinct : items.Pairwise fun a b => (a == b) = false)
    (found : ∀ a ∈ items, ∃ b ∈ into, (a == b) = true) : items.length ≤ into.length := by
  induction items generalizing into with
  | nil => exact Nat.zero_le _
  | cons a rest ih =>
      obtain ⟨apart, restDistinct⟩ := List.pairwise_cons.1 distinct
      obtain ⟨b, mem, same⟩ := found a List.mem_cons_self
      -- The equals of the head are taken out. The rest of the items have theirs elsewhere.
      have fewer : (into.filter fun other => !(a == other)).length < into.length :=
        List.length_filter_lt_length_iff_exists.2 ⟨b, mem, by simp [same]⟩
      have remains : rest.length ≤ (into.filter fun other => !(a == other)).length := by
        apply ih restDistinct
        intro a' inRest
        obtain ⟨b', mem', same'⟩ := found a' (List.mem_cons_of_mem _ inRest)
        refine ⟨b', List.mem_filter.2 ⟨mem', ?_⟩, same'⟩
        rw [← OrderedMap.beq_congr_right same', apart a' inRest]
        rfl
      rw [List.length_cons]
      omega

namespace Incidence
variable {ρ κ σ : Type} [BEq ρ] [BEq κ] {a b m : Incidence ρ κ σ}

/-- A stored value is listed under keys that are equal to those it is asked by. -/
theorem exists_mem_nonzeros {r : ρ} {c : κ} {v : σ} (stored : m.get? r c = some v) :
    ∃ cell ∈ m.nonzeros, (cell.1 == r) = true ∧ (cell.2.1 == c) = true ∧ cell.2.2 = v := by
  rw [get?, row_eq] at stored
  cases look : m.rows.get? r with
  | none => simp [look] at stored
  | some line =>
      rw [look] at stored
      obtain ⟨entry, entryMem, sameRow, rfl⟩ := OrderedMap.exists_mem_of_get? look
      obtain ⟨cell, cellMem, sameColumn, rfl⟩ := OrderedMap.exists_mem_of_get? stored
      refine ⟨(entry.1, cell.1, cell.2), ?_, sameRow, sameColumn, rfl⟩
      exact List.mem_flatMap.2 ⟨entry, entryMem, List.mem_map.2 ⟨cell, cellMem, rfl⟩⟩

theorem All.of_nonzeros {P : σ → Prop} (listed : ∀ cell ∈ m.nonzeros, P cell.2.2) : m.All P := by
  intro r c v stored
  obtain ⟨cell, mem, _, _, rfl⟩ := exists_mem_nonzeros stored
  exact listed cell mem

/-- The pairs at which a value is stored. -/
def pairs (m : Incidence ρ κ σ) : List (ρ × κ) := m.nonzeros.map fun cell => (cell.1, cell.2.1)

theorem length_pairs (m : Incidence ρ κ σ) : m.pairs.length = m.nnz := List.length_map _

/-- No pair is stored twice. -/
theorem pairs_distinct (m : Incidence ρ κ σ) : m.pairs.Pairwise fun a b => (a == b) = false := by
  apply List.pairwise_map.2
  apply List.pairwise_flatMap.2
  constructor
  · intro line _
    apply List.pairwise_map.2
    apply line.2.distinct.imp
    intro a b apart
    exact Bool.and_eq_false_imp.2 fun _ => apart
  · apply m.rows.distinct.imp
    intro a b apart x inA y inB
    obtain ⟨_, _, rfl⟩ := List.mem_map.1 inA
    obtain ⟨_, _, rfl⟩ := List.mem_map.1 inB
    exact Bool.and_eq_false_imp.2 fun same => absurd same (by simp [apart])

/-- Where the first relation has a value, the second one has an equal value. -/
def Within [BEq σ] (a b : Incidence ρ κ σ) : Prop :=
  ∀ r c v, a.get? r c = some v → ∃ w, b.get? r c = some w ∧ (v == w) = true

/-- A relation without zeros is within another one if its readings are found there. -/
theorem Consistent.within_of_reads [BEq σ] [OfNat σ 0] (h : Consistent a)
    (reads : ∀ r c, (a.getD r c 0 == b.getD r c 0) = true) : Within a b := by
  intro r c v stored
  have equal := reads r c
  simp only [getD, stored, Option.getD_some] at equal
  cases found : b.get? r c with
  | some w =>
      rw [found] at equal
      exact ⟨w, rfl, equal⟩
  | none =>
      rw [found] at equal
      have zero : (v == 0) = true := equal
      rw [h.nonzero r c v stored] at zero
      cases zero

section Reading
variable {τ : Type} (m) (read : σ → τ)

theorem get?_map (r : ρ) (c : κ) : (m.map read).get? r c = (m.get? r c).map read := by
  rw [get?, row_map, OrderedMap.get?_map, get?]

theorem nonzeros_map :
    (m.map read).nonzeros = m.nonzeros.map fun cell => (cell.1, cell.2.1, read cell.2.2) := by
  simp [nonzeros, map, OrderedMap.map, List.flatMap_map, List.map_flatMap, Function.comp_def]

variable {m} {read}

/-- No zero is stored if every zero that is read off was one. -/
theorem Consistent.map [BEq σ] [OfNat σ 0] [BEq τ] [OfNat τ 0] (h : Consistent m)
    (nonzero : ∀ v, (v == 0) = false → (read v == 0) = false) : Consistent (m.map read) where
  agree r c := by rw [column_map, OrderedMap.get?_map, h.agree, get?_map]
  nonzero r c v stored := by
    rw [get?_map] at stored
    obtain ⟨x, found, rfl⟩ := Option.map_eq_some_iff.1 stored
    exact nonzero x (h.nonzero r c x found)

end Reading

variable [EquivBEq ρ] [EquivBEq κ]

theorem get?_of_mem_nonzeros {cell : ρ × κ × σ} (mem : cell ∈ m.nonzeros) :
    m.get? cell.1 cell.2.1 = some cell.2.2 := by
  obtain ⟨line, lineMem, inLine⟩ := List.mem_flatMap.1 mem
  obtain ⟨entry, entryMem, rfl⟩ := List.mem_map.1 inLine
  rw [get?, row_of_mem lineMem]
  exact OrderedMap.get?_self_of_mem entryMem

theorem mem_pairs {pair : ρ × κ} (mem : pair ∈ m.pairs) :
    ∃ v, m.get? pair.1 pair.2 = some v := by
  obtain ⟨cell, cellMem, rfl⟩ := List.mem_map.1 mem
  exact ⟨cell.2.2, get?_of_mem_nonzeros cellMem⟩

theorem exists_mem_pairs {r : ρ} {c : κ} {v : σ} (stored : m.get? r c = some v) :
    ∃ pair ∈ m.pairs, ((r, c) == pair) = true := by
  obtain ⟨cell, mem, sameRow, sameColumn, _⟩ := exists_mem_nonzeros stored
  refine ⟨(cell.1, cell.2.1), List.mem_map_of_mem mem, ?_⟩
  exact Bool.and_eq_true_iff.2 ⟨BEq.symm sameRow, BEq.symm sameColumn⟩

/-- Relations compare as what is read off them, if every two of their stored values do. -/
theorem sameCells_map {τ : Type} [BEq σ] [BEq τ] {read : σ → τ}
    (alike : a.All fun x => b.All fun y => (y == x) = (read y == read x)) :
    (a.map read).sameCells (b.map read) = a.sameCells b := by
  rw [sameCells, sameCells, nnz, nnz, nonzeros_map, nonzeros_map, List.length_map, List.length_map,
    List.all_map]
  congr 1
  rw [Bool.eq_iff_iff, List.all_eq_true, List.all_eq_true]
  apply forall₂_congr
  intro cell mem
  simp only [Function.comp_apply, get?_map]
  cases found : b.get? cell.1 cell.2.1 with
  | none => rfl
  | some v =>
      have compared : (v == cell.2.2) = (read v == read cell.2.2) :=
        alike _ _ _ (get?_of_mem_nonzeros mem) _ _ v found
      simp [compared]

variable [BEq σ]

theorem Within.into (within : Within a b) {pair : ρ × κ} (mem : pair ∈ a.pairs) :
    ∃ other ∈ b.pairs, (pair == other) = true := by
  obtain ⟨v, stored⟩ := mem_pairs mem
  obtain ⟨w, found, _⟩ := within _ _ v stored
  exact exists_mem_pairs found

theorem Within.nnz_le (within : Within a b) : a.nnz ≤ b.nnz := by
  rw [← length_pairs, ← length_pairs]
  exact length_le_of_into a.pairs_distinct fun _ mem => within.into mem

variable [PartialEquivBEq σ]

/-- If there are equally many pairs, the second relation has none besides those of the first. -/
theorem Within.symm_of_nnz (within : Within a b) (count : a.nnz = b.nnz) : Within b a := by
  intro r c w stored
  cases found : a.get? r c with
  | some v =>
      obtain ⟨w', again, same⟩ := within r c v found
      rw [stored] at again
      cases again
      exact ⟨v, rfl, BEq.symm same⟩
  | none =>
      -- The pair would be one more than there is room for.
      have fresh : ∀ pair ∈ a.pairs, ((r, c) == pair) = false := by
        intro pair mem
        apply Bool.eq_false_iff.2
        intro same
        obtain ⟨sameRow, sameColumn⟩ := Bool.and_eq_true_iff.1 same
        obtain ⟨v, there⟩ := mem_pairs mem
        rw [get?, ← a.row_congr sameRow, ← OrderedMap.get?_congr _ sameColumn, ← get?,
          found] at there
        cases there
      have more : ((r, c) :: a.pairs).length ≤ b.pairs.length := by
        apply length_le_of_into (List.pairwise_cons.2 ⟨fresh, a.pairs_distinct⟩)
        intro pair mem
        rcases List.mem_cons.1 mem with rfl | inPairs
        · exact exists_mem_pairs stored
        · exact within.into inPairs
      rw [List.length_cons, length_pairs, length_pairs] at more
      omega

/-- Relations are equal if each has the pairs of the other, with equal values. -/
theorem sameCells_iff_within : a.sameCells b = true ↔ Within a b ∧ Within b a := by
  rw [sameCells, Bool.and_eq_true, beq_iff_eq, List.all_eq_true]
  constructor
  · rintro ⟨count, all⟩
    have within : Within a b := by
      intro r c v stored
      obtain ⟨cell, mem, sameRow, sameColumn, rfl⟩ := exists_mem_nonzeros stored
      have test := all cell mem
      rw [get?, b.row_congr sameRow, OrderedMap.get?_congr _ sameColumn, ← get?] at test
      cases found : b.get? r c with
      | none => simp [found] at test
      | some w => exact ⟨w, rfl, BEq.symm (by simpa [found] using test)⟩
    exact ⟨within, within.symm_of_nnz count⟩
  · rintro ⟨within, back⟩
    refine ⟨Nat.le_antisymm within.nnz_le back.nnz_le, ?_⟩
    intro cell mem
    obtain ⟨w, found, same⟩ := within _ _ _ (get?_of_mem_nonzeros mem)
    simpa [found] using BEq.symm same

variable [OfNat σ 0]

/-- Relations without zeros are equal if all their readings are. -/
theorem Consistent.sameCells_iff (h : Consistent a) (h' : Consistent b)
    (zero : ((0 : σ) == 0) = true) :
    a.sameCells b = true ↔ ∀ r c, (a.getD r c 0 == b.getD r c 0) = true := by
  rw [sameCells_iff_within]
  constructor
  · rintro ⟨within, back⟩ r c
    rw [getD, getD]
    cases stored : a.get? r c with
    | some v =>
        obtain ⟨w, found, same⟩ := within r c v stored
        rw [found]
        exact same
    | none =>
        cases found : b.get? r c with
        | none => exact zero
        | some w =>
            obtain ⟨v, there, _⟩ := back r c w found
            rw [stored] at there
            cases there
  · intro reads
    exact ⟨h.within_of_reads reads, h'.within_of_reads fun r c => BEq.symm (reads r c)⟩

end Incidence

namespace Relation

section Reading
variable {κ : Type} [BEq κ] {a b c : Relation κ Float}

/-- No undefined value is stored. -/
def Numeric (m : Relation κ Float) : Prop := m.cells.All fun v => v.isNaN = false

/-- Every pair has equal coefficients in both, where one that is not stored is zero. -/
def ReadsAlike (a b : Relation κ Float) : Prop :=
  ∀ r c, (a.cells.getD r c 0 == b.cells.getD r c 0) = true

theorem Numeric.readsAlike_self (numeric : a.Numeric) : a.ReadsAlike a := by
  intro r c
  apply Binary64.beq_self_of_number
  rw [Incidence.getD]
  cases stored : a.cells.get? r c with
  | none => rfl
  | some v => exact numeric r c v stored

theorem ReadsAlike.symm (alike : a.ReadsAlike b) : b.ReadsAlike a :=
  fun r c => BEq.symm (alike r c)

theorem ReadsAlike.trans (alike : a.ReadsAlike b) (next : b.ReadsAlike c) : a.ReadsAlike c :=
  fun r c => BEq.trans (alike r c) (next r c)

/-- What equals something is a number. -/
theorem ReadsAlike.numeric (alike : a.ReadsAlike b) : a.Numeric := by
  intro r c v stored
  have equal := alike r c
  rw [Incidence.getD, stored, Option.getD_some] at equal
  exact (Binary64.beq_iff_place.1 equal).1

end Reading

section Marks
variable {κ : Type} [BEq κ] {log : List Float} {a b c m : Relation κ Coefficient}

/-- The relation without its marks. -/
def numbers (m : Relation κ Coefficient) : Relation κ Float := m.map Coefficient.value

theorem consistent_numbers (h : m.cells.Consistent) : m.numbers.cells.Consistent :=
  h.map fun _ nonzero => (Bool.or_eq_false_iff.1 nonzero).1

theorem get?_addColumn_nothing (m : Relation κ Coefficient) (line r c : κ) :
    (m.attempt (.addColumn line .empty)).cells.get? r c = m.cells.get? r c := by
  unfold attempt
  split <;> rfl

theorem LoggedIn.addColumn_nothing (logged : m.LoggedIn log) (line : κ) :
    (m.attempt (.addColumn line .empty)).LoggedIn log where
  reached := logged.reached.write _
  entered r c x stored :=
    logged.entered r c x ((get?_addColumn_nothing m line r c).symm.trans stored)

variable [EquivBEq κ]

/-- Among numbers the marks make no difference. -/
theorem LoggedIn.same_eq_numbers (logged : a.LoggedIn log) (logged' : b.LoggedIn log)
    (numeric : a.numbers.Numeric) : a.same b = a.numbers.same b.numbers := by
  apply Eq.symm
  apply Incidence.sameCells_map
  intro r c x stored r' c' y stored'
  have number : x.value.isNaN = false := by
    apply numeric r c
    change (a.cells.map Coefficient.value).get? r c = _
    rw [Incidence.get?_map, stored, Option.map_some]
  exact Coefficient.beq_eq_of_enteredIn (logged'.entered r' c' y stored')
    (logged.entered r c x stored) (Binary64.beq_self_of_number number)

theorem LoggedIn.same_iff (logged : a.LoggedIn log) (logged' : b.LoggedIn log)
    (numeric : a.numbers.Numeric) : a.same b = true ↔ a.numbers.ReadsAlike b.numbers := by
  rw [logged.same_eq_numbers logged' numeric]
  exact (consistent_numbers logged.reached.consistent).sameCells_iff
    (consistent_numbers logged'.reached.consistent) rfl

/-- What reads alike is equal to the same relations. -/
theorem LoggedIn.same_congr (third : c.LoggedIn log) (logged : a.LoggedIn log)
    (logged' : b.LoggedIn log) (alike : c.numbers.ReadsAlike a.numbers) : c.same b = a.same b := by
  rw [Bool.eq_iff_iff, third.same_iff logged' alike.numeric,
    logged.same_iff logged' alike.symm.numeric]
  exact ⟨alike.symm.trans, alike.trans⟩

/-- Lines that are registered without a pair are not compared. -/
theorem LoggedIn.same_of_get? (third : c.LoggedIn log) (logged : a.LoggedIn log)
    (logged' : b.LoggedIn log) (numeric : a.numbers.Numeric)
    (same : ∀ r d, c.cells.get? r d = a.cells.get? r d) : c.same b = a.same b := by
  apply third.same_congr logged logged'
  intro r d
  change ((c.cells.map Coefficient.value).getD r d 0 == a.numbers.cells.getD r d 0) = true
  rw [Incidence.getD, Incidence.get?_map, same, ← Incidence.get?_map]
  exact numeric.readsAlike_self r d

theorem get?_addRow_nothing (m : Relation κ Coefficient) (line r c : κ) :
    (m.attempt (.addRow line .empty)).cells.get? r c = m.cells.get? r c := by
  unfold attempt
  split
  · rfl
  · change ((m.cells.registerRow line).row r).get? c = _
    rw [Incidence.row_registerRow, Incidence.get?]

theorem LoggedIn.addRow_nothing (logged : m.LoggedIn log) (line : κ) :
    (m.attempt (.addRow line .empty)).LoggedIn log where
  reached := logged.reached.write _
  entered r c x stored := logged.entered r c x ((get?_addRow_nothing m line r c).symm.trans stored)

end Marks

/-- Relations without undefined values are equal if and only if all readers find equal numbers. So
equality is an equivalence, and it depends on nothing else that a history leaves behind: not on the
order of the lines, on the lines that are registered without a pair, on the flag or the capacity. -/
theorem same_iff_readsAlike {log : List Float} {a b : Relation Ref Coefficient}
    (logged : a.LoggedIn log) (logged' : b.LoggedIn log) (numeric : a.numbers.Numeric)
    (numeric' : b.numbers.Numeric) :
    (a.same b = true ↔ a.numbers.ReadsAlike b.numbers) ∧
    a.same a = true ∧ b.same a = a.same b ∧
    (∀ c : Relation Ref Coefficient, c.LoggedIn log →
      a.same b = true → b.same c = true → a.same c = true) ∧
    (∀ c : Relation Ref Coefficient, c.LoggedIn log →
      c.numbers.ReadsAlike a.numbers → c.same b = a.same b) ∧
    (∀ frozen capacity, same ⟨a.cells, frozen, capacity⟩ b = a.same b) ∧
    ∀ line, (a.attempt (.addRow line .empty)).same b = a.same b ∧
      (a.attempt (.addColumn line .empty)).same b = a.same b := by
  have reads := logged.same_iff logged' numeric
  refine ⟨reads, ?_, ?_, ?_, ?_, fun _ _ => rfl, ?_⟩
  · exact (logged.same_iff logged numeric).2 numeric.readsAlike_self
  · rw [Bool.eq_iff_iff, reads, logged'.same_iff logged numeric']
    exact ⟨.symm, .symm⟩
  · intro c third first second
    have next := (logged'.same_iff third numeric').1 second
    exact (logged.same_iff third numeric).2 ((reads.1 first).trans next)
  · intro c third alike
    exact third.same_congr logged logged' alike
  · intro line
    constructor
    · exact (logged.addRow_nothing line).same_of_get? logged logged' numeric
        (get?_addRow_nothing a line)
    · exact (logged.addColumn_nothing line).same_of_get? logged logged' numeric
        (get?_addColumn_nothing a line)

/-- Every number that is entered for the two relations below, at its mark. -/
def smallLog : List Float := [0, 2, 3, 4, 5, 9, 3, 1, 5, 4, 2]

/-- Two constraints on two variables. -/
def directRelation : Relation Ref Coefficient :=
  let writes : List (Write Ref Coefficient) :=
    [.addRow (Ident.ofConstr 1) (.ofList [(Ident.ofVar 1, ⟨2, 1⟩), (Ident.ofVar 2, ⟨3, 2⟩)]),
      .addRow (Ident.ofConstr 2) (.ofList [(Ident.ofVar 2, ⟨4, 3⟩), (Ident.ofVar 1, ⟨5, 4⟩)])]
  writes.foldl attempt (.empty none)

/-- The same pairs, entered by columns, with detours and with a further row. -/
def detouredRelation : Relation Ref Coefficient :=
  let writes : List (Write Ref Coefficient) :=
    [.addRow (Ident.ofConstr 7) .empty,
      .addColumn (Ident.ofVar 2) (.ofList [(Ident.ofConstr 2, ⟨9, 5⟩), (Ident.ofConstr 1, ⟨3, 6⟩)]),
      .set (Ident.ofConstr 2) (Ident.ofVar 4) ⟨1, 7⟩,
      .resetRow (Ident.ofConstr 2) (.ofList [(Ident.ofVar 1, ⟨5, 8⟩), (Ident.ofVar 2, ⟨4, 9⟩)]),
      .set (Ident.ofConstr 1) (Ident.ofVar 1) ⟨2, 10⟩]
  (writes.foldl attempt (.empty (some 8))).freeze

theorem loggedIn_directRelation : directRelation.LoggedIn smallLog where
  reached := ((Reachable.empty none).write _).write _
  entered := .of_nonzeros (by unfold Coefficient.EnteredIn; decide)

theorem loggedIn_detouredRelation : detouredRelation.LoggedIn smallLog where
  reached := ((((((Reachable.empty (some 8)).write _).write _).write _).write _).write _).freeze
  entered := .of_nonzeros (by unfold Coefficient.EnteredIn; decide)

/-- Two histories with the same pairs. -/
theorem same_detouredRelation :
    detouredRelation.LoggedIn smallLog ∧ directRelation.LoggedIn smallLog ∧
      detouredRelation.numbers.Numeric ∧ directRelation.numbers.Numeric ∧
      detouredRelation.same directRelation = true ∧
      detouredRelation.numbers.ReadsAlike directRelation.numbers := by
  have numeric : detouredRelation.numbers.Numeric := .of_nonzeros (by decide)
  have numeric' : directRelation.numbers.Numeric := .of_nonzeros (by decide)
  obtain ⟨reads, _⟩ :=
    same_iff_readsAlike loggedIn_detouredRelation loggedIn_directRelation numeric numeric'
  have same : detouredRelation.same directRelation = true := by decide
  exact ⟨loggedIn_detouredRelation, loggedIn_directRelation, numeric, numeric', same,
    reads.1 same⟩

end Relation

/-- In every session the names of equal relations are those that read alike. -/
theorem RelationSession.Reachable.same_iff {s : RelationSession} (reached : s.Reachable)
    {a b : String} (numeric : (s.numbers a).Numeric) :
    s.same a b = true ↔ (s.numbers a).ReadsAlike (s.numbers b) := by
  obtain ⟨log, logged⟩ := reached.exists_log
  exact (logged.relations a).same_iff (logged.relations b) numeric

end Decomposition
