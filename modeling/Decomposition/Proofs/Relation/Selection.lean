import Mathlib.Data.List.Induction
import Decomposition.Proofs.Relation.Reachability
import Decomposition.Proofs.Relation.Registration
import Decomposition.Proofs.Relation.Restriction

namespace Decomposition

namespace Incidence
variable {ρ κ σ : Type} [BEq ρ] [BEq κ] [BEq σ] [OfNat σ 0] {m : Incidence ρ κ σ}

/-- Writing a pair that is stored changes nothing. -/
theorem Consistent.set_of_stored (h : Consistent m) {r : ρ} {c : κ} {v : σ}
    (stored : m.get? r c = some v) : m.set r c v = m := by
  have nonzero := h.nonzero r c v stored
  have inColumn : (m.column c).get? r = some v := (h.agree r c).trans stored
  rw [Incidence.set, writeCell, writeCell, nonzero, if_neg Bool.false_ne_true,
    if_neg Bool.false_ne_true, OrderedMap.insert_of_get? stored,
    OrderedMap.insert_of_get? inColumn, OrderedMap.insert_of_get? (rows_get?_of_get? stored),
    OrderedMap.insert_of_get? (cols_get?_of_get? inColumn)]

/-- A row that is already there is copied without effect. -/
theorem Consistent.copyRow_of_stored {into : Incidence ρ κ σ} (h : Consistent into)
    {keep : κ → Bool} {r : ρ}
    (stored : ∀ cell ∈ (m.restrictRow keep r).entries, into.get? r cell.1 = some cell.2) :
    m.copyRow keep into r = into := by
  rw [copyRow_eq_writeLine]
  let unchanged (n : Incidence ρ κ σ) : Prop := n = into
  refine List.foldlRecOn (motive := unchanged) _ _ rfl fun n same cell mem => ?_
  change n = into at same
  rw [same]
  exact h.set_of_stored (stored cell mem)

theorem copyRow_of_isEmpty {keep : κ → Bool} {r : ρ}
    (empty : (m.restrictRow keep r).entries.isEmpty = true) (into : Incidence ρ κ σ) :
    m.copyRow keep into r = into := by
  rw [restrictRow, List.isEmpty_iff] at empty
  rw [copyRow_eq_writeLine, empty]
  rfl

section Rows
variable [EquivBEq ρ]

/-- Lines without pairs are not registered, so a row is fresh until it is asked for. -/
theorem hasRow_copies_of_fresh {keep : κ → Bool} {rows : List ρ}
    {r : ρ} (fresh : rows.any (· == r) = false) :
    (rows.foldl (m.copyRow keep) .empty).hasRow r = false := by
  let missing (into : Incidence ρ κ σ) : Prop := into.hasRow r = false
  refine List.foldlRecOn (motive := missing) _ _ rfl fun into absent other mem => ?_
  refine Bool.eq_false_iff.2 fun registered => ?_
  rcases hasRow_copyRow registered with same | before
  · exact Bool.false_ne_true (fresh.symm.trans (List.any_eq_true.2 ⟨other, mem, same⟩))
  · exact Bool.false_ne_true (absent.symm.trans before)

theorem rowKeys_copyRow (m into : Incidence ρ κ σ) (keep : κ → Bool) (r : ρ) :
    (m.copyRow keep into r).rows.keys =
      into.rows.keys ++
        if into.hasRow r || (m.restrictRow keep r).entries.isEmpty then [] else [r] := by
  rw [copyRow_eq_writeLine]
  exact rowKeys_writeLine into r (m.restrictRow keep r).entries

end Rows

/-- Registered lines without pairs do not occur, as in every extraction. -/
structure Tight (m : Incidence ρ κ σ) : Prop where
  rows : ∀ r, m.hasRow r = true → ∃ c v, m.get? r c = some v
  columns : ∀ c, m.hasColumn c = true → ∃ r v, m.get? r c = some v

variable [EquivBEq ρ] [EquivBEq κ]

theorem Tight.set (tight : Tight m) (r : ρ) (c : κ) {v : σ} (nonzero : (v == 0) = false) :
    Tight (m.set r c v) := by
  have written : kept v = some v := by rw [kept, nonzero, if_neg Bool.false_ne_true]
  constructor
  · intro other registered
    rw [hasRow_set, Bool.or_eq_true] at registered
    rcases registered with same | before
    · exact ⟨c, v, by rw [get?_set, same, BEq.rfl, Bool.and_true, if_pos rfl, written]⟩
    · obtain ⟨d, w, stored⟩ := tight.rows other before
      by_cases here : (r == other && c == d) = true
      · exact ⟨d, v, by rw [get?_set, if_pos here, written]⟩
      · exact ⟨d, w, by rw [get?_set, if_neg here, stored]⟩
  · intro other registered
    rw [hasColumn_set, Bool.or_eq_true] at registered
    rcases registered with same | before
    · exact ⟨r, v, by rw [get?_set, same, BEq.rfl, Bool.and_true, if_pos rfl, written]⟩
    · obtain ⟨q, w, stored⟩ := tight.columns other before
      by_cases here : (r == q && c == other) = true
      · exact ⟨q, v, by rw [get?_set, if_pos here, written]⟩
      · exact ⟨q, w, by rw [get?_set, if_neg here, stored]⟩

section Extraction
variable (nonzero : ∀ r c v, m.get? r c = some v → (v == 0) = false) {keep : κ → Bool}
include nonzero

theorem Tight.copyRow {into : Incidence ρ κ σ} (tight : Tight into) (r : ρ) :
    Tight (m.copyRow keep into r) := by
  rw [copyRow_eq_writeLine]
  refine List.foldlRecOn _ _ tight fun n kept cell mem => kept.set r cell.1 ?_
  exact nonzero r cell.1 cell.2 (OrderedMap.get?_self_of_mem (List.mem_filter.1 mem).1)

theorem tight_copies (rows : List ρ) : Tight (rows.foldl (m.copyRow keep) .empty) := by
  have empty : Tight (.empty : Incidence ρ κ σ) :=
    ⟨fun _ registered => (nomatch registered), fun _ registered => (nomatch registered)⟩
  exact List.foldlRecOn _ _ empty fun _ tight r _ => tight.copyRow nonzero r

/-- A row is copied once, however often it is asked for. -/
theorem copyRow_of_listed (alike : ∀ a b, (a == b) = true → keep a = keep b) {rows : List ρ}
    {r : ρ} (listed : rows.any (· == r) = true) :
    m.copyRow keep (rows.foldl (m.copyRow keep) .empty) r =
      rows.foldl (m.copyRow keep) .empty := by
  have consistent : Consistent (rows.foldl (m.copyRow keep) .empty) :=
    List.foldlRecOn _ _ Consistent.empty fun _ h r _ => h.copyRow m keep r
  refine consistent.copyRow_of_stored fun cell mem => ?_
  obtain ⟨inRow, passes⟩ := List.mem_filter.1 mem
  have stored : m.get? r cell.1 = some cell.2 := OrderedMap.get?_self_of_mem inRow
  have passes : keep cell.1 = true := passes
  rw [get?_copies nonzero alike rows Consistent.empty, listed, passes, stored]
  rfl

end Extraction

section Composition
variable (nonzero : ∀ r c v, m.get? r c = some v → (v == 0) = false) {keep : κ → Bool}
  {keepRow : ρ → Bool} {narrow : κ → Bool}
include nonzero

/-- A fresh row comes last, and goes through both restrictions. -/
theorem extract_copyRow_of_fresh {into : Incidence ρ κ σ} {r : ρ} (fresh : into.hasRow r = false) :
    (m.copyRow keep into r).extract keepRow narrow none =
      if keepRow r then m.copyRow (fun c => keep c && narrow c) (into.extract keepRow narrow none) r
      else into.extract keepRow narrow none := by
  have apart : ∀ other ∈ into.rows.keys, (r == other) = false := fun other mem =>
    Bool.eq_false_iff.2 fun same => Bool.false_ne_true <|
      fresh.symm.trans ((OrderedMap.contains_iff _ _).2 ⟨other, mem, BEq.symm same⟩)
  have blank : into.row r = .empty := by
    have absent : into.rows.get? r = none := by
      simpa [hasRow, OrderedMap.contains_eq_isSome] using fresh
    rw [row_eq, absent]
    rfl
  have elsewhere : (m.copyRow keep into r).extract keepRow narrow (some into.rows.keys) =
      into.extract keepRow narrow none := by
    refine extract_congr fun other mem => ?_
    rw [restrictRow, row_copyRow_of_other m into keep (apart other mem), restrictRow]
  have here : (m.copyRow keep into r).restrictRow narrow r =
      m.restrictRow (fun c => keep c && narrow c) r := by
    rw [restrictRow, row_copyRow_self nonzero blank]
    refine OrderedMap.ext_entries (List.filter_filter.trans (List.filter_congr fun cell _ => ?_))
    exact Bool.and_comm _ _
  have keys := rowKeys_copyRow m into keep r
  rw [fresh, Bool.false_or] at keys
  change (m.copyRow keep into r).extract keepRow narrow (some (m.copyRow keep into r).rows.keys) = _
  rw [keys, extract, Option.getD_some, List.foldl_append]
  rw [extract, Option.getD_some] at elsewhere
  rw [elsewhere]
  cases empty : (m.restrictRow keep r).entries.isEmpty with
  | false =>
      rw [if_neg Bool.false_ne_true, List.foldl_cons, List.foldl_nil, copyRow_congr here]
  | true =>
      have none : (m.restrictRow (fun c => keep c && narrow c) r).entries.isEmpty = true := by
        rw [restrictRow, List.isEmpty_iff] at empty ⊢
        refine List.filter_eq_nil_iff.2 fun cell mem passes => ?_
        exact List.filter_eq_nil_iff.1 empty cell mem (Bool.and_eq_true_iff.1 passes).1
      rw [if_pos rfl, List.foldl_nil, copyRow_of_isEmpty none, ite_self]

variable (alike : ∀ a b, (a == b) = true → keep a = keep b)
  (alikeRows : ∀ a b, (a == b) = true → keepRow a = keepRow b)
  (alikeNarrow : ∀ a b, (a == b) = true → narrow a = narrow b)
include alike alikeRows alikeNarrow

/-- Copies of rows can be copied again, and the order is that of the first request for each. -/
theorem extract_copies (rows : List ρ) :
    (rows.foldl (m.copyRow keep) .empty).extract keepRow narrow none =
      (rows.filter keepRow).foldl (m.copyRow fun c => keep c && narrow c) .empty := by
  have alikeBoth (a b : κ) (same : (a == b) = true) :
      (keep a && narrow a) = (keep b && narrow b) := by
    rw [alike a b same, alikeNarrow a b same]
  induction rows using List.reverseRecOn with
  | nil => rfl
  | append_singleton rows r ih =>
      rw [List.foldl_append, List.foldl_cons, List.foldl_nil, List.filter_append,
        List.foldl_append, ← ih]
      cases listed : rows.any (· == r) with
      | false =>
          rw [extract_copyRow_of_fresh nonzero (hasRow_copies_of_fresh listed), List.filter_cons]
          cases keepRow r <;> rfl
      | true =>
          rw [copyRow_of_listed nonzero alike listed, List.filter_cons]
          cases passes : keepRow r with
          | false => rfl
          | true =>
              obtain ⟨other, mem, same⟩ := List.any_eq_true.1 listed
              have again : (rows.filter keepRow).any (· == r) = true := by
                refine List.any_eq_true.2 ⟨other, List.mem_filter.2 ⟨mem, ?_⟩, same⟩
                rw [alikeRows other r same, passes]
              rw [if_pos rfl, List.foldl_cons, ih, List.filter_nil, List.foldl_nil,
                copyRow_of_listed nonzero alikeBoth again]

/-- An extraction of an extraction is one extraction. -/
theorem extract_extract (keepFirst : ρ → Bool) (candidates : Option (List ρ)) :
    (m.extract keepFirst keep candidates).extract keepRow narrow none =
      m.extract (fun r => keepFirst r && keepRow r) (fun c => keep c && narrow c) candidates := by
  change (m.extract keepFirst keep (some (candidates.getD _))).extract keepRow narrow none =
    m.extract _ _ (some (candidates.getD _))
  rw [extract_eq_copies, extract_eq_copies, extract_copies nonzero alike alikeRows alikeNarrow,
    List.filter_filter]
  congr 1
  exact List.filter_congr fun r _ => Bool.and_comm _ _

end Composition

end Incidence

namespace Relation

/-- A row is a candidate if it is listed, or if there is no list. -/
def IsCandidate {κ : Type} [BEq κ] (candidates : Option (List κ)) (r : κ) : Prop :=
  ∀ listed, candidates = some listed → listed.any (· == r) = true

/-- `n` holds the pairs of `m` that are asked for, and registers what it has pairs for. -/
structure Selects {κ σ : Type} [BEq κ] (m n : Relation κ σ) (keepRow keepColumn : κ → Bool)
    (candidates : Option (List κ)) : Prop where
  pairs : ∀ r c v, n.cells.get? r c = some v ↔
    m.cells.get? r c = some v ∧ keepRow r = true ∧ keepColumn c = true ∧ IsCandidate candidates r
  rows : ∀ r, n.cells.hasRow r = true ↔ ∃ c v, n.cells.get? r c = some v
  columns : ∀ c, n.cells.hasColumn c = true ↔ ∃ r v, n.cells.get? r c = some v

/-- A row that has a value is registered, so that it is looked at also when there is no list. -/
theorem any_candidates {κ σ : Type} [BEq κ] {m : Incidence κ κ σ} {candidates : Option (List κ)}
    {r c : κ} {v : σ} (stored : m.get? r c = some v) :
    (candidates.getD m.rows.keys).any (· == r) = true ↔ IsCandidate candidates r := by
  cases candidates with
  | some listed => exact ⟨fun mem _ same => Option.some.inj same ▸ mem, fun all => all listed rfl⟩
  | none =>
      have registered := (OrderedMap.contains_iff _ _).1 (Incidence.hasRow_of_get? stored)
      exact ⟨fun _ _ same => (nomatch same), fun _ => List.any_eq_true.2 registered⟩

theorem selects_extract {κ σ : Type} [BEq κ] [EquivBEq κ] [BEq σ] [OfNat σ 0] {m : Relation κ σ}
    (h : m.cells.Consistent) {keepRow keepColumn : κ → Bool}
    (alikeRows : ∀ a b, (a == b) = true → keepRow a = keepRow b)
    (alikeColumns : ∀ a b, (a == b) = true → keepColumn a = keepColumn b) (capacity : Option Int)
    (candidates : Option (List κ)) :
    m.Selects (m.extract keepRow keepColumn capacity candidates) keepRow keepColumn candidates := by
  let looked := candidates.getD m.cells.rows.keys
  have consistent : (m.extract keepRow keepColumn capacity candidates).cells.Consistent :=
    .extract m.cells keepRow keepColumn looked
  have tight : (m.extract keepRow keepColumn capacity candidates).cells.Tight := by
    change (m.cells.extract keepRow keepColumn (some looked)).Tight
    rw [Incidence.extract_eq_copies]
    exact Incidence.tight_copies h.nonzero _
  refine ⟨fun r c v => ?_, fun r => ⟨tight.rows r, ?_⟩, fun c => ⟨tight.columns c, ?_⟩⟩
  · change (m.cells.extract keepRow keepColumn (some looked)).get? r c = some v ↔ _
    rw [Incidence.get?_extract h.nonzero alikeRows alikeColumns, Option.ite_none_right_eq_some,
      Bool.and_eq_true, Bool.and_eq_true]
    constructor
    · rintro ⟨⟨⟨listed, row⟩, column⟩, stored⟩
      exact ⟨stored, row, column, (any_candidates stored).1 listed⟩
    · rintro ⟨stored, row, column, candidate⟩
      exact ⟨⟨⟨(any_candidates stored).2 candidate, row⟩, column⟩, stored⟩
  · rintro ⟨c, v, stored⟩
    exact Incidence.hasRow_of_get? stored
  · rintro ⟨r, v, stored⟩
    exact Incidence.hasColumn_of_get? ((consistent.agree r c).trans stored)

/-- An extraction is a mutable relation, also when its source is frozen. Both of its indexes tell
the same, and it holds exactly what was asked for, whatever the candidates repeat or make up. It can
be extracted from in turn, and the result is the extraction by both conditions, down to the order of
every line. -/
theorem extract_selects {m : Relation Ref Float} (reached : m.Reachable)
    (keepRow keepColumn : Ref → Bool)
    (alikeRows : ∀ a b, (a == b) = true → keepRow a = keepRow b)
    (alikeColumns : ∀ a b, (a == b) = true → keepColumn a = keepColumn b) (capacity : Option Int)
    (candidates : Option (List Ref)) :
    let n := m.extract keepRow keepColumn capacity candidates
    n.frozen = false ∧ n.capacity = capacity ∧ n.WellIndexed ∧
      m.Selects n keepRow keepColumn candidates ∧
      ∀ keepRow' keepColumn' : Ref → Bool,
        (∀ a b, (a == b) = true → keepRow' a = keepRow' b) →
        (∀ a b, (a == b) = true → keepColumn' a = keepColumn' b) →
        ∀ capacity', n.extract keepRow' keepColumn' capacity' none =
          m.extract (fun r => keepRow r && keepRow' r) (fun c => keepColumn c && keepColumn' c)
            capacity' candidates := by
  have consistent := reached.consistent
  refine ⟨rfl, rfl, ?_, selects_extract consistent alikeRows alikeColumns capacity candidates, ?_⟩
  · have extracted := reached.extract keepRow keepColumn capacity candidates
    exact wellIndexed_of_consistent extracted.consistent
  · intro keepRow' keepColumn' alikeRows' alikeColumns' capacity'
    have once := Incidence.extract_extract consistent.nonzero alikeColumns alikeRows' alikeColumns'
      keepRow candidates
    exact congrArg (fun cells => (⟨cells, false, capacity'⟩ : Relation Ref Float)) once

/-- The second constraint is asked for twice, a ninth one does not exist, and the first variable is
left out. The source is frozen, and its third variable has no pair. -/
theorem extract_selects_smallRelation :
    let second := Ref.ident (Ident.ofConstr 2)
    let n := smallRelation.freeze.extract (fun _ => true) (fun c => !(c == .ident (.ofVar 1))) none
      (some [second, .ident (.ofConstr 9), second, .ident (.ofConstr 1)])
    n.frozen = false ∧ n.cells.get? second (Ident.ofVar 2) = some 4 ∧
      n.cells.get? second (Ident.ofVar 1) = none ∧
      n.cells.hasRow (Ident.ofConstr 9) = false ∧ n.cells.hasColumn (Ident.ofVar 3) = false ∧
      n.extract (· == second) (fun _ => true) none none =
        smallRelation.extract (fun r => true && r == second)
          (fun c => !(c == .ident (.ofVar 1)) && true) none
          (some [second, .ident (.ofConstr 9), second, .ident (.ofConstr 1)]) := by
  obtain ⟨mutable, _, _, selects, again⟩ := extract_selects reachable_smallRelation.freeze
    (fun _ => true) (fun c => !(c == .ident (.ofVar 1)))
    (fun _ _ _ => rfl) (fun _ _ same => congrArg not (OrderedMap.beq_congr_left same)) none
    (some [.ident (.ofConstr 2), .ident (.ofConstr 9), .ident (.ofConstr 2), .ident (.ofConstr 1)])
  have consistent := reachable_smallRelation.consistent
  refine ⟨mutable, (selects.pairs _ _ _).2 ⟨rfl, rfl, rfl, ?_⟩, ?_, ?_, ?_, ?_⟩
  · rintro listed ⟨⟩
    rfl
  · refine Option.eq_none_iff_forall_ne_some.2 fun v stored => ?_
    obtain ⟨_, _, passes, _⟩ := (selects.pairs _ _ v).1 stored
    exact Bool.false_ne_true passes
  · refine Bool.eq_false_iff.2 fun registered => ?_
    obtain ⟨c, v, stored⟩ := (selects.rows _).1 registered
    obtain ⟨known, _⟩ := (selects.pairs _ c v).1 stored
    exact nomatch known
  · refine Bool.eq_false_iff.2 fun registered => ?_
    obtain ⟨r, v, stored⟩ := (selects.columns _).1 registered
    obtain ⟨known, _⟩ := (selects.pairs r _ v).1 stored
    exact nomatch (consistent.agree r _).trans known
  · exact again _ _ (fun _ _ same => OrderedMap.beq_congr_left same) (fun _ _ _ => rfl) none

end Relation

end Decomposition
