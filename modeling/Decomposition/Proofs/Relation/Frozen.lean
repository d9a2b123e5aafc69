import Decomposition.Proofs.Outcome
import Decomposition.Proofs.Relation.Marks
import Decomposition.Proofs.Snapshot.Lagrangian

namespace Decomposition

namespace Relation
variable {κ σ : Type} [BEq κ]

/-- What can be asked of a relation. -/
inductive Query (κ σ : Type) [BEq κ] where
  | coefficient (r c : κ) (fallback : σ)
  | row (r : κ)
  | column (c : κ)
  | hasRow (r : κ)
  | hasColumn (c : κ)
  | rowKeys
  | columnKeys
  | nnz
  | nonzeros
  | mul (x : OrderedMap κ σ)
  | transposeMul (y : OrderedMap κ σ)
  /-- Without a list, the registered keys are taken in the given order. -/
  | dense (order : List κ → List κ) (rows columns : Option (List κ))
  | same (other : Relation κ σ)
  | describe
  | capacity

inductive Answer (κ σ : Type) [BEq κ] where
  | value (v : σ)
  | truth (b : Bool)
  | count (n : Nat)
  | keys (keys : List κ)
  | line (line : OrderedMap κ σ)
  | cells (cells : List (κ × κ × σ))
  | table (rows : List (List σ))
  | text (text : String)
  | hint (capacity : Option Int)
  /-- A copy or an extract. -/
  | relation (m : Relation κ σ)
  | nothing

/-- A call with its arguments. -/
inductive Call (κ σ : Type) [BEq κ] where
  | write (write : Write κ σ)
  | freeze
  | query (query : Query κ σ)
  | extract (keepRow keepColumn : κ → Bool) (capacity : Option Int) (candidates : Option (List κ))
  | copy

theorem freeze_of_frozen {m : Relation κ σ} (frozen : m.frozen = true) : m.freeze = m := by
  obtain ⟨cells, flag, capacity⟩ := m
  cases frozen
  rfl

variable [BEq σ] [OfNat σ 0]

/-- A frozen relation refuses every write, also one that would write nothing. -/
theorem perform_freeze (m : Relation κ σ) (write : Write κ σ) :
    m.freeze.perform write = .error .frozen := by
  rw [perform_eq_write, Relation.write]
  rfl

variable [Add σ] [Mul σ]

def answer (m : Relation κ σ) : Query κ σ → Answer κ σ
  | .coefficient r c fallback => .value (m.cells.getD r c fallback)
  | .row r => .line (m.cells.row r)
  | .column c => .line (m.cells.column c)
  | .hasRow r => .truth (m.cells.hasRow r)
  | .hasColumn c => .truth (m.cells.hasColumn c)
  | .rowKeys => .keys m.cells.rows.keys
  | .columnKeys => .keys m.cells.cols.keys
  | .nnz => .count m.nnz
  | .nonzeros => .cells m.cells.nonzeros
  | .mul x => .line (m.cells.mul x)
  | .transposeMul y => .line (m.cells.transposeMul y)
  | .dense order rows columns =>
      .table (m.cells.dense (rows.getD (order m.cells.rows.keys))
        (columns.getD (order m.cells.cols.keys)))
  | .same other => .truth (m.same other)
  | .describe => .text m.describe
  | .capacity => .hint m.capacity

def call (m : Relation κ σ) : Call κ σ → Outcome (Relation κ σ) (Answer κ σ)
  | .write write => (Outcome.ofChange m (m.perform write)).map fun _ => .nothing
  | .freeze => .ok m.freeze .nothing
  | .query query => .ok m (m.answer query)
  | .extract keepRow keepColumn capacity candidates =>
      .ok m (.relation (m.extract keepRow keepColumn capacity candidates))
  | .copy => .ok m (.relation m.copy)

/-- Call after call, with all that is answered. A refused call does not end the run. -/
def run (m : Relation κ σ) : List (Call κ σ) → Relation κ σ × List (Except Fault (Answer κ σ))
  | [] => (m, [])
  | call :: rest =>
      let made := m.call call
      let later := made.state.run rest
      (later.1, made.result :: later.2)

/-- What a call is answered after the freeze, by what the relation is then. -/
def frozenAnswer (m : Relation κ σ) : Call κ σ → Except Fault (Answer κ σ)
  | .write _ => .error .frozen
  | .freeze => .ok .nothing
  | .query query => .ok (m.answer query)
  | .extract keepRow keepColumn capacity candidates =>
      .ok (.relation (m.extract keepRow keepColumn capacity candidates))
  | .copy => .ok (.relation m.copy)

/-- One call on a frozen relation. -/
theorem call_freeze (m : Relation κ σ) (call : Call κ σ) :
    m.freeze.call call = ⟨m.freeze, m.frozenAnswer call⟩ := by
  cases call with
  | write write =>
      rw [Relation.call, perform_freeze]
      rfl
  | freeze => rfl
  | query query => cases query <;> rfl
  | extract => rfl
  | copy => rfl

/-- Any calls on a frozen relation. -/
theorem run_freeze (m : Relation κ σ) (calls : List (Call κ σ)) :
    m.freeze.run calls = (m.freeze, calls.map m.frozenAnswer) := by
  induction calls with
  | nil => rfl
  | cons call rest ih => simp [run, call_freeze, ih]

/-- Whatever is called, the relation stays what it is, and the answers are about that. -/
def Still (m : Relation κ σ) : Prop := ∀ calls, m.run calls = (m, calls.map m.frozenAnswer)

theorem still_of_frozen {m : Relation κ σ} (frozen : m.frozen = true) : m.Still := by
  intro calls
  have ran := m.run_freeze calls
  rwa [freeze_of_frozen frozen] at ran

end Relation

namespace Snapshot
variable {master : Formulation} {capacity : Option Int}

theorem still_submatrix (master : Formulation) (rows : List Ref) (columns : List Ident)
    (capacity : Option Int) : (submatrix master rows columns capacity).Still :=
  Relation.still_of_frozen rfl

/-- Both matrices for pricing are handed out frozen. -/
theorem still_pricing {s : PricingSnapshot Float}
    (taken : PricingSnapshot.ofMaster master capacity = .ok s) :
    s.subproblem.matrix.Still ∧ s.pure.matrix.Still := by
  obtain ⟨rows, _, rfl⟩ := Fault.exists_of_map_eq_ok taken
  exact ⟨still_submatrix master rows _ capacity, still_submatrix master rows _ capacity⟩

theorem still_subgradient {s : SubgradientSnapshot Float}
    (taken : SubgradientSnapshot.ofMaster master capacity = .ok s) : s.matrix.Still := by
  obtain ⟨rows, _, recorded⟩ := Fault.exists_of_bind_eq_ok taken
  obtain ⟨rhs, _, rfl⟩ := Fault.exists_of_map_eq_ok recorded
  exact still_submatrix master rows _ capacity

end Snapshot

namespace RelationSession

/-- Requests that leave it to a name what it stands for. They may change all relations. -/
inductive Continues (name : String) : RelationSession → RelationSession → Prop
  | refl (s : RelationSession) : Continues name s s
  | new {s t : RelationSession} (before : Continues name s t) {fresh : String}
      (other : fresh ≠ name) (capacity : Option Int) :
      Continues name s (t.put fresh (.empty capacity))
  | write {s t : RelationSession} (before : Continues name s t) (on : String)
      (entries : List (Ident × Float))
      (write : OrderedMap Ident Coefficient → Relation.Write Ident Coefficient) :
      Continues name s (t.write on entries fun m line => m.perform (write line)).state
  | freeze {s t : RelationSession} (before : Continues name s t) (on : String) :
      Continues name s (t.put on (t.find on).freeze)
  | copy {s t : RelationSession} (before : Continues name s t) (on : String) {copied : String}
      (other : copied ≠ name) : Continues name s (t.put copied (t.find on).copy)
  | extract {s t : RelationSession} (before : Continues name s t) (on : String)
      (keepRow keepColumn : Ident → Bool) (capacity : Option Int)
      (candidates : Option (List Ident)) {extracted : String} (other : extracted ≠ name) :
      Continues name s
        (t.put extracted ((t.find on).extract keepRow keepColumn capacity candidates))

theorem find_put_of_ne (s : RelationSession) {fresh name : String} (other : fresh ≠ name)
    (m : Relation Ident Coefficient) : (s.put fresh m).find name = s.find name := by
  rw [find_put, beq_false_of_ne other]
  rfl

/-- A write changes at most the relation that it is for, and that one only if it is not frozen. -/
theorem find_write {s : RelationSession} {name : String} (frozen : (s.find name).frozen = true)
    (on : String) (entries : List (Ident × Float))
    (write : OrderedMap Ident Coefficient → Relation.Write Ident Coefficient) :
    (s.write on entries fun m line => m.perform (write line)).state.find name = s.find name := by
  simp only [RelationSession.write, Relation.perform_eq_write, Relation.write]
  cases refused : (s.find on).frozen with
  | true => rfl
  | false =>
      have other : on ≠ name := by
        rintro rfl
        rw [frozen] at refused
        cases refused
      exact find_put_of_ne _ other _

/-- A frozen relation outlasts all requests, also those that change copies and extracts of it. -/
theorem find_of_continues {s later : RelationSession} {name : String}
    (frozen : (s.find name).frozen = true) (continues : Continues name s later) :
    later.find name = s.find name := by
  induction continues with
  | refl => rfl
  | new _ other _ ih => exact (find_put_of_ne _ other _).trans ih
  | write _ on entries write ih => exact (find_write (by rw [ih, frozen]) on entries write).trans ih
  | freeze _ on ih =>
      rw [find_put]
      split
      · rename_i same
        rw [eq_of_beq same, ih, Relation.freeze_of_frozen frozen]
      · exact ih
  | copy _ _ other ih => exact (find_put_of_ne _ other _).trans ih
  | extract _ _ _ _ _ _ other ih => exact (find_put_of_ne _ other _).trans ih

end RelationSession

/-- The freeze lasts. Every later call finds the relation as it was at the freeze, and the matrices
of the snapshots are found as they were handed out. -/
theorem Relation.freeze_lasts {κ σ : Type} [BEq κ] [BEq σ] [OfNat σ 0] [Add σ] [Mul σ] :
    (∀ (m : Relation κ σ) (calls : List (Call κ σ)),
      m.freeze.run calls = (m.freeze, calls.map m.frozenAnswer)) ∧
    (∀ (master : Formulation) (capacity : Option Int),
      (∀ s, PricingSnapshot.ofMaster master capacity = .ok s →
        s.subproblem.matrix.Still ∧ s.pure.matrix.Still) ∧
      ∀ s, SubgradientSnapshot.ofMaster master capacity = .ok s → s.matrix.Still) ∧
    ∀ (s later : RelationSession) (name : String), (s.find name).frozen = true →
      RelationSession.Continues name s later → later.find name = s.find name := by
  constructor
  · exact run_freeze
  · constructor
    · intro master capacity
      exact ⟨fun _ => Snapshot.still_pricing, fun _ => Snapshot.still_subgradient⟩
    · intro s later name frozen continues
      exact RelationSession.find_of_continues frozen continues

section Witness
open RelationSession Formulation

/-- A relation with one pair that is frozen. -/
def frozenSession : RelationSession :=
  let filled := ((start.put "A" (.empty none)).set "A" (.ofConstr 1) (.ofVar 1) 2).state
  filled.put "A" (filled.find "A").freeze

/-- A copy is changed afterwards, and a change of the relation itself is refused. -/
def changedSession : RelationSession :=
  let copied := frozenSession.put "B" (frozenSession.find "A").copy
  let changed := (copied.set "B" (.ofConstr 1) (.ofVar 1) 7).state
  (changed.set "A" (.ofConstr 1) (.ofVar 1) 7).state

theorem Relation.freeze_lasts_smallMaster :
    (∃ pricing subgradient, PricingSnapshot.ofMaster smallMaster none = .ok pricing ∧
      SubgradientSnapshot.ofMaster smallMaster none = .ok subgradient ∧
      pricing.subproblem.matrix.Still ∧ pricing.pure.matrix.Still ∧ subgradient.matrix.Still) ∧
    (frozenSession.find "A").frozen = true ∧ Continues "A" frozenSession changedSession ∧
    changedSession.find "A" = frozenSession.find "A" ∧
    ((changedSession.find "A").cells.get? (.ofConstr 1) (.ofVar 1)).map (·.value) = some 2 ∧
    ((changedSession.find "B").cells.get? (.ofConstr 1) (.ofVar 1)).map (·.value) = some 7 := by
  obtain ⟨_, snapshots, lasts⟩ := @Relation.freeze_lasts Ident Float _ _ _ _ _
  obtain ⟨ofPricing, ofSubgradient⟩ := snapshots smallMaster none
  have priced := smallMaster_reachable.sound.pricingSnapshot none
  obtain ⟨_, taken, _⟩ := SubgradientSnapshot.ofMaster_eq smallMaster_reachable.sound none
  obtain ⟨subproblem, pure⟩ := ofPricing _ priced
  have frozen : (frozenSession.find "A").frozen = true := by decide +kernel
  have continues : Continues "A" frozenSession changedSession := by
    have copied := (Continues.refl frozenSession).copy "A" (show "B" ≠ "A" by decide)
    have changed := copied.write "B" [(.ofVar 1, 7)] fun line =>
      .set (.ofConstr 1) (.ofVar 1) (line.getD (.ofVar 1) 0)
    exact changed.write "A" [(.ofVar 1, 7)] fun line =>
      .set (.ofConstr 1) (.ofVar 1) (line.getD (.ofVar 1) 0)
  have same := lasts frozenSession changedSession "A" frozen continues
  refine ⟨⟨_, _, priced, taken, subproblem, pure, ofSubgradient _ taken⟩, frozen, continues, same,
    ?_, ?_⟩
  · rw [same]
    decide +kernel
  · decide +kernel

end Witness

/-- Without members a write would only register a row, and is refused all the same. -/
example (m : Relation Ident Float) (r : Ident) :
    (m.freeze.run [.write (.addRow r .empty), .query .nnz]).2 =
      [.error .frozen, .ok (.count m.nnz)] := rfl

end Decomposition
