import Decomposition.Proofs.Relation.Reachability
import Decomposition.Session.Relations

namespace Decomposition

/-- The values of a map are those that were there before and those that were written. -/
theorem OrderedMap.mem_insertAll {κ β : Type} [BEq κ] [EquivBEq κ] {m : OrderedMap κ β}
    {written : List (κ × β)} {entry : κ × β} (mem : entry ∈ (m.insertAll written).entries) :
    entry ∈ m.entries ∨ ∃ item ∈ written, item.2 = entry.2 := by
  induction written generalizing m with
  | nil => exact .inl mem
  | cons head rest ih =>
      rcases ih mem with old | ⟨item, itemMem, same⟩
      · rcases mem_insert old with ⟨_, value⟩ | ⟨_, before⟩
        · exact .inr ⟨head, List.mem_cons_self, value.symm⟩
        · exact .inl before
      · exact .inr ⟨item, List.mem_cons_of_mem _ itemMem, same⟩

namespace Coefficient
variable {κ : Type} [BEq κ] [EquivBEq κ] {log : List Float} {x y : Coefficient}

/-- The number stands in the log at its mark. So a mark decides a comparison only where a number is
compared with itself. -/
def EnteredIn (log : List Float) (x : Coefficient) : Prop := log[x.mark]? = some x.value

theorem EnteredIn.append (entered : x.EnteredIn log) (more : List Float) :
    x.EnteredIn (log ++ more) := by
  have inside : x.mark < log.length := (List.getElem?_eq_some_iff.1 entered).1
  rw [EnteredIn, List.getElem?_append_left inside]
  exact entered

/-- Numbers are entered behind those that are in the log already. -/
theorem enteredIn_of_mem_enter {entries : List (κ × Float)} {cell : κ × Coefficient}
    (mem : cell ∈ (enter log.length entries).entries) :
    cell.2.EnteredIn (log ++ entries.map (·.2)) := by
  obtain ⟨⟨_, old⟩⟩ | ⟨item, itemMem, same⟩ := OrderedMap.mem_insertAll mem
  obtain ⟨⟨entry, place⟩, placed, rfl⟩ := List.mem_map.1 itemMem
  obtain ⟨behind, found⟩ := List.mk_mem_zipIdx_iff_le_and_getElem?_sub.1 placed
  rw [EnteredIn, ← same, List.getElem?_append_right behind, List.getElem?_map, found]
  rfl

/-- What is at one mark is one number, and a number equals itself. -/
theorem beq_eq_of_enteredIn (entered : x.EnteredIn log) (entered' : y.EnteredIn log)
    (number : (y.value == y.value) = true) : (x == y) = (x.value == y.value) := by
  change (x.value == y.value || x.mark == y.mark) = _
  cases marks : x.mark == y.mark with
  | false => exact Bool.or_false _
  | true =>
      rw [EnteredIn, beq_iff_eq.1 marks, entered'] at entered
      have equal : y.value = x.value := Option.some.inj entered
      rw [← equal, number]
      rfl

end Coefficient

namespace Incidence
variable {ρ κ σ : Type} [BEq ρ] [BEq κ]

/-- Every stored value has the property. -/
def All (P : σ → Prop) (m : Incidence ρ κ σ) : Prop := ∀ r c v, m.get? r c = some v → P v

namespace All
variable {P Q : σ → Prop} {m : Incidence ρ κ σ}

theorem empty : All P (empty : Incidence ρ κ σ) := fun _ _ _ stored => nomatch stored

theorem imp (all : All P m) (weaker : ∀ v, P v → Q v) : All Q m :=
  fun r c v stored => weaker v (all r c v stored)

theorem of_mem_row [EquivBEq κ] (all : All P m) {r : ρ} {cell : κ × σ}
    (mem : cell ∈ (m.row r).entries) : P cell.2 :=
  all r cell.1 cell.2 (OrderedMap.get?_self_of_mem mem)

theorem registerRow [EquivBEq ρ] (all : All P m) (r : ρ) : All P (m.registerRow r) := by
  intro a b v stored
  rw [get?, row_registerRow] at stored
  exact all a b v stored

variable [EquivBEq ρ] [EquivBEq κ] [BEq σ] [OfNat σ 0]

theorem set (all : All P m) (r : ρ) (c : κ) {v : σ} (written : P v) : All P (m.set r c v) := by
  intro a b w stored
  rw [get?_set] at stored
  split at stored
  · unfold kept at stored
    split at stored
    · cases stored
    · exact Option.some.inj stored ▸ written
  · exact all a b w stored

/-- Further writes of values that have the property, whatever their pairs are. -/
theorem foldl {α : Type} (all : All P m) (items : List α) (row : α → ρ) (column : α → κ)
    {value : α → σ} (written : ∀ item ∈ items, P (value item)) :
    All P (items.foldl (fun m item => m.set (row item) (column item) (value item)) m) :=
  items.foldlRecOn _ all fun _ kept item mem => kept.set (row item) (column item) (written item mem)

theorem addRow (all : All P m) (r : ρ) {members : OrderedMap κ σ}
    (written : ∀ cell ∈ members.entries, P cell.2) : All P (m.addRow r members) :=
  (all.registerRow r).foldl members.entries (fun _ => r) (·.1) written

theorem addColumn (all : All P m) (c : κ) {members : OrderedMap ρ σ}
    (written : ∀ cell ∈ members.entries, P cell.2) : All P (m.addColumn c members) :=
  foldl (m := m.registerColumn c) all members.entries (·.1) (fun _ => c) written

theorem resetRow (all : All P m) (zero : P 0) (r : ρ) {members : OrderedMap κ σ}
    (written : ∀ cell ∈ members.entries, P cell.2) : All P (m.resetRow r members) :=
  (all.foldl (m.row r).keys (fun _ => r) id fun _ _ => zero).addRow r written

theorem resetColumn (all : All P m) (zero : P 0) (c : κ) {members : OrderedMap ρ σ}
    (written : ∀ cell ∈ members.entries, P cell.2) : All P (m.resetColumn c members) :=
  (all.foldl (m.column c).keys id (fun _ => c) fun _ _ => zero).addColumn c written

/-- An extraction stores values of its source. -/
theorem extract (all : All P m) (keepRow : ρ → Bool) (keepColumn : κ → Bool)
    (candidates : Option (List ρ)) : All P (m.extract keepRow keepColumn candidates) := by
  change All P (m.extract keepRow keepColumn (some (candidates.getD _)))
  rw [extract_eq_copies]
  have none : All P (.empty : Incidence ρ κ σ) := empty
  apply List.foldlRecOn _ _ none
  intro into kept r _
  rw [copyRow_eq_writeLine]
  apply kept.foldl _ (fun _ => r)
  intro cell mem
  exact all.of_mem_row (List.mem_filter.1 mem).1

end All

end Incidence

namespace Relation
variable {κ σ : Type} [BEq κ]

/-- The values that a write comes with. -/
def Write.values : Write κ σ → List σ
  | .set _ _ v => [v]
  | .addRow _ members | .addColumn _ members | .resetRow _ members | .resetColumn _ members =>
      members.values

theorem Write.all [EquivBEq κ] [BEq σ] [OfNat σ 0] (write : Write κ σ) {P : σ → Prop}
    {m : Incidence κ κ σ} (all : m.All P) (zero : P 0) (written : ∀ v ∈ write.values, P v) :
    (write.apply m).All P := by
  have cells {members : OrderedMap κ σ} (here : ∀ v ∈ members.values, P v)
      (cell : κ × σ) (mem : cell ∈ members.entries) : P cell.2 :=
    here cell.2 (List.mem_map_of_mem mem)
  cases write with
  | set r c v => exact all.set r c (written v List.mem_cons_self)
  | addRow r members => exact all.addRow r (cells written)
  | addColumn c members => exact all.addColumn c (cells written)
  | resetRow r members => exact all.resetRow zero r (cells written)
  | resetColumn c members => exact all.resetColumn zero c (cells written)

/-- The relation came about, and the numbers that it stores stand in the log. -/
structure LoggedIn (log : List Float) (m : Relation κ Coefficient) : Prop where
  reached : m.Reachable
  entered : m.cells.All (Coefficient.EnteredIn log)

namespace LoggedIn
variable {log : List Float} {m : Relation κ Coefficient}

theorem empty (log : List Float) (capacity : Option Int) :
    (empty capacity : Relation κ Coefficient).LoggedIn log :=
  ⟨.empty capacity, .empty⟩

theorem append (logged : m.LoggedIn log) (more : List Float) : m.LoggedIn (log ++ more) :=
  ⟨logged.reached, logged.entered.imp fun _ entered => entered.append more⟩

theorem freeze (logged : m.LoggedIn log) : m.freeze.LoggedIn log :=
  ⟨logged.reached.freeze, logged.entered⟩

variable [EquivBEq κ]

theorem extract (logged : m.LoggedIn log) (keepRow keepColumn : κ → Bool) (capacity : Option Int)
    (candidates : Option (List κ)) :
    (m.extract keepRow keepColumn capacity candidates).LoggedIn log :=
  ⟨logged.reached.extract keepRow keepColumn capacity candidates,
    logged.entered.extract keepRow keepColumn candidates⟩

theorem write (logged : m.LoggedIn log) (zero : (0 : Coefficient).EnteredIn log)
    {write : Write κ Coefficient} (written : ∀ x ∈ write.values, x.EnteredIn log) :
    (m.attempt write).LoggedIn log := by
  refine ⟨logged.reached.write write, ?_⟩
  unfold attempt
  split
  · exact logged.entered
  · exact write.all logged.entered zero written

end LoggedIn

end Relation

namespace RelationSession

/-- The sessions that come about, request by request. -/
inductive Reachable : RelationSession → Prop
  | start : Reachable start
  | new {s : RelationSession} (reached : Reachable s) (name : String) (capacity : Option Int) :
      Reachable (s.put name (.empty capacity))
  | set {s : RelationSession} (reached : Reachable s) (name : String) (r c : Ident) (v : Float) :
      Reachable (s.set name r c v).state
  | addRow {s : RelationSession} (reached : Reachable s) (name : String) (r : Ident)
      (entries : List (Ident × Float)) : Reachable (s.addRow name r entries).state
  | addColumn {s : RelationSession} (reached : Reachable s) (name : String) (c : Ident)
      (entries : List (Ident × Float)) : Reachable (s.addColumn name c entries).state
  | resetRow {s : RelationSession} (reached : Reachable s) (name : String) (r : Ident)
      (entries : List (Ident × Float)) : Reachable (s.resetRow name r entries).state
  | resetColumn {s : RelationSession} (reached : Reachable s) (name : String) (c : Ident)
      (entries : List (Ident × Float)) : Reachable (s.resetColumn name c entries).state
  | freeze {s : RelationSession} (reached : Reachable s) (name : String) :
      Reachable (s.put name (s.find name).freeze)
  | copy {s : RelationSession} (reached : Reachable s) (name copied : String) :
      Reachable (s.put copied (s.find name).copy)
  | extract {s : RelationSession} (reached : Reachable s) (name : String)
      (rows columns : UidChoice) (capacity : Option Int) (candidates : Option (List Ident))
      {made : Relation Ident Coefficient}
      (done : s.extract name rows columns capacity candidates = .ok made) (extracted : String) :
      Reachable (s.put extracted made)

/-- The log has the numbers of all relations, after the zero that stands for what is absent. -/
structure LoggedBy (s : RelationSession) (log : List Float) : Prop where
  length : log.length = s.entered + 1
  zero : (0 : Coefficient).EnteredIn log
  relations : ∀ name, (s.find name).LoggedIn log

theorem find_put (s : RelationSession) (name other : String) (m : Relation Ident Coefficient) :
    (s.put name m).find other = if name == other then m else s.find other := by
  rw [find, put, OrderedMap.getD_eq, OrderedMap.get?_insert]
  split <;> rfl

theorem eq_of_extract {s : RelationSession} {name : String} {rows columns : UidChoice}
    {capacity : Option Int} {candidates : Option (List Ident)} {made : Relation Ident Coefficient}
    (done : s.extract name rows columns capacity candidates = .ok made) :
    (s.find name).extract rows.holds columns.holds capacity candidates = made := by
  simp only [extract] at done
  split at done
  · cases done
  · split at done
    · cases done
    · exact Except.ok.inj done

namespace LoggedBy
variable {s : RelationSession} {log : List Float}

theorem start : LoggedBy start [0] where
  length := rfl
  zero := rfl
  relations _ := .empty [0] none

theorem put (logged : s.LoggedBy log) (name : String) {m : Relation Ident Coefficient}
    (here : m.LoggedIn log) : (s.put name m).LoggedBy log where
  length := logged.length
  zero := logged.zero
  relations other := by
    rw [find_put]
    split
    · exact here
    · exact logged.relations other

/-- Numbers are counted as entered also when their write is refused. -/
theorem count (logged : s.LoggedBy log) (more : List Float) :
    LoggedBy { s with entered := s.entered + more.length } (log ++ more) where
  length := by
    rw [List.length_append, logged.length]
    exact Nat.add_right_comm _ _ _
  zero := logged.zero.append more
  relations name := (logged.relations name).append more

/-- A write takes its values from the numbers that are entered for it. -/
theorem write (logged : s.LoggedBy log) (name : String) (entries : List (Ident × Float))
    (write : OrderedMap Ident Coefficient → Relation.Write Ident Coefficient)
    (values : ∀ line, ∀ x ∈ (write line).values, x = 0 ∨ x ∈ line.values) :
    (s.write name entries fun m line => m.perform (write line)).state.LoggedBy
      (log ++ entries.map (·.2)) := by
  have counted := logged.count (entries.map (·.2))
  rw [List.length_map] at counted
  simp only [RelationSession.write]
  generalize marks : Coefficient.enter (s.entered + 1) entries = line
  have written : ∀ x ∈ (write line).values, x.EnteredIn (log ++ entries.map (·.2)) := by
    intro x mem
    rcases values line x mem with rfl | inLine
    · exact counted.zero
    · obtain ⟨cell, cellMem, rfl⟩ := List.mem_map.1 inLine
      rw [← marks, ← logged.length] at cellMem
      exact Coefficient.enteredIn_of_mem_enter cellMem
  cases frozen : (s.find name).frozen with
  | true =>
      rw [Relation.perform_eq_write, Relation.write, frozen]
      exact counted
  | false =>
      have attempted : ((s.find name).attempt (write line)).LoggedIn _ :=
        (counted.relations name).write counted.zero written
      rw [Relation.attempt, if_neg (by simp [frozen])] at attempted
      rw [Relation.perform_of_mutable frozen]
      exact counted.put name attempted

end LoggedBy

/-- Every session has a log. -/
theorem Reachable.exists_log {s : RelationSession} (reached : s.Reachable) :
    ∃ log, s.LoggedBy log := by
  induction reached with
  | start => exact ⟨[0], .start⟩
  | new _ name capacity ih =>
      obtain ⟨log, logged⟩ := ih
      exact ⟨log, logged.put name (.empty log capacity)⟩
  | set _ name r c v ih =>
      obtain ⟨log, logged⟩ := ih
      refine ⟨_, logged.write name [(c, v)] (fun line => .set r c (line.getD c 0)) ?_⟩
      intro line x mem
      rw [Relation.Write.values, List.mem_singleton] at mem
      rw [mem, OrderedMap.getD_eq]
      cases found : line.get? c with
      | none => exact .inl rfl
      | some w =>
          obtain ⟨cell, cellMem, _, rfl⟩ := OrderedMap.exists_mem_of_get? found
          exact .inr (List.mem_map_of_mem cellMem)
  | addRow _ name r entries ih =>
      obtain ⟨log, logged⟩ := ih
      exact ⟨_, logged.write name entries (.addRow r) fun _ _ => .inr⟩
  | addColumn _ name c entries ih =>
      obtain ⟨log, logged⟩ := ih
      exact ⟨_, logged.write name entries (.addColumn c) fun _ _ => .inr⟩
  | resetRow _ name r entries ih =>
      obtain ⟨log, logged⟩ := ih
      exact ⟨_, logged.write name entries (.resetRow r) fun _ _ => .inr⟩
  | resetColumn _ name c entries ih =>
      obtain ⟨log, logged⟩ := ih
      exact ⟨_, logged.write name entries (.resetColumn c) fun _ _ => .inr⟩
  | freeze _ name ih =>
      obtain ⟨log, logged⟩ := ih
      exact ⟨log, logged.put name (logged.relations name).freeze⟩
  | copy _ name copied ih =>
      obtain ⟨log, logged⟩ := ih
      exact ⟨log, logged.put copied ((logged.relations name).extract _ _ _ _)⟩
  | extract _ name rows columns capacity candidates done extracted ih =>
      obtain ⟨log, logged⟩ := ih
      obtain rfl := eq_of_extract done
      exact ⟨log, logged.put extracted ((logged.relations name).extract _ _ _ _)⟩

end RelationSession

end Decomposition
