import Decomposition.Proofs.Formulation.Frame
import Decomposition.Proofs.Registry.Lineage

namespace Decomposition

namespace Formulation

/-- The uid of a formulation and that of its parent are given to it once. -/
theorem frame_head (uid : Int) (parent : Option Int) :
    Frame (fun _ => True) fun f => f.uid = uid ∧ f.parent = parent where
  element _ _ _ _ _ := trivial
  copy _ _ _ _ := trivial
  reset _ _ := trivial
  setActive _ _ _ := trivial
  setCost _ _ _ := trivial
  storeVariable _ _ h _ := h
  writeConstraints _ _ _ h := h
  changeVariable _ _ _ h _ := h
  writeCells _ _ h := h
  noteOrigins _ _ h := h

theorem head_after (op : Operation) (f : Formulation) :
    (op.after f).uid = f.uid ∧ (op.after f).parent = f.parent := by
  by_cases notes : op.Notes
  · cases op with
    | registerSense minimize =>
        refine Frame.settled (P := fun g => g.uid = f.uid ∧ g.parent = f.parent) ⟨rfl, rfl⟩
          fun g done => ?_
        unfold registerSense at done
        split at done
        · cases done
          exact ⟨rfl, rfl⟩
        · cases done
    | improvePrimalBound bound =>
        obtain ⟨_, noted⟩ := f.improvePrimalBound_fst bound
        rw [Operation.after, noted]
        exact ⟨rfl, rfl⟩
    | improveDualBound bound =>
        obtain ⟨_, noted⟩ := f.improveDualBound_fst bound
        rw [Operation.after, noted]
        exact ⟨rfl, rfl⟩
    | optimize solver update =>
        obtain ⟨_, _, noted⟩ := f.optimize_state solver update
        rw [Operation.after, noted]
        exact ⟨rfl, rfl⟩
    | _ => exact notes.elim
  · exact (frame_head f.uid f.parent).after ⟨rfl, rfl⟩ notes (op.respects_all f)

end Formulation

namespace Registry

/-- The registry that a history of calls leaves. -/
def history (operations : List Operation) : Registry := operations.foldl Operation.after .empty

/-- Each formulation with its uid and the uid of its parent. Nothing that happens to a formulation
changes them. -/
def heads (r : Registry) : OrderedMap Int (Int × Option Int) :=
  r.forms.map fun _ f => (f.uid, f.parent)

/-- Every formulation stands under its own uid. The uids grow in the order of creation, up to the
last one that was drawn, and those of parents are older. -/
structure Rooted (r : Registry) : Prop where
  named : ∀ entry ∈ r.heads.entries, entry.2.1 = entry.1
  ordered : r.heads.keys.Pairwise (· < ·)
  positive : ∀ uid ∈ r.heads.keys, 0 < uid
  counted : 0 ≤ r.formCounter.value
  drawn : ∀ uid ∈ r.heads.keys, uid ≤ r.formCounter.value
  older : ∀ entry ∈ r.heads.entries, ∀ parent, entry.2.2 = some parent →
    parent < entry.1 ∧ parent ∈ r.heads.keys

section Steps
variable {r s : Registry}

/-- The other calls change neither the heads nor the counter of formulations. -/
structure SameHeads (r s : Registry) : Prop where
  heads : s.heads = r.heads
  formCounter : s.formCounter = r.formCounter

theorem SameHeads.rooted (same : SameHeads r s) (rooted : Rooted r) : Rooted s := by
  obtain ⟨heads, counter⟩ := same
  constructor <;> simp only [heads, counter]
  exacts [rooted.named, rooted.ordered, rooted.positive, rooted.counted, rooted.drawn,
    rooted.older]

theorem heads_put (r : Registry) (f : Formulation) :
    (r.put f).heads = r.heads.insert f.uid (f.uid, f.parent) :=
  r.forms.map_insert f.uid f fun f => (f.uid, f.parent)

theorem get?_heads (r : Registry) (uid : Int) :
    r.heads.get? uid = (r.forms.get? uid).map fun f => (f.uid, f.parent) :=
  r.forms.get?_map (fun f => (f.uid, f.parent)) uid

theorem Rooted.uid_eq (rooted : Rooted r) {uid : Int} {f : Formulation}
    (found : r.get uid = .ok f) : f.uid = uid := by
  obtain ⟨entry, mem, same, rfl⟩ := OrderedMap.exists_mem_of_get? (get_eq_ok_iff.1 found)
  rw [← beq_iff_eq.1 same]
  exact rooted.named (entry.1, _, _) (List.mem_map_of_mem mem)

/-- A formulation that keeps its head is put in its own place. -/
theorem sameHeads_put (rooted : Rooted r) {uid : Int} {f g : Formulation}
    (found : r.get uid = .ok f) (steady : g.uid = f.uid ∧ g.parent = f.parent) :
    SameHeads r (r.put g) where
  heads := by
    rw [heads_put, steady.1, steady.2, rooted.uid_eq found]
    refine OrderedMap.insert_of_get? ?_
    rw [get?_heads, get_eq_ok_iff.1 found, Option.map_some, rooted.uid_eq found]
  formCounter := rfl

theorem sameHeads_onForm {α : Type} (rooted : Rooted r) (uid : Int)
    {change : Formulation → Outcome Formulation α}
    (steady : ∀ f, (change f).state.uid = f.uid ∧ (change f).state.parent = f.parent) :
    SameHeads r (r.onForm uid change).state := by
  rcases r.onForm_state uid change with same | ⟨f, found, same⟩
  · rw [same]
    exact ⟨rfl, rfl⟩
  · rw [same]
    exact sameHeads_put rooted found (steady f)

theorem sameHeads_draw (r : Registry) (kind : EntityKind) : SameHeads r (r.draw kind) := by
  cases kind <;> exact ⟨rfl, rfl⟩

theorem SameHeads.trans {t : Registry} (first : SameHeads r s) (second : SameHeads s t) :
    SameHeads r t :=
  ⟨second.heads.trans first.heads, second.formCounter.trans first.formCounter⟩

/-- The call makes a formulation. -/
def Operation.Founds : Operation → Prop
  | .newFormulation _ _ => True
  | _ => False

theorem sameHeads_after (rooted : Rooted r) {op : Operation} (other : ¬ op.Founds) :
    SameHeads r (op.after r) := by
  have drawn (kind : EntityKind) := (sameHeads_draw r kind).rooted rooted
  cases op with
  | newFormulation duty parent => exact absurd trivial other
  | createVariable form draft column =>
      rw [Operation.after, createVariable_eq]
      exact (sameHeads_draw r .variable).trans <| sameHeads_onForm (drawn _) form <|
        Formulation.head_after (.createVariable _ draft column)
  | createConstraint form draft row =>
      rw [Operation.after, createConstraint_eq]
      exact (sameHeads_draw r .constraint).trans <| sameHeads_onForm (drawn _) form <|
        Formulation.head_after (.createConstraint _ draft row)
  | clone source dest mark refs =>
      rw [Operation.after, clone]
      split
      · exact sameHeads_onForm rooted dest (Formulation.head_after (.cloneWithin mark refs))
      · split
        · exact ⟨rfl, rfl⟩
        · exact sameHeads_onForm rooted dest (Formulation.head_after (.cloneFrom _ mark refs))
  | change form op => exact sameHeads_onForm rooted form (Formulation.head_after op)

/-- A parent is registered, or there is none. -/
def HasOwner (r : Registry) (owner : Option Int) : Prop :=
  ∀ uid, owner = some uid → uid ∈ r.heads.keys

theorem mem_heads_iff {uid : Int} : uid ∈ r.heads.keys ↔ r.forms.contains uid = true := by
  rw [heads, OrderedMap.keys_map, OrderedMap.contains_iff]
  simp

theorem hasOwner_of_parentUid {parent : Option Parent} {owner : Option Int}
    (accepted : r.parentUid parent = .ok owner) : r.HasOwner owner := by
  rintro uid rfl
  unfold parentUid at accepted
  split at accepted
  · cases accepted
  · split at accepted
    · cases accepted
      exact mem_heads_iff.2 ‹_›
    · cases accepted
  · cases accepted

section Founding
variable (duty : FormDuty) (owner : Option Int)

/-- The registry with one more formulation. -/
def found (r : Registry) : Registry :=
  r.drawForm.put (.empty r.formCounter.next.value duty owner)

/-- The uid that is drawn next is above all others, so that the new formulation comes last. -/
theorem Rooted.entries_found (rooted : Rooted r) :
    (r.found duty owner).forms.entries =
      r.forms.entries ++
        [(r.formCounter.next.value, .empty r.formCounter.next.value duty owner)] := by
  refine OrderedMap.entries_insert_of_absent _ fun entry mem => ?_
  have registered := (r.forms.contains_iff entry.1).2 ⟨entry.1, List.mem_map_of_mem mem, BEq.rfl⟩
  have below := rooted.drawn entry.1 (mem_heads_iff.2 registered)
  have apart : entry.1 ≠ r.formCounter.value + 1 := by omega
  exact beq_false_of_ne apart

theorem Rooted.heads_found (rooted : Rooted r) :
    (r.found duty owner).heads.entries =
      r.heads.entries ++ [(r.formCounter.next.value, r.formCounter.next.value, owner)] := by
  rw [heads, OrderedMap.entries_map, rooted.entries_found, List.map_append]
  rfl

theorem Rooted.keys_found (rooted : Rooted r) :
    (r.found duty owner).heads.keys = r.heads.keys ++ [r.formCounter.next.value] := by
  rw [OrderedMap.keys, rooted.heads_found, List.map_append]
  rfl

variable {owner}

theorem Rooted.found (rooted : Rooted r) (owned : r.HasOwner owner) :
    Rooted (r.found duty owner) := by
  have counted := rooted.counted
  have next : r.formCounter.next.value = r.formCounter.value + 1 := rfl
  have counter : (r.found duty owner).formCounter.value = r.formCounter.value + 1 := rfl
  constructor
  · intro entry mem
    rw [rooted.heads_found, List.mem_append, List.mem_singleton] at mem
    rcases mem with old | rfl
    · exact rooted.named entry old
    · rfl
  · rw [rooted.keys_found, List.pairwise_append]
    refine ⟨rooted.ordered, List.pairwise_singleton _ _, fun uid mem last here => ?_⟩
    rw [List.mem_singleton.1 here]
    exact Int.lt_add_one_of_le (rooted.drawn uid mem)
  · intro uid mem
    rw [rooted.keys_found, List.mem_append, List.mem_singleton] at mem
    rcases mem with old | rfl
    · exact rooted.positive uid old
    · omega
  · omega
  · intro uid mem
    rw [rooted.keys_found, List.mem_append, List.mem_singleton] at mem
    rcases mem with old | rfl
    · have := rooted.drawn uid old
      omega
    · omega
  · intro entry mem parent above
    rw [rooted.heads_found, List.mem_append, List.mem_singleton] at mem
    rw [rooted.keys_found]
    rcases mem with old | rfl
    · obtain ⟨smaller, registered⟩ := rooted.older entry old parent above
      exact ⟨smaller, List.mem_append_left _ registered⟩
    · have registered := owned parent above
      exact ⟨Int.lt_add_one_of_le (rooted.drawn parent registered),
        List.mem_append_left _ registered⟩

end Founding

theorem newFormulation_eq (r : Registry) (duty : FormDuty) (parent : Option Parent) :
    r.newFormulation duty parent = (r.parentUid parent).map fun owner =>
      (r.found duty owner, .empty r.formCounter.next.value duty owner) := rfl

theorem Rooted.after (rooted : Rooted r) (op : Operation) : Rooted (op.after r) := by
  by_cases founds : op.Founds
  · cases op with
    | newFormulation duty parent =>
        rw [Operation.after, newFormulation_eq]
        cases offered : r.parentUid parent with
        | error fault => exact rooted
        | ok owner => exact rooted.found duty (hasOwner_of_parentUid offered)
    | _ => exact founds.elim
  · exact (sameHeads_after rooted founds).rooted rooted

theorem rooted_empty : Rooted .empty := by
  constructor <;> simp [heads, empty, OrderedMap.keys, Counter.zero]

theorem rooted_history (operations : List Operation) : Rooted (history operations) :=
  operations.foldlRecOn _ rooted_empty fun _ rooted op _ => rooted.after op

end Steps

/-- Going from parent to parent comes to an end at a formulation that has none. -/
inductive ReachesRoot (r : Registry) : Formulation → Prop
  | root {f : Formulation} (top : r.parentOf f = .ok none) : ReachesRoot r f
  | up {f p : Formulation} (parent : r.parentOf f = .ok (some p)) (above : ReachesRoot r p) :
      ReachesRoot r f

/-- The formulations of a registry make up trees. -/
structure IsForest (r : Registry) : Prop where
  ordered : ((r.formulations none).map (·.uid)).Pairwise (· < ·)
  named : ∀ f ∈ r.formulations none, r.get f.uid = .ok f
  older : ∀ f ∈ r.formulations none, ∀ uid, f.parent = some uid →
    uid < f.uid ∧ ∃ p ∈ r.formulations none, p.uid = uid ∧ r.parentOf f = .ok (some p)
  reachesRoot : ∀ f ∈ r.formulations none, r.ReachesRoot f
  children : ∀ f ∈ r.formulations none, ∀ p ∈ r.formulations none,
    f ∈ r.childrenOf p ↔ r.parentOf f = .ok (some p)
  oneParent : ∀ p ∈ r.formulations none, ∀ q ∈ r.formulations none, ∀ f,
    f ∈ r.childrenOf p → f ∈ r.childrenOf q → p = q

section Trees
variable {r : Registry} {f p : Formulation}

theorem formulations_none (r : Registry) : r.formulations none = r.forms.values :=
  List.filter_eq_self.2 fun _ _ => rfl

theorem uids_eq_keys (rooted : Rooted r) :
    (r.formulations none).map (·.uid) = r.heads.keys := by
  rw [formulations_none, heads, OrderedMap.keys_map, OrderedMap.values, OrderedMap.keys,
    List.map_map]
  exact List.map_congr_left fun entry mem =>
    rooted.named (entry.1, _, _) (List.mem_map_of_mem mem)

theorem Rooted.get_uid (rooted : Rooted r) (registered : f ∈ r.formulations none) :
    r.get f.uid = .ok f := by
  rw [formulations_none] at registered
  obtain ⟨entry, mem, rfl⟩ := List.mem_map.1 registered
  have named : entry.2.uid = entry.1 := rooted.named (entry.1, _, _) (List.mem_map_of_mem mem)
  rw [named]
  exact get_eq_ok_iff.2 (OrderedMap.get?_self_of_mem mem)

theorem mem_formulations_of_get {uid : Int} (found : r.get uid = .ok f) :
    f ∈ r.formulations none := by
  obtain ⟨entry, mem, _, rfl⟩ := OrderedMap.exists_mem_of_get? (get_eq_ok_iff.1 found)
  rw [formulations_none]
  exact List.mem_map_of_mem mem

/-- The parent's uid is resolved to a formulation that was there before. -/
theorem Rooted.parent (rooted : Rooted r) (registered : f ∈ r.formulations none) {uid : Int}
    (above : f.parent = some uid) :
    uid < f.uid ∧ ∃ p ∈ r.formulations none, p.uid = uid ∧ r.parentOf f = .ok (some p) := by
  have own := get_eq_ok_iff.1 (rooted.get_uid registered)
  obtain ⟨entry, mem, same, rfl⟩ := OrderedMap.exists_mem_of_get? own
  obtain ⟨smaller, older⟩ :=
    rooted.older (entry.1, entry.2.uid, entry.2.parent) (List.mem_map_of_mem mem) uid above
  have smaller : uid < entry.2.uid := beq_iff_eq.1 same ▸ smaller
  rw [← uids_eq_keys rooted] at older
  obtain ⟨p, there, rfl⟩ := List.mem_map.1 older
  refine ⟨smaller, p, there, rfl, ?_⟩
  rw [parentOf, above]
  exact congrArg (Except.map some) (rooted.get_uid there)

theorem Rooted.mem_childrenOf (rooted : Rooted r) (registered : f ∈ r.formulations none)
    (there : p ∈ r.formulations none) :
    f ∈ r.childrenOf p ↔ r.parentOf f = .ok (some p) := by
  have child : f ∈ r.childrenOf p ↔ f.parent = some p.uid := by
    rw [formulations_none] at registered
    simp [childrenOf, registered]
  rw [child]
  constructor
  · intro above
    rw [parentOf, above]
    exact congrArg (Except.map some) (rooted.get_uid there)
  · intro resolved
    cases above : f.parent with
    | none =>
        rw [parentOf, above] at resolved
        cases resolved
    | some uid =>
        obtain ⟨_, q, _, rfl, found⟩ := rooted.parent registered above
        rw [found] at resolved
        cases resolved
        rfl

theorem Rooted.reachesRoot (rooted : Rooted r) (registered : f ∈ r.formulations none) :
    r.ReachesRoot f := by
  have positive (g : Formulation) (mem : g ∈ r.formulations none) : 0 < g.uid :=
    rooted.positive g.uid (uids_eq_keys rooted ▸ List.mem_map_of_mem mem)
  -- The uid shrinks on the way up.
  induction bound : f.uid.toNat using Nat.strongRecOn generalizing f with
  | ind n ih =>
      cases above : f.parent with
      | none => exact .root (by rw [parentOf, above])
      | some uid =>
          obtain ⟨smaller, p, there, rfl, resolved⟩ := rooted.parent registered above
          have := positive p there
          exact .up resolved (ih p.uid.toNat (by omega) there rfl)

theorem Rooted.isForest (rooted : Rooted r) : r.IsForest where
  ordered := uids_eq_keys rooted ▸ rooted.ordered
  named _ := rooted.get_uid
  older _ registered _ := rooted.parent registered
  reachesRoot _ := rooted.reachesRoot
  children _ registered _ := rooted.mem_childrenOf registered
  oneParent p pMem q qMem f ofP ofQ := by
    have registered : f ∈ r.formulations none := by
      rw [formulations_none]
      exact (List.mem_filter.1 ofP).1
    have resolved := (rooted.mem_childrenOf registered pMem).1 ofP
    rw [(rooted.mem_childrenOf registered qMem).1 ofQ] at resolved
    cases resolved
    rfl

end Trees

/-- After any history the formulations make up trees, with uids that grow in the order of creation.
A new formulation comes last, without a parent or with a registered one. A parent from elsewhere is
refused, also when its uid is in use, and the registry is left as it was. -/
theorem history_isForest (operations : List Operation) :
    let r := history operations
    r.IsForest ∧
      (∀ duty owner, (∀ uid, owner = some uid → r.contains uid = true) →
        let f := Formulation.empty r.formCounter.next.value duty owner
        ∃ s, r.newFormulation duty (owner.map .own) = .ok (s, f) ∧
          (Operation.newFormulation duty (owner.map .own)).after r = s ∧
          s.formulations none = r.formulations none ++ [f]) ∧
      ∀ duty uid, r.newFormulation duty (some (.foreign uid)) = .error (.foreignFormulation uid) ∧
        (Operation.newFormulation duty (some (.foreign uid))).after r = r := by
  intro r
  have rooted : Rooted r := rooted_history operations
  refine ⟨rooted.isForest, fun duty owner registered => ?_, fun duty uid => ⟨rfl, rfl⟩⟩
  have accepted : r.parentUid (owner.map .own) = .ok owner := by
    cases owner with
    | none => rfl
    | some uid => exact if_pos (registered uid rfl)
  have done : r.newFormulation duty (owner.map .own) =
      .ok (r.found duty owner, .empty r.formCounter.next.value duty owner) := by
    rw [newFormulation_eq, accepted]
    rfl
  refine ⟨_, done, by rw [Operation.after, done], ?_⟩
  rw [formulations_none, formulations_none, OrderedMap.values, rooted.entries_found,
    List.map_append]
  rfl

/-- A root, its child and its grandchild. The call in between offers a parent from elsewhere whose
uid is in use here. -/
def smallHistory : List Operation :=
  [.newFormulation .compact none, .newFormulation .dwMaster (some (.own 1)),
    .newFormulation .dwSp (some (.foreign 2)), .newFormulation .dwSp (some (.own 2))]

theorem history_isForest_smallHistory :
    let r := history smallHistory
    ((r.formulations none).map fun f => (f.uid, f.parent)) = [(1, none), (2, some 1), (3, some 2)] ∧
      ∃ root middle leaf, r.get 1 = .ok root ∧ r.get 2 = .ok middle ∧ r.get 3 = .ok leaf ∧
        r.ReachesRoot leaf ∧ leaf ∈ r.childrenOf middle ∧ r.parentOf middle = .ok (some root) := by
  obtain ⟨forest, _, _⟩ := history_isForest smallHistory
  have registered : ∀ uid f, (history smallHistory).get uid = .ok f →
      f ∈ (history smallHistory).formulations none := fun _ _ => mem_formulations_of_get
  obtain ⟨leaf, three⟩ : ∃ leaf, (history smallHistory).get 3 = .ok leaf := ⟨_, rfl⟩
  obtain ⟨middle, two⟩ : ∃ middle, (history smallHistory).get 2 = .ok middle := ⟨_, rfl⟩
  have child : (history smallHistory).parentOf leaf = .ok (some middle) := by
    cases three
    cases two
    rfl
  refine ⟨rfl, _, middle, leaf, rfl, two, three, forest.reachesRoot leaf (registered 3 leaf three),
    (forest.children leaf (registered 3 leaf three) middle (registered 2 middle two)).2 child, ?_⟩
  cases two
  rfl

end Registry

end Decomposition
