import Decomposition.OrderedMap

namespace Decomposition.OrderedMap
variable {κ β γ : Type} [BEq κ]

/-- The entries determine the map. -/
theorem ext_entries {a b : OrderedMap κ β} (same : a.entries = b.entries) : a = b := by
  cases a
  cases b
  cases same
  rfl

@[simp] theorem entries_empty : (empty : OrderedMap κ β).entries = [] := rfl

@[simp] theorem get?_empty (key : κ) : (empty : OrderedMap κ β).get? key = none := rfl

@[simp] theorem contains_empty (key : κ) : (empty : OrderedMap κ β).contains key = false := rfl

@[simp] theorem entries_filter (m : OrderedMap κ β) (keep : κ → β → Bool) :
    (m.filter keep).entries = m.entries.filter fun entry => keep entry.1 entry.2 := rfl

@[simp] theorem entries_map (m : OrderedMap κ β) (f : κ → β → γ) :
    (m.map f).entries = m.entries.map fun entry => (entry.1, f entry.1 entry.2) := rfl

theorem keys_distinct (m : OrderedMap κ β) :
    m.keys.Pairwise fun a b => (a == b) = false :=
  List.pairwise_map.2 m.distinct

theorem contains_eq_isSome (m : OrderedMap κ β) (key : κ) :
    m.contains key = (m.get? key).isSome := by
  rw [get?, binding?, Option.isSome_map, Bool.eq_iff_iff, List.find?_isSome, contains,
    List.any_eq_true]

theorem getD_eq (m : OrderedMap κ β) (key : κ) (fallback : β) :
    m.getD key fallback = (m.get? key).getD fallback := rfl

theorem absent_of_get? {m : OrderedMap κ β} {key : κ} (absent : m.get? key = none) :
    ∀ entry ∈ m.entries, (entry.1 == key) = false := by
  intro entry mem
  rw [get?, Option.map_eq_none_iff] at absent
  simpa using List.find?_eq_none.1 absent entry mem

theorem writeEntry_of_absent {key : κ} (value : β) {entries : List (κ × β)}
    (absent : ∀ entry ∈ entries, (entry.1 == key) = false) :
    writeEntry key value entries = entries ++ [(key, value)] := by
  induction entries with
  | nil => rfl
  | cons head rest ih =>
      have different := absent head List.mem_cons_self
      simp [writeEntry, different, ih fun entry mem => absent entry (List.mem_cons_of_mem _ mem)]

/-- A new key goes to the end. -/
theorem entries_insert_of_absent {m : OrderedMap κ β} {key : κ} (value : β)
    (absent : ∀ entry ∈ m.entries, (entry.1 == key) = false) :
    (m.insert key value).entries = m.entries ++ [(key, value)] :=
  writeEntry_of_absent value absent

/-- New keys that are distinct are appended in their order. -/
theorem entries_insertAll {m : OrderedMap κ β} {entries : List (κ × β)}
    (distinct : entries.Pairwise fun a b => (a.1 == b.1) = false)
    (fresh : ∀ old ∈ m.entries, ∀ entry ∈ entries, (old.1 == entry.1) = false) :
    (m.insertAll entries).entries = m.entries ++ entries := by
  unfold insertAll
  induction entries generalizing m with
  | nil => simp
  | cons head rest ih =>
      obtain ⟨apart, restDistinct⟩ := List.pairwise_cons.1 distinct
      have appended : (m.insert head.1 head.2).entries = m.entries ++ [head] :=
        entries_insert_of_absent head.2 fun old mem => fresh old mem head List.mem_cons_self
      rw [List.foldl_cons, ih restDistinct, appended, List.append_assoc, List.singleton_append]
      intro old mem entry inRest
      rw [appended, List.mem_append, List.mem_singleton] at mem
      rcases mem with before | rfl
      · exact fresh old before entry (List.mem_cons_of_mem _ inRest)
      · exact apart entry inRest

theorem entries_ofList {entries : List (κ × β)}
    (distinct : entries.Pairwise fun a b => (a.1 == b.1) = false) :
    (ofList entries).entries = entries :=
  (entries_insertAll distinct (by simp)).trans (List.nil_append entries)

/-- A map is rebuilt from its entries. -/
theorem ofList_entries (m : OrderedMap κ β) : ofList m.entries = m :=
  ext_entries (entries_ofList m.distinct)

theorem mem_of_binding? {m : OrderedMap κ β} {key : κ} {entry : κ × β}
    (found : m.binding? key = some entry) : entry ∈ m.entries ∧ (entry.1 == key) = true :=
  ⟨List.mem_of_find?_eq_some found,
    List.find?_some (p := fun other : κ × β => other.1 == key) found⟩

theorem exists_mem_of_get? {m : OrderedMap κ β} {key : κ} {value : β}
    (found : m.get? key = some value) :
    ∃ entry ∈ m.entries, (entry.1 == key) = true ∧ entry.2 = value := by
  obtain ⟨entry, look, same⟩ := Option.map_eq_some_iff.1 found
  obtain ⟨mem, equal⟩ := mem_of_binding? look
  exact ⟨entry, mem, equal, same⟩

/-- The replacement may look at the key, as long as equal keys are treated alike. -/
theorem get?_map_key (m : OrderedMap κ β) {f : κ → β → γ}
    (alike : ∀ a b value, (a == b) = true → f a value = f b value) (key : κ) :
    (m.map f).get? key = (m.get? key).map (f key) := by
  have mapped : (m.map f).binding? key =
      (m.binding? key).map fun entry => (entry.1, f entry.1 entry.2) := List.find?_map
  rw [get?, get?, mapped]
  cases found : m.binding? key with
  | none => rfl
  | some entry =>
      rw [Option.map_some, Option.map_some, Option.map_some, Option.map_some,
        alike _ _ entry.2 (mem_of_binding? found).2]

theorem get?_map (m : OrderedMap κ β) (f : β → γ) (key : κ) :
    (m.map fun _ value => f value).get? key = (m.get? key).map f :=
  m.get?_map_key (fun _ _ _ _ => rfl) key

theorem keys_map (m : OrderedMap κ β) (f : κ → β → γ) : (m.map f).keys = m.keys :=
  List.map_map

@[simp] theorem keys_modify (m : OrderedMap κ β) (key : κ) (f : β → β) :
    (m.modify key f).keys = m.keys :=
  m.keys_map _

theorem keys_writeEntry (key : κ) (value : β) (entries : List (κ × β)) :
    (writeEntry key value entries).map (·.1) =
      entries.map (·.1) ++ if entries.any (·.1 == key) then [] else [key] := by
  induction entries with
  | nil => rfl
  | cons head rest ih =>
      rw [writeEntry, List.any_cons]
      cases met : head.1 == key with
      | true => simp
      | false =>
          simp only [Bool.false_or, Bool.false_eq_true, if_false, List.map_cons, ih,
            List.cons_append]

/-- Only a new key is added to the others. -/
theorem keys_insert_eq (m : OrderedMap κ β) (key : κ) (value : β) :
    (m.insert key value).keys = m.keys ++ if m.contains key then [] else [key] :=
  keys_writeEntry key value m.entries

/-- A write keeps all keys in their places. A new one goes to the end. -/
theorem keys_insert (m : OrderedMap κ β) (key : κ) (value : β) :
    m.keys <+: (m.insert key value).keys := by
  rw [keys_insert_eq]
  exact List.prefix_append _ _

theorem length_writeEntry (key : κ) (value : β) (entries : List (κ × β)) :
    (writeEntry key value entries).length =
      if entries.any (·.1 == key) then entries.length else entries.length + 1 := by
  induction entries with
  | nil => rfl
  | cons head rest ih =>
      rw [writeEntry, List.any_cons]
      split
      · simp [*]
      · simp only [*, Bool.false_or, List.length_cons]
        split <;> rfl

/-- Only a new key makes the map larger. -/
theorem size_insert (m : OrderedMap κ β) (key : κ) (value : β) :
    (m.insert key value).size = if m.contains key then m.size else m.size + 1 :=
  length_writeEntry key value m.entries

theorem keys_insertIfNew_eq (m : OrderedMap κ β) (key : κ) (value : β) :
    (m.insertIfNew key value).keys = m.keys ++ if m.contains key then [] else [key] := by
  unfold insertIfNew
  cases present : m.contains key with
  | true => simp
  | false => rw [if_neg Bool.false_ne_true, keys_insert_eq, present]

theorem keys_insertIfNew (m : OrderedMap κ β) (key : κ) (value : β) :
    m.keys <+: (m.insertIfNew key value).keys := by
  rw [keys_insertIfNew_eq]
  exact List.prefix_append _ _

theorem contains_iff (m : OrderedMap κ β) (key : κ) :
    m.contains key = true ↔ ∃ other ∈ m.keys, (other == key) = true := by
  simp [contains, keys]

/-- The keys alone decide what a map contains. -/
theorem contains_congr {m : OrderedMap κ β} {n : OrderedMap κ γ} (same : m.keys = n.keys)
    (key : κ) : m.contains key = n.contains key := by
  rw [Bool.eq_iff_iff, contains_iff, contains_iff, same]

/-- More keys contain at least as much. -/
theorem contains_of_prefix {m : OrderedMap κ β} {n : OrderedMap κ γ} (grows : m.keys <+: n.keys)
    {key : κ} (present : m.contains key = true) : n.contains key = true := by
  rw [contains_iff] at present ⊢
  obtain ⟨other, mem, same⟩ := present
  exact ⟨other, grows.subset mem, same⟩

theorem map_writeEntry (key : κ) (value : β) (entries : List (κ × β)) (f : β → γ) :
    (writeEntry key value entries).map (fun entry => (entry.1, f entry.2)) =
      writeEntry key (f value) (entries.map fun entry => (entry.1, f entry.2)) := by
  induction entries with
  | nil => rfl
  | cons head rest ih =>
      rw [writeEntry, List.map_cons, writeEntry]
      split
      · rfl
      · rw [List.map_cons, ih]

/-- The values may be replaced before or after a write. -/
theorem map_insert (m : OrderedMap κ β) (key : κ) (value : β) (f : β → γ) :
    (m.insert key value).map (fun _ v => f v) = (m.map fun _ v => f v).insert key (f value) :=
  ext_entries (map_writeEntry key value m.entries f)

/-- A change that has no further effect on its own result may be made under each of several keys in
turn, equal ones among them. -/
theorem foldl_modify (m : OrderedMap κ β) {f : β → β} (settles : ∀ value, f (f value) = f value)
    (keys : List κ) :
    keys.foldl (fun m key => m.modify key f) m =
      m.map fun other value => if keys.any (other == ·) then f value else value := by
  induction keys generalizing m with
  | nil => exact ext_entries (List.map_id m.entries).symm
  | cons key rest ih =>
      rw [List.foldl_cons, ih]
      refine ext_entries (List.map_map.trans (List.map_congr_left fun entry _ => ?_))
      dsimp only [Function.comp_apply]
      rw [List.any_cons]
      cases entry.1 == key <;> cases rest.any (entry.1 == ·) <;> simp [settles]

theorem erase_of_absent {m : OrderedMap κ β} {key : κ}
    (absent : ∀ entry ∈ m.entries, (entry.1 == key) = false) : m.erase key = m :=
  ext_entries (List.filter_eq_self.2 fun entry mem => by simp [absent entry mem])

theorem foldl_erase (m : OrderedMap κ β) (keys : List κ) :
    keys.foldl erase m = m.filter fun other _ => !keys.any (other == ·) := by
  induction keys generalizing m with
  | nil => exact ext_entries (List.filter_eq_self.2 fun _ _ => rfl).symm
  | cons key rest ih =>
      rw [List.foldl_cons, ih]
      refine ext_entries (List.filter_filter.trans (List.filter_congr fun entry _ => ?_))
      dsimp only
      rw [List.any_cons, Bool.not_or, Bool.and_comm]

theorem filter_erase_of_hidden (m : OrderedMap κ β) {key : κ} {keep : κ → Bool}
    (hidden : ∀ other, (other == key) = true → keep other = false) :
    ((m.erase key).filter fun other _ => keep other) = m.filter fun other _ => keep other := by
  refine ext_entries (List.filter_filter.trans (List.filter_congr fun entry _ => ?_))
  dsimp only
  cases met : entry.1 == key with
  | false => exact Bool.and_true _
  | true => rw [hidden entry.1 met]; rfl

theorem writeEntry_of_find? {key : κ} {value : β} {entries : List (κ × β)}
    (found : (entries.find? (·.1 == key)).map (·.2) = some value) :
    writeEntry key value entries = entries := by
  induction entries with
  | nil => cases found
  | cons head rest ih =>
      rw [List.find?_cons] at found
      rw [writeEntry]
      cases met : head.1 == key with
      | true =>
          rw [met] at found
          rw [if_pos rfl, ← Option.some.inj found]
      | false =>
          rw [met] at found
          rw [if_neg Bool.false_ne_true, ih found]

/-- Writing what is there changes nothing. -/
theorem insert_of_get? {m : OrderedMap κ β} {key : κ} {value : β}
    (found : m.get? key = some value) : m.insert key value = m :=
  ext_entries (writeEntry_of_find? found)

section Equivalence
variable [EquivBEq κ]

theorem beq_congr_left {a b c : κ} (same : (a == b) = true) : (a == c) = (b == c) := by
  rw [Bool.eq_iff_iff]
  exact ⟨fun h => BEq.trans (BEq.symm same) h, fun h => BEq.trans same h⟩

theorem beq_congr_right {a b c : κ} (same : (b == c) = true) : (a == b) = (a == c) := by
  rw [Bool.eq_iff_iff]
  exact ⟨fun h => BEq.trans h same, fun h => BEq.trans h (BEq.symm same)⟩

theorem get?_congr (m : OrderedMap κ β) {a b : κ} (same : (a == b) = true) :
    m.get? a = m.get? b := by
  have tests : (fun entry : κ × β => entry.1 == a) = fun entry => entry.1 == b :=
    funext fun entry => beq_congr_right same
  rw [get?, get?, binding?, binding?, tests]

/-- A key of the list has no equal before or after it. -/
theorem find?_of_mem {entries : List (κ × β)}
    (distinct : entries.Pairwise fun a b => (a.1 == b.1) = false) {entry : κ × β}
    (mem : entry ∈ entries) {key : κ} (same : (entry.1 == key) = true) :
    entries.find? (·.1 == key) = some entry := by
  induction entries with
  | nil => cases mem
  | cons head rest ih =>
      obtain ⟨apart, restDistinct⟩ := List.pairwise_cons.1 distinct
      rcases List.mem_cons.1 mem with rfl | inRest
      · exact List.find?_cons_of_pos same
      · have different : (head.1 == key) = false := by
          rw [← beq_congr_right same]
          exact apart entry inRest
        rw [List.find?_cons_of_neg (by simp [different])]
        exact ih restDistinct inRest

theorem get?_of_mem {m : OrderedMap κ β} {entry : κ × β} (mem : entry ∈ m.entries) {key : κ}
    (same : (entry.1 == key) = true) : m.get? key = some entry.2 := by
  rw [get?, binding?, find?_of_mem m.distinct mem same]
  rfl

theorem get?_self_of_mem {m : OrderedMap κ β} {entry : κ × β} (mem : entry ∈ m.entries) :
    m.get? entry.1 = some entry.2 :=
  get?_of_mem mem BEq.rfl

theorem value_unique {m : OrderedMap κ β} {a b : κ × β} (aMem : a ∈ m.entries)
    (bMem : b ∈ m.entries) (same : (a.1 == b.1) = true) : a.2 = b.2 := by
  have found := get?_of_mem aMem same
  rw [get?_self_of_mem bMem] at found
  exact (Option.some.inj found).symm

theorem find?_writeEntry (key other : κ) (value : β) (entries : List (κ × β)) :
    ((writeEntry key value entries).find? (·.1 == other)).map (·.2) =
      if key == other then some value else (entries.find? (·.1 == other)).map (·.2) := by
  induction entries with
  | nil => by_cases same : (key == other) = true <;> simp [writeEntry, same]
  | cons head rest ih =>
      by_cases written : (head.1 == key) = true
      · have test : (head.1 == other) = (key == other) := beq_congr_left written
        by_cases same : (key == other) = true <;>
          simp [writeEntry, written, test, same]
      · by_cases met : (head.1 == other) = true
        · have different : (key == other) = false := by
            rw [← beq_congr_right met, BEq.comm]
            simpa using written
          simp [writeEntry, written, met, different]
        · simpa [writeEntry, written, List.find?_cons, met] using ih

/-- A write is found under every equal key, and changes nothing elsewhere. -/
theorem get?_insert (m : OrderedMap κ β) (key other : κ) (value : β) :
    (m.insert key value).get? other = if key == other then some value else m.get? other :=
  find?_writeEntry key other value m.entries

theorem contains_insert (m : OrderedMap κ β) (key other : κ) (value : β) :
    (m.insert key value).contains other = (key == other || m.contains other) := by
  rw [contains_eq_isSome, contains_eq_isSome, get?_insert]
  cases key == other <;> rfl

/-- Of several writes under distinct keys each one is found, and nothing changes elsewhere. -/
theorem get?_insertAll (m n : OrderedMap κ β) (key : κ) :
    (m.insertAll n.entries).get? key = (n.get? key).or (m.get? key) := by
  obtain ⟨entries, distinct⟩ := n
  change (entries.foldl _ m).get? key = ((entries.find? (·.1 == key)).map (·.2)).or _
  induction entries generalizing m with
  | nil => rfl
  | cons head rest ih =>
      obtain ⟨apart, restDistinct⟩ := List.pairwise_cons.1 distinct
      rw [List.foldl_cons, ih _ restDistinct, get?_insert, List.find?_cons]
      cases same : head.1 == key with
      | false => rw [if_neg Bool.false_ne_true]
      | true =>
          have absent : rest.find? (·.1 == key) = none := by
            refine List.find?_eq_none.2 fun entry mem => ?_
            rw [BEq.comm, ← beq_congr_left same, apart entry mem]
            exact Bool.false_ne_true
          rw [absent, if_pos rfl]
          rfl

theorem contains_insertAll (m n : OrderedMap κ β) (key : κ) :
    (m.insertAll n.entries).contains key = (n.contains key || m.contains key) := by
  rw [contains_eq_isSome, contains_eq_isSome, contains_eq_isSome, get?_insertAll, Option.isSome_or]

theorem contains_insertIfNew (m : OrderedMap κ β) (key other : κ) (value : β) :
    (m.insertIfNew key value).contains other = (key == other || m.contains other) := by
  unfold insertIfNew
  split
  · rename_i present
    rw [Bool.eq_iff_iff, Bool.or_eq_true]
    refine ⟨Or.inr, fun either => either.elim (fun same => ?_) id⟩
    obtain ⟨stored, mem, alike⟩ := (m.contains_iff key).1 present
    exact (m.contains_iff other).2 ⟨stored, mem, BEq.trans alike same⟩
  · exact m.contains_insert key other value

theorem mem_writeEntry {key : κ} {value : β} {entries : List (κ × β)} {entry : κ × β}
    (mem : entry ∈ writeEntry key value entries) :
    (key == entry.1) = true ∨ entry ∈ entries := by
  induction entries with
  | nil =>
      rw [writeEntry, List.mem_singleton] at mem
      exact Or.inl (mem ▸ BEq.rfl)
  | cons head rest ih =>
      rw [writeEntry] at mem
      split at mem
      · rename_i met
        rcases List.mem_cons.1 mem with rfl | inRest
        · exact Or.inl (BEq.symm met)
        · exact Or.inr (List.mem_cons_of_mem _ inRest)
      · rcases List.mem_cons.1 mem with rfl | inRest
        · exact Or.inr List.mem_cons_self
        · exact (ih inRest).imp_right (List.mem_cons_of_mem _)

/-- After a write an entry either holds the value written or is an old one under another key. -/
theorem mem_insert {m : OrderedMap κ β} {key : κ} {value : β} {entry : κ × β}
    (mem : entry ∈ (m.insert key value).entries) :
    (key == entry.1) = true ∧ entry.2 = value ∨
      (key == entry.1) = false ∧ entry ∈ m.entries := by
  have found := get?_self_of_mem mem
  rw [get?_insert] at found
  cases same : key == entry.1 with
  | true =>
      rw [same, if_pos rfl] at found
      exact Or.inl ⟨rfl, (Option.some.inj found).symm⟩
  | false =>
      refine Or.inr ⟨rfl, (mem_writeEntry mem).resolve_left ?_⟩
      simp [same]

theorem binding?_filter (m : OrderedMap κ β) (keep : κ → β → Bool) (key : κ) :
    (m.filter keep).binding? key =
      (m.binding? key).filter fun entry => keep entry.1 entry.2 := by
  cases found : m.binding? key with
  | none =>
      have absent := List.find?_eq_none.1 found
      exact List.find?_eq_none.2 fun entry mem => absent entry (List.mem_filter.1 mem).1
  | some entry =>
      obtain ⟨mem, same⟩ := mem_of_binding? found
      by_cases kept : keep entry.1 entry.2 = true
      · simp only [Option.filter, kept, if_true]
        exact find?_of_mem (m.filter keep).distinct (List.mem_filter.2 ⟨mem, kept⟩) same
      · simp only [Option.filter, kept]
        refine List.find?_eq_none.2 fun other otherMem otherSame => kept ?_
        obtain ⟨inMap, otherKept⟩ := List.mem_filter.1 otherMem
        have equal : some other = some entry :=
          (find?_of_mem m.distinct inMap otherSame).symm.trans found
        rwa [← Option.some.inj equal]

/-- Filtering by the value alone hides the values that fail. -/
theorem get?_filter_value (m : OrderedMap κ β) (keep : β → Bool) (key : κ) :
    (m.filter fun _ value => keep value).get? key = (m.get? key).filter keep := by
  rw [get?, binding?_filter, get?]
  cases m.binding? key with
  | none => rfl
  | some entry => by_cases kept : keep entry.2 = true <;> simp [Option.filter, kept]

/-- Filtering by the key alone hides the keys that fail. -/
theorem get?_filter_key (m : OrderedMap κ β) {keep : κ → Bool}
    (alike : ∀ a b, (a == b) = true → keep a = keep b) (key : κ) :
    (m.filter fun other _ => keep other).get? key = if keep key then m.get? key else none := by
  rw [get?, binding?_filter, get?]
  cases found : m.binding? key with
  | none => simp
  | some entry =>
      have same : keep entry.1 = keep key := alike _ _ (mem_of_binding? found).2
      by_cases kept : keep key = true <;> simp [Option.filter, same, kept]

theorem filter_writeEntry_of_hidden {key : κ} {keep : κ → Bool}
    (hidden : ∀ other, (other == key) = true → keep other = false) (value : β)
    (entries : List (κ × β)) :
    (writeEntry key value entries).filter (fun entry => keep entry.1) =
      entries.filter fun entry => keep entry.1 := by
  induction entries with
  | nil => simp [writeEntry, hidden key BEq.rfl]
  | cons head rest ih =>
      rw [writeEntry]
      by_cases met : (head.1 == key) = true
      · simp [met, hidden head.1 met]
      · rw [if_neg met, List.filter_cons, List.filter_cons, ih]

/-- A filter by the key does not see a write under a key that fails. -/
theorem filter_insert_of_hidden (m : OrderedMap κ β) {key : κ} {keep : κ → Bool}
    (hidden : ∀ other, (other == key) = true → keep other = false) (value : β) :
    ((m.insert key value).filter fun other _ => keep other) = m.filter fun other _ => keep other :=
  ext_entries (filter_writeEntry_of_hidden hidden value m.entries)

theorem get?_erase (m : OrderedMap κ β) (key other : κ) :
    (m.erase key).get? other = if key == other then none else m.get? other := by
  have alike : ∀ a b, (a == b) = true → (!(a == key)) = !(b == key) := fun a b same => by
    rw [beq_congr_left same]
  rw [erase, get?_filter_key m alike, BEq.comm (a := other)]
  by_cases same : (key == other) = true <;> simp [same]

/-- Nothing is left once every key has been removed. -/
theorem foldl_erase_keys (m : OrderedMap κ β) : m.keys.foldl erase m = empty := by
  rw [m.foldl_erase]
  refine ext_entries (List.filter_eq_nil_iff.2 fun entry mem => ?_)
  have listed : m.keys.any (entry.1 == ·) = true :=
    List.any_eq_true.2 ⟨entry.1, List.mem_map_of_mem mem, BEq.rfl⟩
  simp [listed]

theorem get?_modify (m : OrderedMap κ β) (key other : κ) (f : β → β) :
    (m.modify key f).get? other =
      (m.get? other).map fun value => if other == key then f value else value :=
  m.get?_map_key (fun _ _ _ same => by rw [beq_congr_left same]) other

/-- Under every key in turn, the change is made to every value. -/
theorem foldl_modify_keys (m : OrderedMap κ β) {f : β → β}
    (settles : ∀ value, f (f value) = f value) :
    m.keys.foldl (fun m key => m.modify key f) m = m.map fun _ value => f value := by
  rw [m.foldl_modify settles]
  refine ext_entries (List.map_congr_left fun entry mem => ?_)
  have listed : m.keys.any (entry.1 == ·) = true :=
    List.any_eq_true.2 ⟨entry.1, List.mem_map_of_mem mem, BEq.rfl⟩
  dsimp only
  rw [if_pos listed]

theorem get?_insertIfNew (m : OrderedMap κ β) (key other : κ) (value : β) :
    (m.insertIfNew key value).get? other =
      if key == other && !m.contains key then some value else m.get? other := by
  unfold insertIfNew
  by_cases present : m.contains key = true
  · simp [present]
  · simp [present, get?_insert]

end Equivalence

/-- Maps with the same values under all keys have as many entries. -/
theorem size_eq_of_get? {κ : Type} [BEq κ] [LawfulBEq κ] {m n : OrderedMap κ β}
    (same : ∀ key, m.get? key = n.get? key) : m.size = n.size := by
  have nodup (map : OrderedMap κ β) : map.keys.Nodup :=
    List.nodup_iff_pairwise_ne.2 (map.keys_distinct.imp fun apart => ne_of_beq_false apart)
  have present (map : OrderedMap κ β) (key : κ) :
      key ∈ map.keys ↔ (map.get? key).isSome = true := by
    rw [← contains_eq_isSome, contains_iff]
    simp
  have perm : m.keys.Perm n.keys := (List.perm_ext_iff_of_nodup (nodup m) (nodup n)).2 fun key => by
    rw [present, present, same]
  simpa [keys, size] using perm.length_eq

end Decomposition.OrderedMap
