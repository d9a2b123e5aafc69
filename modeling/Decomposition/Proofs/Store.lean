import Decomposition.Proofs.OrderedMap
import Decomposition.Store

namespace Decomposition.Store
variable {κ β : Type} [BEq κ]

theorem mem_set [EquivBEq κ] {s : Store κ β} {key : κ} {value : β} {entry : κ × β}
    (mem : entry ∈ (s.set key value).entries) :
    (key == entry.1) = true ∧ entry.2 = value ∨
      (key == entry.1) = false ∧ entry ∈ s.entries :=
  OrderedMap.mem_insert mem

/-- A new key goes to the end. -/
theorem entries_set_of_absent {s : Store κ β} {key : κ} (absent : s.get? key = none) (value : β) :
    (s.set key value).entries = s.entries ++ [(key, value)] :=
  OrderedMap.entries_insert_of_absent value (OrderedMap.absent_of_get? absent)

/-- A key that is present keeps its place. -/
theorem ids_set_of_contains {s : Store κ β} {key : κ} (present : s.members.contains key = true)
    (value : β) : (s.set key value).ids = s.ids := by
  rw [ids, set, OrderedMap.keys_insert_eq, if_pos present, List.append_nil, ids]

/-- A write adds its key at most. -/
theorem mem_ids_set {s : Store κ β} {key other : κ} {value : β}
    (mem : other ∈ (s.set key value).ids) : other ∈ s.ids ∨ other = key := by
  rw [ids, set, OrderedMap.keys_insert_eq, List.mem_append] at mem
  rcases mem with old | new
  · exact .inl old
  · split at new
    · cases new
    · exact .inr (List.mem_singleton.1 new)

theorem size_set (s : Store κ β) (key : κ) (value : β) :
    (s.set key value).size = if s.members.contains key then s.size else s.size + 1 :=
  s.members.size_insert key value

@[simp] theorem size_map {γ : Type} (s : Store κ β) (f : β → γ) : (s.map f).size = s.size :=
  List.length_map _

variable [RefKey κ]

theorem mem_of_get {s : Store κ β} {ref : Ref} {value : β} (found : s.get ref = .ok value) :
    ∃ entry ∈ s.entries, entry.2 = value := by
  unfold get at found
  split at found
  · rename_i look
    cases found
    obtain ⟨key, _, stored⟩ := Option.bind_eq_some_iff.1 look
    obtain ⟨entry, mem, _, same⟩ := OrderedMap.exists_mem_of_get? stored
    exact ⟨entry, mem, same⟩
  · cases found

theorem get_eq_ok_iff {s : Store κ β} {ref : Ref} {value : β} :
    s.get ref = .ok value ↔ s.find? ref = some value := by
  unfold get
  split <;> simp_all

/-- An entry is found under every reference that stands for an equal key. -/
theorem get_of_mem [EquivBEq κ] {s : Store κ β} {entry : κ × β} (mem : entry ∈ s.entries)
    {ref : Ref} {key : κ} (named : RefKey.ofRef? ref = some key) (same : (entry.1 == key) = true) :
    s.get ref = .ok entry.2 := by
  rw [get_eq_ok_iff, find?, named]
  exact OrderedMap.get?_of_mem mem same

/-- A key that is missing is named in the refusal, together with the store. -/
theorem get_of_absent {s : Store κ β} {ref : Ref} {key : κ} (named : RefKey.ofRef? ref = some key)
    (isKey : ref.isKey = true) (absent : s.members.contains key = false) :
    s.get ref = .error (.missing ref s.name) := by
  rw [OrderedMap.contains_eq_isSome, Option.isSome_eq_false_iff, Option.isNone_iff_eq_none]
    at absent
  have look : s.find? ref = none := by
    rw [find?, named]
    exact absent
  rw [get, look, isKey]
  rfl

/-- A write is found under every reference that stands for an equal key. -/
theorem get_set [EquivBEq κ] (s : Store κ β) (ref : Ref) {other : κ}
    (found : RefKey.ofRef? ref = some other) (key : κ) (value : β) :
    (s.set key value).get ref = if key == other then .ok value else s.get ref := by
  have look : (s.set key value).find? ref = if key == other then some value else s.find? ref := by
    rw [find?, find?, found]
    exact OrderedMap.get?_insert s.members key other value
  unfold get
  rw [look]
  cases key == other <;> rfl

/-- A change keeps the keys, and changes one value at most. -/
theorem mem_modify {s : Store κ β} {ref : Ref} {f : β → β} {entry : κ × β}
    (mem : entry ∈ (s.modify ref f).entries) :
    ∃ old ∈ s.entries, entry.1 = old.1 ∧ (entry.2 = old.2 ∨ entry.2 = f old.2) := by
  unfold modify at mem
  split at mem
  · obtain ⟨old, oldMem, rfl⟩ := List.mem_map.1 mem
    refine ⟨old, oldMem, rfl, ?_⟩
    dsimp only
    split
    · exact Or.inr rfl
    · exact Or.inl rfl
  · exact ⟨entry, mem, rfl, Or.inl rfl⟩

/-- The value that changes is the one that the reference finds. -/
theorem mem_modify_found [EquivBEq κ] {s : Store κ β} {ref : Ref} {f : β → β} {entry : κ × β}
    (mem : entry ∈ (s.modify ref f).entries) :
    ∃ old ∈ s.entries, entry.1 = old.1 ∧
      (entry.2 = old.2 ∨ s.get ref = .ok old.2 ∧ entry.2 = f old.2) := by
  unfold modify at mem
  split at mem
  · rename_i key named
    obtain ⟨old, oldMem, rfl⟩ := List.mem_map.1 mem
    refine ⟨old, oldMem, rfl, ?_⟩
    dsimp only
    split
    · rename_i same
      exact Or.inr ⟨get_of_mem oldMem named same, rfl⟩
    · exact Or.inl rfl
  · exact ⟨entry, mem, rfl, Or.inl rfl⟩

/-- What is found is still found after a change. -/
theorem exists_get_modify [EquivBEq κ] {s : Store κ β} {ref : Ref} {value : β}
    (found : s.get ref = .ok value) (changed : Ref) (f : β → β) :
    ∃ next, (s.modify changed f).get ref = .ok next := by
  unfold modify
  split
  · rename_i key _
    obtain ⟨other, named, stored⟩ := Option.bind_eq_some_iff.1 (get_eq_ok_iff.1 found)
    have stored : s.members.get? other = some value := stored
    refine ⟨if other == key then f value else value, get_eq_ok_iff.2 ?_⟩
    rw [find?, named, Option.bind_some, get?, OrderedMap.get?_modify, stored, Option.map_some]
  · exact ⟨value, found⟩

/-- The value that is found is the one that changes. -/
theorem get_modify_self [EquivBEq κ] {s : Store κ β} {ref : Ref} {value : β}
    (found : s.get ref = .ok value) (f : β → β) : (s.modify ref f).get ref = .ok (f value) := by
  obtain ⟨key, named, stored⟩ := Option.bind_eq_some_iff.1 (get_eq_ok_iff.1 found)
  have stored : s.members.get? key = some value := stored
  unfold modify
  rw [named, get_eq_ok_iff, find?, named, Option.bind_some, get?]
  dsimp only
  rw [OrderedMap.get?_modify, stored, Option.map_some, if_pos BEq.rfl]

@[simp] theorem ids_modify (s : Store κ β) (ref : Ref) (f : β → β) :
    (s.modify ref f).ids = s.ids := by
  unfold modify
  split
  · exact s.members.keys_modify _ f
  · rfl

/-- A change is not seen by what does not look at the changed part. -/
theorem map_modify {α : Type} (s : Store κ β) (ref : Ref) {f : β → β} {g : κ × β → α}
    (unseen : ∀ key value, g (key, f value) = g (key, value)) :
    (s.modify ref f).entries.map g = s.entries.map g := by
  unfold modify
  split
  · refine List.map_map.trans (List.map_congr_left fun entry _ => ?_)
    dsimp only [Function.comp_apply]
    split
    · exact unseen entry.1 entry.2
    · rfl
  · rfl

/-- A change that makes no difference to what every value is replaced by. -/
theorem map_of_modify {γ : Type} (s : Store κ β) (ref : Ref) {f : β → β} {g : β → γ}
    (unseen : ∀ value, g (f value) = g value) : (s.modify ref f).map g = s.map g := by
  have entries := map_modify s ref (f := f) (g := fun entry => (entry.1, g entry.2))
    fun key value => congrArg (key, ·) (unseen value)
  have members : (s.modify ref f).members.map (fun _ value => g value) =
      s.members.map fun _ value => g value := OrderedMap.ext_entries entries
  have name : (s.modify ref f).name = s.name := by
    unfold modify
    split <;> rfl
  rw [map, map, members, name]

/-- Under every key in turn, the change is made to every value. -/
theorem foldl_modify_ids [EquivBEq κ] (s : Store κ β) {f : β → β}
    (found : ∀ key : κ, RefKey.ofRef? (RefKey.toRef key) = some key)
    (settles : ∀ value, f (f value) = f value) :
    s.ids.foldl (fun s key => s.modify (RefKey.toRef key) f) s = s.map f := by
  have changed (s : Store κ β) (keys : List κ) :
      keys.foldl (fun s key => s.modify (RefKey.toRef key) f) s =
        ⟨s.name, keys.foldl (fun m key => m.modify key f) s.members⟩ := by
    induction keys generalizing s with
    | nil => rfl
    | cons key rest ih =>
        have here : s.modify (RefKey.toRef key) f = ⟨s.name, s.members.modify key f⟩ := by
          rw [modify, found]
        rw [List.foldl_cons, ih, here, List.foldl_cons]
  rw [changed, ids, s.members.foldl_modify_keys settles, map]

end Decomposition.Store
