import Decomposition.Proofs.Store
import Mathlib.Data.Finset.Card
import Mathlib.Data.List.Induction

namespace Decomposition

namespace OrderedMap
variable {κ β : Type} [BEq κ]

/-- The keys that have no equal one before them, in order. -/
def firstUses (keys : List κ) : List κ :=
  (keys.zipIdx.filter fun use => !(keys.take use.2).any (· == use.1)).map (·.1)

/-- The value of the last write under an equal key. -/
def lastWritten (writes : List (κ × β)) (key : κ) : Option β :=
  (writes.reverse.find? (·.1 == key)).map (·.2)

/-- One more key is a first use unless an equal one is there already. -/
theorem firstUses_append_singleton (keys : List κ) (key : κ) :
    firstUses (keys ++ [key]) = firstUses keys ++ if keys.any (· == key) then [] else [key] := by
  have before : keys.zipIdx.filter (fun use => !((keys ++ [key]).take use.2).any (· == use.1)) =
      keys.zipIdx.filter fun use => !(keys.take use.2).any (· == use.1) := by
    apply List.filter_congr
    intro use mem
    have inside : use.2 < keys.length := (List.mem_zipIdx' mem).1
    rw [List.take_append_of_le_length inside.le]
  rw [firstUses, List.zipIdx_append, List.filter_append, before, List.map_append, ← firstUses]
  congr 1
  cases met : keys.any (· == key) <;> simp [met]

theorem lastWritten_append_singleton (writes : List (κ × β)) (write : κ × β) (key : κ) :
    lastWritten (writes ++ [write]) key =
      if write.1 == key then some write.2 else lastWritten writes key := by
  rw [lastWritten, List.reverse_append, List.reverse_singleton, List.singleton_append,
    List.find?_cons]
  cases write.1 == key <;> rfl

theorem lastWritten_eq_none_iff {writes : List (κ × β)} {key : κ} :
    lastWritten writes key = none ↔ ∀ write ∈ writes, (write.1 == key) = false := by
  simp [lastWritten]

theorem ofList_append_singleton (writes : List (κ × β)) (write : κ × β) :
    ofList (writes ++ [write]) = (ofList writes).insert write.1 write.2 := by
  simp [ofList, insertAll]

section Equivalence
variable [EquivBEq κ]

theorem get?_ofList (writes : List (κ × β)) (key : κ) :
    (ofList writes).get? key = lastWritten writes key := by
  induction writes using List.reverseRecOn with
  | nil => rfl
  | append_singleton writes write ih =>
      rw [ofList_append_singleton, get?_insert, lastWritten_append_singleton, ih]

theorem contains_ofList (writes : List (κ × β)) (key : κ) :
    (ofList writes).contains key = (writes.map (·.1)).any (· == key) := by
  induction writes using List.reverseRecOn with
  | nil => rfl
  | append_singleton writes write ih =>
      rw [ofList_append_singleton, contains_insert, ih]
      simp [Bool.or_comm]

theorem keys_ofList (writes : List (κ × β)) :
    (ofList writes).keys = firstUses (writes.map (·.1)) := by
  induction writes using List.reverseRecOn with
  | nil => rfl
  | append_singleton writes write ih =>
      rw [ofList_append_singleton, keys_insert_eq, ih, contains_ofList, List.map_append,
        List.map_singleton, firstUses_append_singleton]

/-- A map is listed by its keys, each with what is found under it. -/
theorem entries_eq_filterMap (m : OrderedMap κ β) :
    m.entries = m.keys.filterMap fun key => (m.get? key).map (key, ·) := by
  rw [keys, List.filterMap_map]
  symm
  apply (List.filterMap_congr fun entry mem => ?_).trans List.filterMap_some
  simp [get?_self_of_mem mem]

end Equivalence

end OrderedMap

open OrderedMap

/-- Identifiers serve as keys by themselves or as references. Either way they agree as before, and
are found. -/
structure Ident.Keys {κ : Type} [BEq κ] [RefKey κ] (key : Ident → κ) : Prop where
  same : ∀ a b, (key a == key b) = (a == b)
  found : ∀ id, RefKey.ofRef? (.ident id) = some (key id)

theorem Ident.keys_self : Ident.Keys (id : Ident → Ident) := ⟨fun _ _ => rfl, fun _ => rfl⟩

theorem Ident.keys_ref : Ident.Keys Ref.ident := ⟨fun _ _ => Ref.ident_beq_ident, fun _ => rfl⟩

namespace Store
variable {κ β : Type} [BEq κ] {key : Ident → κ} {name : String} {writes : List (Ident × β)}

/-- The writes are made in order, into a store that is empty. -/
def fill (key : Ident → κ) (name : String) (writes : List (Ident × β)) : Store κ β :=
  writes.foldl (fun s write => s.set (key write.1) write.2) (.empty name)

/-- Every identifier at its first use, with the value that was written last. -/
def listing (key : Ident → κ) (writes : List (Ident × β)) : List (κ × β) :=
  (firstUses (writes.map (·.1))).filterMap fun id =>
    (lastWritten writes id).map (key id, ·)

theorem fill_append_singleton (writes : List (Ident × β)) (write : Ident × β) :
    fill key name (writes ++ [write]) = (fill key name writes).set (key write.1) write.2 := by
  simp [fill]

theorem fill_eq (key : Ident → κ) (name : String) (writes : List (Ident × β)) :
    fill key name writes =
      ⟨name, .ofList (writes.map fun write => (key write.1, write.2))⟩ := by
  induction writes using List.reverseRecOn with
  | nil => rfl
  | append_singleton writes write ih =>
      rw [fill_append_singleton, ih, List.map_append, List.map_singleton,
        ofList_append_singleton, set]

/-- The store is the listing of its writes, in everything that it is asked for. -/
structure Lists [RefKey κ] (key : Ident → κ) (name : String) (writes : List (Ident × β))
    (s : Store κ β) : Prop where
  entries : s.entries = listing key writes
  /-- Nothing that is used first is left out. -/
  ids : s.ids = (firstUses (writes.map (·.1))).map key
  distinct : s.ids.Pairwise fun a b => (a == b) = false
  mem_ids : ∀ id, (∃ listed ∈ s.ids, (listed == key id) = true) ↔
    ∃ write ∈ writes, write.1.kind = id.kind ∧ write.1.uid = id.uid
  size : s.size = (writes.map fun write => (write.1.kind, write.1.uid)).toFinset.card
  found : ∀ id value, s.get (.ident id) = .ok value ↔ lastWritten writes id = some value
  missing : ∀ id, s.get (.ident id) = .error (.missing id name) ↔
    ∀ write ∈ writes, ¬ (write.1.kind = id.kind ∧ write.1.uid = id.uid)
  contains : ∀ id, s.contains (.ident id) = .ok (writes.any (·.1 == id))
  filter : ∀ keep, (s.filter keep).entries =
    (listing key writes).filter fun entry => keep entry.1 entry.2

section Fill
variable [RefKey κ] (keys : Ident.Keys key)
include keys

theorem any_map_key (ids : List Ident) (id : Ident) :
    (ids.map key).any (· == key id) = ids.any (· == id) := by
  rw [List.any_map]
  congr 1
  funext other
  exact keys.same other id

theorem firstUses_map_key (ids : List Ident) :
    firstUses (ids.map key) = (firstUses ids).map key := by
  induction ids using List.reverseRecOn with
  | nil => rfl
  | append_singleton ids id ih =>
      rw [List.map_append, List.map_singleton, firstUses_append_singleton,
        firstUses_append_singleton, any_map_key keys, ih, List.map_append]
      cases ids.any (· == id) <;> rfl

theorem lastWritten_map_key (writes : List (Ident × β)) (id : Ident) :
    lastWritten (writes.map fun write => (key write.1, write.2)) (key id) =
      lastWritten writes id := by
  induction writes using List.reverseRecOn with
  | nil => rfl
  | append_singleton writes write ih =>
      rw [List.map_append, List.map_singleton, lastWritten_append_singleton,
        lastWritten_append_singleton, keys.same, ih]

variable [EquivBEq κ]

theorem get?_fill (id : Ident) :
    (fill key name writes).members.get? (key id) = lastWritten writes id := by
  rw [fill_eq, get?_ofList, lastWritten_map_key keys]

theorem ids_fill : (fill key name writes).ids = (firstUses (writes.map (·.1))).map key := by
  have written : (writes.map fun write => (key write.1, write.2)).map (·.1) =
      (writes.map (·.1)).map key := by
    simp
  rw [ids, fill_eq, keys_ofList, written, firstUses_map_key keys]

theorem contains_fill (id : Ident) :
    (fill key name writes).members.contains (key id) = writes.any (·.1 == id) := by
  rw [OrderedMap.contains_eq_isSome, get?_fill keys, lastWritten, Option.isSome_map,
    ← List.any_reverse, Bool.eq_iff_iff, List.find?_isSome, List.any_eq_true]

theorem entries_fill : (fill key name writes).entries = listing key writes := by
  rw [entries, OrderedMap.entries_eq_filterMap, ← ids, ids_fill keys, List.filterMap_map, listing]
  congr 1
  funext id
  exact congrArg (Option.map (key id, ·)) (get?_fill keys id)

theorem find?_fill (id : Ident) :
    (fill key name writes).find? (.ident id) = lastWritten writes id := by
  rw [find?, keys.found, Option.bind_some]
  exact get?_fill keys id

/-- A key is listed if and only if its kind and its uid have been written. -/
theorem mem_ids_fill (id : Ident) :
    (∃ listed ∈ (fill key name writes).ids, (listed == key id) = true) ↔
      ∃ write ∈ writes, write.1.kind = id.kind ∧ write.1.uid = id.uid := by
  rw [ids, ← OrderedMap.contains_iff, contains_fill keys, List.any_eq_true]
  simp only [Ident.beq_iff]

/-- Every kind and uid that is written has one entry. -/
theorem size_fill : (fill key name writes).size =
    (writes.map fun write => (write.1.kind, write.1.uid)).toFinset.card := by
  let pair (id : Ident) : EntityKind × Int := (id.kind, id.uid)
  let uses := firstUses (writes.map (·.1))
  have listed : (fill key name writes).ids = uses.map key := ids_fill keys
  have count : (fill key name writes).size = (uses.map pair).length := by
    rw [List.length_map, ← List.length_map (f := key), ← listed]
    exact (List.length_map _).symm
  have nodup : (uses.map pair).Nodup := by
    have distinct := (fill key name writes).members.keys_distinct
    rw [← ids, listed, List.pairwise_map] at distinct
    apply List.pairwise_map.2
    apply distinct.imp
    intro a b apart same
    rw [keys.same] at apart
    simp [Ident.beq_iff.2 (Prod.mk.inj same)] at apart
  have members : (writes.map fun write => (write.1.kind, write.1.uid)).toFinset =
      (uses.map pair).toFinset := by
    ext ⟨kind, uid⟩
    let id : Ident := ⟨kind, uid, .compactVar, none, none⟩
    have written : (∃ k ∈ (fill key name writes).ids, (k == key id) = true) ↔ _ :=
      mem_ids_fill keys id
    rw [listed] at written
    simpa [pair, id, keys.same, Ident.beq_iff] using written.symm
  rw [count, members, List.toFinset_card_of_nodup nodup]

/-- What has never been written is refused, with its name and that of the store. -/
theorem get_fill_eq_missing_iff (id : Ident) :
    (fill key name writes).get (.ident id) = .error (.missing id name) ↔
      ∀ write ∈ writes, ¬ (write.1.kind = id.kind ∧ write.1.uid = id.uid) := by
  have never : lastWritten writes id = none ↔
      ∀ write ∈ writes, ¬ (write.1.kind = id.kind ∧ write.1.uid = id.uid) := by
    simp only [lastWritten_eq_none_iff, ← Ident.beq_iff, Bool.not_eq_true]
  have named : (fill key name writes).name = name := by rw [fill_eq]
  rw [← never, get, find?_fill keys, named]
  cases lastWritten writes id with
  | none => simp [Ref.isKey]
  | some value => simp

theorem lists_fill : Lists key name writes (fill key name writes) where
  entries := entries_fill keys
  ids := ids_fill keys
  distinct := OrderedMap.keys_distinct _
  mem_ids := mem_ids_fill keys
  size := size_fill keys
  found id value := by rw [get_eq_ok_iff, find?_fill keys]
  missing := get_fill_eq_missing_iff keys
  contains id := by
    have held : (fill key name writes).members.contains (key id) = _ := contains_fill keys id
    rw [OrderedMap.contains_eq_isSome, get?_fill keys] at held
    rw [contains, find?_fill keys, held]
    rfl
  filter keep := by
    have listed : (fill key name writes).entries = _ := entries_fill keys
    rw [filter, OrderedMap.entries_filter, ← listed]
    rfl

end Fill

/-- After any writes a store lists every identifier once, at the place and with the fields of its
first use and with the value of its last write, and nothing else. Size, look-ups, the set of keys
and every selection are those of this listing, whether identifiers are the keys or references to
them. -/
theorem fill_lists (name : String) (writes : List (Ident × β)) :
    Lists id name writes (fill id name writes) ∧
      Lists Ref.ident name writes (fill Ref.ident name writes) :=
  ⟨lists_fill Ident.keys_self, lists_fill Ident.keys_ref⟩

/-- The third write changes the first entry, and neither its place nor its duty. -/
example :
    (fill id "store" [(Ident.ofVar 1, "a"), (Ident.ofConstr 1, "b"),
        ((Ident.ofVar 1).cloned .masterCol 2, "c")]).entries =
      [(Ident.ofVar 1, "c"), (Ident.ofConstr 1, "b")] := rfl

end Store

end Decomposition
