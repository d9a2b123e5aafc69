import Decomposition.Proofs.OrderedMap
import Mathlib.Algebra.BigOperators.Group.List.Basic

namespace Decomposition.OrderedMap
variable {κ β M : Type} [BEq κ] [EquivBEq κ] [AddCommMonoid M]

/-- Among distinct keys one key is met once. -/
theorem sum_single {keys : List κ} (distinct : keys.Pairwise fun a b => (a == b) = false)
    {key : κ} (listed : ∃ other ∈ keys, (key == other) = true) (a : M) :
    (keys.map fun other => if key == other then a else 0).sum = a := by
  induction keys with
  | nil => obtain ⟨_, mem, _⟩ := listed; cases mem
  | cons head rest ih =>
      obtain ⟨apart, restDistinct⟩ := List.pairwise_cons.1 distinct
      by_cases same : (key == head) = true
      · have others : (rest.map fun other => if key == other then a else 0) =
            rest.map fun _ => 0 := by
          refine List.map_congr_left fun other mem => ?_
          rw [beq_congr_left same, apart other mem]
          rfl
        simp [same, others]
      · obtain ⟨other, mem, equal⟩ := listed
        have inRest : other ∈ rest := by
          rcases List.mem_cons.1 mem with rfl | inRest
          · exact absurd equal same
          · exact inRest
        simp [same, ih restDistinct ⟨other, inRest, equal⟩]

/-- The entries of a list with distinct keys, summed up by the keys. -/
theorem sum_find? {entries : List (κ × β)} {keys : List κ}
    (entriesDistinct : entries.Pairwise fun a b => (a.1 == b.1) = false)
    (keysDistinct : keys.Pairwise fun a b => (a == b) = false)
    (listed : ∀ entry ∈ entries, ∃ key ∈ keys, (entry.1 == key) = true) {f : κ → β → M}
    (alike : ∀ a b value, (a == b) = true → f a value = f b value) :
    (entries.map fun entry => f entry.1 entry.2).sum =
      (keys.map fun key =>
        ((entries.find? (·.1 == key)).map (·.2)).elim 0 (f key)).sum := by
  induction entries with
  | nil => simp
  | cons head rest ih =>
      obtain ⟨apart, restDistinct⟩ := List.pairwise_cons.1 entriesDistinct
      have split : (keys.map fun key =>
          (((head :: rest).find? (·.1 == key)).map (·.2)).elim 0 (f key)) =
          keys.map fun key => (if head.1 == key then f head.1 head.2 else 0) +
            ((rest.find? (·.1 == key)).map (·.2)).elim 0 (f key) := by
        refine List.map_congr_left fun key _ => ?_
        by_cases same : (head.1 == key) = true
        · have absent : rest.find? (·.1 == key) = none := by
            refine List.find?_eq_none.2 fun entry mem => ?_
            rw [beq_congr_right (BEq.symm same), BEq.comm, apart entry mem]
            simp
          simp [same, absent, alike _ _ head.2 same]
        · simp [same]
      rw [split, List.sum_map_add,
        sum_single keysDistinct (listed head List.mem_cons_self),
        ← ih restDistinct fun entry mem => listed entry (List.mem_cons_of_mem _ mem)]
      rfl

/-- The sum over the entries is a sum over any distinct keys that have all of the map's keys. -/
theorem sum_entries (m : OrderedMap κ β) {keys : List κ}
    (distinct : keys.Pairwise fun a b => (a == b) = false)
    (listed : ∀ key, m.contains key = true → ∃ other ∈ keys, (key == other) = true)
    {f : κ → β → M} (alike : ∀ a b value, (a == b) = true → f a value = f b value) :
    (m.entries.map fun entry => f entry.1 entry.2).sum =
      (keys.map fun key => (m.get? key).elim 0 (f key)).sum := by
  refine sum_find? m.distinct distinct (fun entry mem => listed entry.1 ?_) alike
  rw [contains_eq_isSome, get?_self_of_mem mem]
  rfl

/-- Two sums over lists are taken in either order. -/
theorem sum_exchange {α γ : Type} (as : List α) (cs : List γ) (f : α → γ → M) :
    (as.map fun a => (cs.map fun c => f a c).sum).sum =
      (cs.map fun c => (as.map fun a => f a c).sum).sum := by
  induction as with
  | nil => simp
  | cons a rest ih => simp [ih, List.sum_map_add]

end Decomposition.OrderedMap
