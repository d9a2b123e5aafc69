namespace Decomposition

/-- A finite map in order of first insertion. Keys are compared by a Boolean equality that may be
coarser than equality, and no two entries have equal keys. -/
structure OrderedMap (κ β : Type) [BEq κ] where
  entries : List (κ × β)
  distinct : entries.Pairwise fun a b => (a.1 == b.1) = false

namespace OrderedMap
variable {κ β γ : Type} [BEq κ]

/-- The entry list after one write. A key that is present keeps its place and is not replaced. -/
def writeEntry (key : κ) (value : β) : List (κ × β) → List (κ × β)
  | [] => [(key, value)]
  | entry :: rest =>
      if entry.1 == key then (entry.1, value) :: rest else entry :: writeEntry key value rest

theorem mem_writeEntry_key {key : κ} {value : β} {entries : List (κ × β)} {entry : κ × β}
    (mem : entry ∈ writeEntry key value entries) :
    entry.1 = key ∨ ∃ old ∈ entries, old.1 = entry.1 := by
  induction entries with
  | nil => simp only [writeEntry, List.mem_singleton] at mem; exact Or.inl (by rw [mem])
  | cons head rest ih =>
      simp only [writeEntry] at mem
      split at mem
      · rcases List.mem_cons.1 mem with equal | inRest
        · exact Or.inr ⟨head, List.mem_cons_self, by rw [equal]⟩
        · exact Or.inr ⟨entry, List.mem_cons_of_mem _ inRest, rfl⟩
      · rcases List.mem_cons.1 mem with equal | inRest
        · exact Or.inr ⟨head, List.mem_cons_self, by rw [equal]⟩
        · rcases ih inRest with same | ⟨old, oldMem, same⟩
          · exact Or.inl same
          · exact Or.inr ⟨old, List.mem_cons_of_mem _ oldMem, same⟩

theorem writeEntry_distinct (key : κ) (value : β) {entries : List (κ × β)}
    (distinct : entries.Pairwise fun a b => (a.1 == b.1) = false) :
    (writeEntry key value entries).Pairwise fun a b => (a.1 == b.1) = false := by
  induction entries with
  | nil => simp [writeEntry]
  | cons head rest ih =>
      obtain ⟨apart, restDistinct⟩ := List.pairwise_cons.1 distinct
      simp only [writeEntry]
      split
      · exact List.pairwise_cons.2 ⟨apart, restDistinct⟩
      · refine List.pairwise_cons.2 ⟨fun entry mem => ?_, ih restDistinct⟩
        rcases mem_writeEntry_key mem with same | ⟨old, oldMem, same⟩
        · rw [same]; simp_all
        · rw [← same]; exact apart old oldMem

def empty : OrderedMap κ β := ⟨[], List.Pairwise.nil⟩

instance : Inhabited (OrderedMap κ β) := ⟨empty⟩
instance : EmptyCollection (OrderedMap κ β) := ⟨empty⟩

def insert (m : OrderedMap κ β) (key : κ) (value : β) : OrderedMap κ β :=
  ⟨writeEntry key value m.entries, writeEntry_distinct key value m.distinct⟩

/-- The key as stored, together with its value. -/
def binding? (m : OrderedMap κ β) (key : κ) : Option (κ × β) :=
  m.entries.find? (·.1 == key)

def get? (m : OrderedMap κ β) (key : κ) : Option β := (m.binding? key).map (·.2)

def getD (m : OrderedMap κ β) (key : κ) (fallback : β) : β := (m.get? key).getD fallback

def contains (m : OrderedMap κ β) (key : κ) : Bool := m.entries.any (·.1 == key)

def filter (m : OrderedMap κ β) (keep : κ → β → Bool) : OrderedMap κ β :=
  ⟨m.entries.filter fun entry => keep entry.1 entry.2, m.distinct.filter _⟩

def erase (m : OrderedMap κ β) (key : κ) : OrderedMap κ β :=
  m.filter fun other _ => !(other == key)

/-- An absent key is entered with the given value, a present one is left alone. -/
def insertIfNew (m : OrderedMap κ β) (key : κ) (value : β) : OrderedMap κ β :=
  if m.contains key then m else m.insert key value

/-- The value of every entry is replaced, with the key at hand. -/
def map (m : OrderedMap κ β) (f : κ → β → γ) : OrderedMap κ γ :=
  ⟨m.entries.map fun entry => (entry.1, f entry.1 entry.2),
    List.pairwise_map.2 m.distinct⟩

/-- The value under a present key is changed in place. -/
def modify (m : OrderedMap κ β) (key : κ) (f : β → β) : OrderedMap κ β :=
  m.map fun other value => if other == key then f value else value

def size (m : OrderedMap κ β) : Nat := m.entries.length
def keys (m : OrderedMap κ β) : List κ := m.entries.map (·.1)
def values (m : OrderedMap κ β) : List β := m.entries.map (·.2)

def insertAll (m : OrderedMap κ β) (entries : List (κ × β)) : OrderedMap κ β :=
  entries.foldl (fun m entry => m.insert entry.1 entry.2) m

/-- Later entries overwrite earlier ones under the same key. -/
def ofList (entries : List (κ × β)) : OrderedMap κ β := empty.insertAll entries

end OrderedMap

end Decomposition
