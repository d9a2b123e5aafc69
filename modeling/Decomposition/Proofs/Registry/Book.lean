import Decomposition.Proofs.Formulation.Soundness
import Decomposition.Proofs.Registry.Operation

namespace Decomposition

/-- The perennial record of an entity of either kind. -/
inductive Perennial where
  | variable (data : VarData)
  | constraint (data : ConstrData)

/-- What a clone has from its origin. -/
structure Lineage where
  /-- The formulation in which the first entity of the uid was created. -/
  origin : Option Int
  name : String
  perennial : Perennial

/-- A plain value has no formulation of origin. -/
def Ref.origin : Ref → Option Int
  | .ident id => id.origin
  | .other _ => none

theorem Ref.toIdent_eq_ok_iff {ref : Ref} {id : Ident} :
    ref.toIdent = .ok id ↔ ref = .ident id := by
  cases ref <;> simp [toIdent]

namespace Element

def lineage : Element → Lineage
  | .variable v => ⟨v.id.origin, v.name, .variable v.perennial⟩
  | .constraint c => ⟨c.id.origin, c.name, .constraint c.perennial⟩

theorem id_copy (e : Element) (id : Ident) (flag : Flag) : (e.copy id flag).id = .ident id := by
  cases e <;> rfl

theorem lineage_copy {e : Element} {origin : Ident}
    (named : e.id = .ident origin) (duty : Duty) (form : Int) (flag : Flag) :
    (e.copy (origin.cloned duty form) flag).lineage = e.lineage := by
  rcases e with v | c
  · have own : v.id = origin := Ref.ident.inj named
    simp only [copy, lineage, Entity.copy_id, Entity.copy_perennial, own]
    rfl
  · have own : c.id = .ident origin := named
    simp only [copy, lineage, Entity.copy_id, Entity.copy_perennial, own]
    rfl

end Element

/-- The lineages of the uids that entities bear. A clone has that of its origin. -/
def Book : Type := EntityKind → Int → Option Lineage

namespace Book

/-- An entity is one of those that the book knows. -/
structure Knows (book : Book) (e : Element) : Prop where
  kinded : e.WellKinded
  written : ∀ id, e.id = .ident id → book id.kind id.uid = some e.lineage

def enter (book : Book) (id : Ident) (lineage : Lineage) : Book :=
  fun kind uid => if id.kind = kind ∧ id.uid = uid then some lineage else book kind uid

variable {book : Book} {e : Element}

theorem Knows.lasting : Formulation.Lasting book.Knows where
  ofVariable _ _ known := ⟨known.kinded, known.written⟩
  ofConstraint _ _ known := ⟨known.kinded, known.written⟩

theorem Knows.copy (known : book.Knows e) {origin : Ident} (named : e.id.toIdent = .ok origin)
    (duty : Duty) (form : Int) (flag : Flag) :
    book.Knows (e.copy (origin.cloned duty form) flag) where
  kinded := Element.wellKinded_copy known.kinded named duty form flag
  written id own := by
    have own : origin.cloned duty form = id := by
      rw [Element.id_copy] at own
      exact Ref.ident.inj own
    have same := Ref.toIdent_eq_ok_iff.1 named
    rw [← own, Element.lineage_copy same]
    exact known.written origin same

/-- The lineage is found under every identifier that is equal to the entity's own. -/
theorem Knows.lineage (known : book.Knows e) {id : Ident} (same : (e.id == Ref.ident id) = true) :
    book id.kind id.uid = some e.lineage := by
  obtain ⟨own, named⟩ := known.kinded.named
  rw [named, Ref.ident_beq_ident, Ident.beq_iff] at same
  rw [← same.1, ← same.2]
  exact known.written own named

/-- Entering a new uid changes nothing for the others. -/
theorem Knows.enter {id : Ident} (new : book id.kind id.uid = none) (lineage : Lineage)
    (known : book.Knows e) : (book.enter id lineage).Knows e where
  kinded := known.kinded
  written other own := by
    have before := known.written other own
    rw [Book.enter, if_neg, before]
    rintro ⟨kind, uid⟩
    rw [kind, uid, before] at new
    cases new

theorem knows_entered {id : Ident} (kinded : e.WellKinded) (own : e.id = .ident id) :
    (book.enter id e.lineage).Knows e where
  kinded := kinded
  written other same := by
    rw [own] at same
    cases same
    rw [enter, if_pos ⟨rfl, rfl⟩]

/-- Entities that the book knows may be stored, and no origins are noted. -/
def entries (book : Book) : Formulation.Permit where
  stores := book.Knows
  notes _ := False
  wellKinded _ known := known.kinded
  lasting := Knows.lasting
  copies _ _ duty form flag known named := known.copy named duty form flag

/-- Entities that the book knows may be stored if the source has their origins, which are noted. -/
def clones (book : Book) (source : Formulation) : Formulation.Permit where
  stores e := book.Knows e ∧ source.Holds e.id
  notes origin := origin.1 = source.uid ∧ source.Holds (.ident origin.2)
  wellKinded _ stored := stored.1.kinded
  lasting :=
    { ofVariable := fun _ _ stored => ⟨Knows.lasting.ofVariable _ _ stored.1, stored.2⟩
      ofConstraint := fun _ _ stored => ⟨Knows.lasting.ofConstraint _ _ stored.1, stored.2⟩ }
  copies e origin duty form flag stored named := by
    refine ⟨stored.1.copy named duty form flag, ?_⟩
    obtain ⟨found, look⟩ := stored.2
    rw [Ref.toIdent_eq_ok_iff.1 named] at look
    rw [Element.id_copy]
    have same : (origin == origin.cloned duty form) = true := Ident.beq_iff.2 ⟨rfl, rfl⟩
    exact ⟨found, Formulation.element_of_beq same look⟩

theorem notesFrom_clones (book : Book) (source : Formulation) :
    (book.clones source).NotesFrom source.uid := by
  intro e origin stored named
  have held := stored.2
  rw [Ref.toIdent_eq_ok_iff.1 named] at held
  exact ⟨rfl, held⟩

theorem allStored_clones {source : Formulation} (keyed : source.Keyed)
    (known : Formulation.AllStored book.Knows source) :
    Formulation.AllStored (book.clones source).stores source := by
  have held := keyed.allHeld (known.imp fun _ known => known.kinded)
  exact ⟨fun entry mem => ⟨known.ofVariable entry mem, held.ofVariable entry mem⟩,
    fun entry mem => ⟨known.ofConstraint entry mem, held.ofConstraint entry mem⟩⟩

end Book

end Decomposition
