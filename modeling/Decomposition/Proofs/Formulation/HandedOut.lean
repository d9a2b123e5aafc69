import Decomposition.Proofs.Formulation.Additions
import Decomposition.Proofs.Formulation.Clone

namespace Decomposition

/-- The duty that a key carries. -/
def RefKey.duty? {κ : Type} [RefKey κ] (key : κ) : Option Duty :=
  match RefKey.toRef key with
  | .ident id => some id.duty
  | .other _ => none

theorem RefKey.duty?_of_toRef {κ : Type} [RefKey κ] {key : κ} {id : Ident}
    (named : RefKey.toRef key = .ident id) : RefKey.duty? key = some id.duty := by
  rw [RefKey.duty?, named]

namespace Formulation.Selection
variable {κ δ : Type} [RefKey κ] [EntityRecord δ]

/-- The selection of a category. -/
def ofCategory (category : Category) : Selection κ δ := ⟨some category, none, false⟩

/-- The stored entities decide. -/
theorem keys_ofCategory (category : Category) {entries : List (κ × Entity κ δ)}
    (identified : ∀ entry ∈ entries, ∃ id, RefKey.toRef entry.2.id = .ident id) :
    (ofCategory category).keys entries =
      .ok ((entries.filter fun entry => (RefKey.duty? entry.2.id).any category).map (·.1)) := by
  induction entries with
  | nil => rfl
  | cons entry rest ih =>
      obtain ⟨id, named⟩ := identified entry List.mem_cons_self
      have others := ih fun other mem => identified other (List.mem_cons_of_mem _ mem)
      have kept : (ofCategory category).keeps entry.2 = .ok (category id.duty) := by
        have duty : entry.2.duty = .ok id.duty := by
          rw [Entity.duty, Entity.ref, named]
          rfl
        cases fits : category id.duty <;>
          simp [keeps, fitsCategory, ofCategory, duty, fits, bind, Except.bind, Except.map]
      rw [keys, kept, others, List.filter_cons, RefKey.duty?_of_toRef named]
      cases fits : category id.duty <;> simp [bind, Except.bind, fits]

end Formulation.Selection

namespace Store
variable {κ δ : Type} [BEq κ] [EquivBEq κ] [RefKey κ] [EntityRecord δ]
variable {s : Store κ (Entity κ δ)}

/-- Every key carries the duty of the entity that stands under it. A store keeps the first of equal
keys, so an entity that takes the place of another one with a different duty breaks this. -/
def KeysTell (s : Store κ (Entity κ δ)) : Prop :=
  ∀ entry ∈ s.entries, RefKey.duty? entry.1 = RefKey.duty? entry.2.id

/-- Every key that the selection of a category hands out carries a duty of the category, and the
entity that stands under it has the same. -/
def HandsOutOwn (s : Store κ (Entity κ δ)) (category : Category) : Prop :=
  ∀ keys, (Formulation.Selection.ofCategory category).keys s.entries = .ok keys → ∀ key ∈ keys,
    ∃ duty e, RefKey.duty? key = some duty ∧ category duty = true ∧
      s.get? key = some e ∧ RefKey.duty? e.id = some duty

/-- The entity that is stored has to have the duty of the key that is there already, if any. -/
theorem keysTell_set_iff (tell : s.KeysTell) (e : Entity κ δ) :
    (s.set e.id e).KeysTell ↔
      ∀ key ∈ s.ids, (key == e.id) = true → RefKey.duty? key = RefKey.duty? e.id := by
  constructor
  · -- A key that is there already stays, with the new entity under it.
    intro told key listed same
    have kept : key ∈ (s.set e.id e).ids := (s.members.keys_insert e.id e).subset listed
    obtain ⟨entry, mem, rfl⟩ := List.mem_map.1 kept
    rcases mem_set mem with ⟨_, stored⟩ | ⟨apart, _⟩
    · rw [told entry mem, stored]
    · rw [BEq.symm same] at apart
      cases apart
  · intro fits entry mem
    rcases mem_set mem with ⟨same, stored⟩ | ⟨_, old⟩
    · -- The entity comes under an old key or under its own identifier.
      rw [stored]
      rcases mem_ids_set (List.mem_map_of_mem mem) with listed | new
      · exact fits entry.1 listed (BEq.symm same)
      · rw [new]
    · exact tell entry old

/-- What is handed out is right for every category exactly if all keys are. -/
theorem handsOutOwn_iff
    (identified : ∀ entry ∈ s.entries, ∃ id, RefKey.toRef entry.2.id = .ident id) :
    (∀ category, s.HandsOutOwn category) ↔ s.KeysTell := by
  constructor
  · intro own entry mem
    obtain ⟨id, named⟩ := identified entry mem
    have told := RefKey.duty?_of_toRef named
    have listed := Formulation.Selection.keys_ofCategory (fun _ => true) identified
    obtain ⟨duty, e, carried, _, found, own⟩ :=
      own (fun _ => true) _ listed entry.1 (List.mem_map_of_mem (by simp [mem, told]))
    have stored : s.get? entry.1 = some entry.2 := OrderedMap.get?_self_of_mem mem
    rw [stored] at found
    cases found
    rw [carried, own]
  · intro tell category keys listed key handed
    rw [Formulation.Selection.keys_ofCategory category identified] at listed
    cases listed
    obtain ⟨entry, kept, rfl⟩ := List.mem_map.1 handed
    obtain ⟨mem, fits⟩ := List.mem_filter.1 kept
    cases told : RefKey.duty? entry.2.id with
    | none =>
        rw [told] at fits
        cases fits
    | some duty =>
        rw [told] at fits
        exact ⟨duty, entry.2, (tell entry mem).trans told, fits,
          OrderedMap.get?_self_of_mem mem, told⟩

end Store

namespace Formulation

/-- Every key of both stores carries the duty of its entity. -/
structure KeysTell (f : Formulation) : Prop where
  vars : f.vars.KeysTell
  constrs : f.constrs.KeysTell

/-- The key that an entity comes under, if it is there already, carries the entity's duty. -/
def Fits (f : Formulation) : Element → Prop
  | .variable v => ∀ key ∈ f.vars.ids, (key == v.id) = true → key.duty = v.id.duty
  | .constraint c =>
      ∀ key ∈ f.constrs.ids, (key == c.id) = true → RefKey.duty? key = RefKey.duty? c.id

/-- The stores after an entity has been put into its own. -/
structure Puts (f : Formulation) (e : Element) (g : Formulation) : Prop where
  vars : g.vars = (f.storing e).vars
  constrs : g.constrs = (f.storing e).constrs

/-- An operation stores one entity and no other. -/
inductive StoresOne (f : Formulation) : Operation → Element → Prop
  | add (e : Element) (membership : Option Values) (kinded : e.WellKinded) :
      StoresOne f (.add (.element e) membership) e
  | createVariable (uid : Int) (draft : Draft VarData) (column : Option Values) :
      StoresOne f (.createVariable uid draft column) (.variable (f.madeVariable uid draft))
  | createConstraint (uid : Int) (draft : Draft ConstrData) (row : Option Values) :
      StoresOne f (.createConstraint uid draft row) (.constraint (f.madeConstraint uid draft))
  | cloneElement (source : Int) (e : Element) (mark : Mark) (kinded : e.WellKinded) :
      StoresOne f (.cloneElement source e mark) (mark.clone f.uid e)
  | cloneFrom (src : Formulation) (mark : Mark) (id : Ident) (e : Element)
      (kinded : e.WellKinded) (found : src.element (.ident id) = .ok e) :
      StoresOne f (.cloneFrom src mark [.ident id]) (mark.clone f.uid e)
  | cloneWithin (mark : Mark) (id : Ident) (e : Element) (kinded : e.WellKinded)
      (found : f.element (.ident id) = .ok e) :
      StoresOne f (.cloneWithin mark [.ident id]) (mark.clone f.uid e)

section Storing
variable {f g : Formulation} {e : Element}

theorem writeCoefficients_vars (f : Formulation) (m : Except Fault (Relation Ref Float)) :
    (f.writeCoefficients m).state.vars = f.vars := by
  cases m <;> rfl

theorem writeCoefficients_constrs (f : Formulation) (m : Except Fault (Relation Ref Float)) :
    (f.writeCoefficients m).state.constrs = f.constrs := by
  cases m <;> rfl

theorem puts_addElement (key : e.id.isKey = true) (membership : Option Values) :
    Puts f e (f.addElement e membership).state := by
  rw [addElement_eq key]
  exact ⟨rfl, rfl⟩

theorem copy_eq_clone {origin : Ident} (found : e.id.toIdent = .ok origin) (mark : Mark)
    (form : Int) : e.copy (origin.cloned mark.duty form) mark.flag = mark.clone form e := by
  rcases e with v | c
  · cases found
    rfl
  · have found : c.id.toIdent = .ok origin := found
    cases own : c.id with
    | other d =>
        rw [own] at found
        cases found
    | ident id =>
        rw [own] at found
        cases found
        simp [Element.copy, Mark.clone, Ref.cloned, own]

/-- A clone is stored in any case, also when the relation refuses it. -/
theorem puts_cloneElement (kinded : e.WellKinded) (source : Int) (mark : Mark) :
    Puts f (mark.clone f.uid e) (f.cloneElement source e mark).state := by
  obtain ⟨origin, own⟩ := Element.WellKinded.named kinded
  have found : e.id.toIdent = .ok origin := by rw [own]; rfl
  have key : (mark.clone f.uid e).id.isKey = true := by
    rw [← copy_eq_clone found]
    cases e <;> rfl
  have added : Puts f (mark.clone f.uid e) (f.addElement (mark.clone f.uid e) none).state :=
    puts_addElement key none
  unfold cloneElement
  rw [found]
  dsimp only
  rw [copy_eq_clone found]
  exact Outcome.andThen_state added fun _ _ => ⟨added.vars, added.constrs⟩

theorem puts_cloneOne {src : Formulation} {id : Ident} (kinded : e.WellKinded)
    (found : src.element (.ident id) = .ok e) (mark : Mark) :
    Puts f (mark.clone f.uid e) (cloneOne src f mark (.ident id)).state := by
  have cloned : Puts f (mark.clone f.uid e) (f.cloneElement src.uid e mark).state :=
    puts_cloneElement kinded src.uid mark
  unfold cloneOne
  rw [found]
  dsimp only
  apply Outcome.andThen_state cloned
  intro copy _
  exact ⟨(writeCoefficients_vars _ _).trans cloned.vars,
    (writeCoefficients_constrs _ _).trans cloned.constrs⟩

theorem keysTell_puts (tell : f.KeysTell) (puts : Puts f e g) : g.KeysTell ↔ f.Fits e := by
  rcases e with v | c
  · have stored := Store.keysTell_set_iff tell.vars v
    have vars : g.vars = f.vars.set v.id v := puts.vars
    have constrs : g.constrs = f.constrs := puts.constrs
    constructor
    · intro told key listed same
      exact Option.some.inj (stored.1 (vars ▸ told.vars) key listed same)
    · intro fits
      constructor
      · rw [vars, stored]
        intro key listed same
        exact congrArg some (fits key listed same)
      · rw [constrs]
        exact tell.constrs
  · have stored := Store.keysTell_set_iff tell.constrs c
    have vars : g.vars = f.vars := puts.vars
    have constrs : g.constrs = f.constrs.set c.id c := puts.constrs
    constructor
    · intro told
      exact stored.1 (constrs ▸ told.constrs)
    · intro fits
      constructor
      · rw [vars]
        exact tell.vars
      · rw [constrs, stored]
        exact fits

theorem StoresOne.puts {op : Operation} (one : StoresOne f op e) : Puts f e (op.after f) := by
  cases one with
  | add _ membership kinded => exact puts_addElement kinded.isKey membership
  | createVariable uid draft column =>
      rw [Operation.after, createVariable_state]
      exact puts_addElement rfl column
  | createConstraint uid draft row =>
      rw [Operation.after, createConstraint_state]
      exact puts_addElement rfl row
  | cloneElement source e mark kinded => exact puts_cloneElement kinded source mark
  | cloneFrom src mark id e kinded found =>
      have first := puts_cloneOne (f := f) kinded found mark
      exact Outcome.andThen_state first fun _ _ => first
  | cloneWithin mark id e kinded found =>
      have first := puts_cloneOne (f := f) kinded found mark
      exact Outcome.andThen_state first fun _ _ => first

end Storing

/-- An identifier carries the duty that its uid has by the roles. -/
def Plays (role : EntityKind → Int → Duty) (ref : Ref) : Prop :=
  ∀ id, ref = .ident id → id.duty = role id.kind id.uid

/-- All keys and all entities have the duties that their uids have by the roles. -/
structure Roled (role : EntityKind → Int → Duty) (f : Formulation) : Prop where
  vars : ∀ key ∈ f.vars.ids, Plays role (.ident key)
  constrs : ∀ ref ∈ f.constrs.ids, Plays role ref
  stored : AllStored (fun e => Plays role e.id) f

/-- What the operation stores has the duty that its uid has by the roles. -/
def Operation.Casts (role : EntityKind → Int → Duty) : Operation → Prop
  | .createVariable uid draft _ => draft.duty = role .variable uid
  | .createConstraint uid draft _ => draft.duty = role .constraint uid
  | .cloneElement _ e mark => ∀ id, e.id = .ident id → mark.duty = role id.kind id.uid
  | .cloneFrom _ mark refs | .cloneWithin mark refs =>
      ∀ id, Ref.ident id ∈ refs → mark.duty = role id.kind id.uid
  | op => op.Gives fun e => Plays role e.id

/-- The formulations that histories lead to in which every uid keeps its role. What is cloned may
come from anywhere, and have had another duty there. -/
inductive CastBy (role : EntityKind → Int → Duty) : Formulation → Prop
  | empty (uid : Int) (duty : FormDuty) (parent : Option Int) :
      CastBy role (.empty uid duty parent)
  | step {f : Formulation} (here : CastBy role f) (op : Operation) (kinded : op.WellKinded)
      (casts : op.Casts role) (source : ∀ g, op.source? = some g → Reachable g) :
      CastBy role (op.after f)

/-- Nothing may be stored. -/
def Permit.nothing : Permit where
  stores _ := False
  notes _ := True
  wellKinded _ stored := stored.elim
  lasting := ⟨fun _ _ stored => stored, fun _ _ stored => stored⟩
  copies _ _ _ _ _ stored _ := stored

section Roles
variable {role : EntityKind → Int → Duty} {f g src : Formulation} {e : Element} {mark : Mark}

/-- Equal identifiers play the same role. -/
theorem duty_eq_of_plays {a b : Ident} (same : (a == b) = true) (first : Plays role (.ident a))
    (second : Plays role (.ident b)) : a.duty = b.duty := by
  obtain ⟨kinds, uids⟩ := Ident.beq_iff.1 same
  rw [first a rfl, second b rfl, kinds, uids]

theorem Roled.keysTell (roled : Roled role f) (sound : Sound f) : f.KeysTell := by
  constructor
  · intro entry mem
    have same := sound.keyed.ofVariable entry mem
    have keyPlays := roled.vars entry.1 (List.mem_map_of_mem mem)
    exact congrArg some (duty_eq_of_plays same keyPlays (roled.stored.ofVariable entry mem))
  · intro entry mem
    obtain ⟨id, own, _⟩ := sound.kinded.ofConstraint entry mem
    have own : entry.2.id = .ident id := own
    have same : (entry.1 == entry.2.id) = true := sound.keyed.ofConstraint entry mem
    have plays : Plays role entry.2.id := roled.stored.ofConstraint entry mem
    have keyPlays := roled.constrs entry.1 (List.mem_map_of_mem mem)
    rw [own] at same plays ⊢
    cases key : entry.1 with
    | other d =>
        rw [key, BEq.comm, Ref.ident_beq_other] at same
        cases same
    | ident x =>
        rw [key, Ref.ident_beq_ident] at same
        rw [key] at keyPlays
        exact congrArg some (duty_eq_of_plays same keyPlays plays)

theorem Roled.puts (roled : Roled role f) (plays : Plays role e.id) (puts : Puts f e g) :
    Roled role g := by
  rcases e with v | c
  · have vars : g.vars = f.vars.set v.id v := puts.vars
    have constrs : g.constrs = f.constrs := puts.constrs
    constructor
    · intro key mem
      rw [vars] at mem
      rcases Store.mem_ids_set mem with old | rfl
      · exact roled.vars key old
      · exact plays
    · rw [constrs]
      exact roled.constrs
    · constructor
      · intro entry mem
        rw [vars] at mem
        rcases Store.mem_set mem with ⟨_, same⟩ | ⟨_, old⟩
        · rw [same]
          exact plays
        · exact roled.stored.ofVariable entry old
      · rw [constrs]
        exact roled.stored.ofConstraint
  · have vars : g.vars = f.vars := puts.vars
    have constrs : g.constrs = f.constrs.set c.id c := puts.constrs
    constructor
    · rw [vars]
      exact roled.vars
    · intro ref mem
      rw [constrs] at mem
      rcases Store.mem_ids_set mem with old | rfl
      · exact roled.constrs ref old
      · exact plays
    · constructor
      · rw [vars]
        exact roled.stored.ofVariable
      · intro entry mem
        rw [constrs] at mem
        rcases Store.mem_set mem with ⟨_, same⟩ | ⟨_, old⟩
        · rw [same]
          exact plays
        · exact roled.stored.ofConstraint entry old

/-- Without a new entity, keys and identifiers stay. -/
theorem Roled.change (roled : Roled role f) (change : Change .nothing f g) : Roled role g := by
  have stored : AllStored (fun e => Plays role e.id) g :=
    change.allStored ⟨fun _ _ plays => plays, fun _ _ plays => plays⟩
      (fun _ stores => stores.elim) roled.stored
  cases change with
  | storeVariable v permitted | storeConstraint c permitted => exact permitted.elim
  | currentVariable ref values =>
      exact ⟨by simpa using roled.vars, roled.constrs, stored⟩
  | currentConstraint ref values =>
      exact ⟨roled.vars, by simpa using roled.constrs, stored⟩
  | writeCells | freeze | noteOrigin | note => exact ⟨roled.vars, roled.constrs, stored⟩

theorem Roled.changes (roled : Roled role f) (changes : Changes .nothing f g) : Roled role g := by
  induction changes with
  | refl => exact roled
  | tail _ change ih => exact ih.change change

theorem Roled.add (roled : Roled role f) {given : Given} (kinded : given.WellKinded)
    (plays : given.Has fun e => Plays role e.id) (membership : Option Values) :
    Roled role (f.add given membership).state := by
  cases given with
  | element e =>
      exact roled.puts plays (puts_addElement (Element.WellKinded.isKey kinded) membership)
  | other d => exact roled

theorem Roled.addEach (roled : Roled role f) {additions : List (Given × Option Values)}
    (kinded : ∀ addition ∈ additions, addition.1.WellKinded)
    (plays : ∀ addition ∈ additions, addition.1.Has fun e => Plays role e.id) :
    Roled role (f.addEach additions).state :=
  Outcome.forEach_state roled fun _ addition mem here =>
    here.add (kinded addition mem) (plays addition mem) addition.2

theorem Roled.addAll (roled : Roled role f) {elements : List Given}
    (kinded : ∀ given ∈ elements, given.WellKinded)
    (plays : ∀ given ∈ elements, given.Has fun e => Plays role e.id)
    (memberships : Option (List (Option Values))) :
    Roled role (f.addAll elements memberships).state := by
  cases memberships with
  | none =>
      apply roled.addEach
      · simpa using kinded
      · simpa using plays
  | some members =>
      rw [Formulation.addAll]
      split
      · exact roled.addEach (fun _ mem => kinded _ (List.of_mem_zip mem).1)
          fun _ mem => plays _ (List.of_mem_zip mem).1
      · exact roled

/-- A clone plays the role if its mark is of that duty. -/
theorem plays_clone (casts : ∀ id, e.id = .ident id → mark.duty = role id.kind id.uid)
    (form : Int) : Plays role (mark.clone form e).id := by
  rcases e with v | c
  · rintro _ ⟨⟩
    exact casts v.id rfl
  · intro id same
    have same : c.id.cloned mark.duty form = .ident id := same
    cases own : c.id with
    | other d =>
        rw [own] at same
        cases same
    | ident origin =>
        rw [own] at same
        cases same
        exact casts origin own

/-- Source and clone have the same uid, so the clone's role is that of the listed identifier. -/
theorem Roled.cloneOne (roled : Roled role g) (source : Sound src) {ref : Ref}
    (casts : ∀ id, ref = .ident id → mark.duty = role id.kind id.uid) :
    Roled role (Formulation.cloneOne src g mark ref).state := by
  cases ref with
  | other d => exact roled
  | ident id =>
      cases found : src.element (.ident id) with
      | error fault =>
          have refused : Formulation.cloneOne src g mark (.ident id) = .refuse g fault := by
            simp [Formulation.cloneOne, found]
          rw [refused]
          exact roled
      | ok e =>
          have kinded := source.kinded.element found
          refine roled.puts (plays_clone (fun origin own => ?_) _) (puts_cloneOne kinded found mark)
          have same := source.keyed.element found
          rw [own, Ref.ident_beq_ident] at same
          obtain ⟨kinds, uids⟩ := Ident.beq_iff.1 same
          rw [kinds, uids]
          exact casts id rfl

theorem Roled.cloneInto (roled : Roled role g) (source : Sound src) {refs : List Ref}
    (casts : ∀ id, Ref.ident id ∈ refs → mark.duty = role id.kind id.uid) :
    Roled role (src.cloneInto g mark refs).state := by
  induction refs generalizing g with
  | nil => exact roled
  | cons ref rest ih =>
      have first : Roled role (Formulation.cloneOne src g mark ref).state := by
        apply roled.cloneOne source
        rintro id rfl
        exact casts id List.mem_cons_self
      apply Outcome.andThen_state first
      intro copy _
      exact ih first fun id mem => casts id (List.mem_cons_of_mem _ mem)

/-- The formulation stays sound along the way, so each clone is read as before. -/
theorem Roled.cloneWithin (roled : Roled role f) (sound : Sound f) {refs : List Ref}
    (casts : ∀ id, Ref.ident id ∈ refs → mark.duty = role id.kind id.uid) :
    Roled role (f.cloneWithin mark refs).state := by
  induction refs generalizing f with
  | nil => exact roled
  | cons ref rest ih =>
      have first : Roled role (Formulation.cloneOne f f mark ref).state := by
        apply roled.cloneOne sound
        rintro id rfl
        exact casts id List.mem_cons_self
      apply Outcome.andThen_state first
      intro copy _
      exact ih first (sound.cloneOne sound mark ref) fun id mem =>
        casts id (List.mem_cons_of_mem _ mem)

theorem CastBy.reachable (cast : CastBy role f) : Reachable f := by
  induction cast with
  | empty uid duty parent => exact .empty uid duty parent
  | step _ op kinded _ source ih => exact .step ih op kinded source

theorem roled_empty (uid : Int) (duty : FormDuty) (parent : Option Int) :
    Roled role (.empty uid duty parent) where
  vars _ mem := nomatch mem
  constrs _ mem := nomatch mem
  stored := allStored_empty _ uid duty parent

/-- One operation that casts by the roles keeps them. -/
theorem Roled.after (roled : Roled role f) (sound : Sound f) {op : Operation}
    (kinded : op.WellKinded) (casts : op.Casts role)
    (source : ∀ g, op.source? = some g → Reachable g) : Roled role (op.after f) := by
  cases op with
  | add given membership => exact roled.add kinded casts membership
  | addAll elements memberships => exact roled.addAll kinded casts memberships
  | createVariable uid draft column =>
      refine roled.puts ?_ (StoresOne.createVariable uid draft column).puts
      rintro _ ⟨⟩
      exact casts
  | createConstraint uid draft row =>
      refine roled.puts ?_ (StoresOne.createConstraint uid draft row).puts
      rintro _ ⟨⟩
      exact casts
  | cloneElement origin e mark =>
      exact roled.puts (plays_clone casts f.uid) (puts_cloneElement kinded origin mark)
  | cloneFrom other mark refs => exact roled.cloneInto (source other rfl).sound casts
  | cloneWithin mark refs => exact roled.cloneWithin sound casts
  | _ => exact roled.changes (Operation.Quiet.changes trivial)

theorem CastBy.roled (cast : CastBy role f) : Roled role f := by
  induction cast with
  | empty uid duty parent => exact roled_empty uid duty parent
  | step here op kinded casts source ih => exact ih.after here.reachable.sound kinded casts source

end Roles

theorem vars_identified (f : Formulation) :
    ∀ entry ∈ f.vars.entries, ∃ id, RefKey.toRef entry.2.id = .ident id :=
  fun entry _ => ⟨entry.2.id, rfl⟩

theorem Sound.constrs_identified {f : Formulation} (sound : Sound f) :
    ∀ entry ∈ f.constrs.entries, ∃ id, RefKey.toRef entry.2.id = .ident id := by
  intro entry mem
  obtain ⟨id, own, _⟩ := sound.kinded.ofConstraint entry mem
  exact ⟨id, own⟩

/-- A selection by duty hands out the keys of the stored entities that have it. These carry the same
duty for all categories exactly if every key carries that of its entity. An entity that is stored
breaks this exactly if it comes under a key with another duty, so it holds after every history in
which each uid keeps its role. -/
theorem handedOut_of_reachable {f : Formulation} (reached : Reachable f) :
    (∀ category, f.varIds (.ofCategory category) =
      .ok ((f.vars.entries.filter fun entry => category entry.2.id.duty).map (·.1))) ∧
    (∀ category, f.constrIds (.ofCategory category) =
      .ok ((f.constrs.entries.filter fun entry =>
        (RefKey.duty? entry.2.id).any category).map (·.1))) ∧
    ((∀ category, f.vars.HandsOutOwn category ∧ f.constrs.HandsOutOwn category) ↔ f.KeysTell) ∧
    (∀ op e, StoresOne f op e → f.KeysTell → ((op.after f).KeysTell ↔ f.Fits e)) ∧
    ∀ role, f.CastBy role → f.KeysTell := by
  have sound := reached.sound
  have constrs := sound.constrs_identified
  refine ⟨fun category => Selection.keys_ofCategory category f.vars_identified,
    fun category => Selection.keys_ofCategory category constrs, ?_,
    fun op e one tell => keysTell_puts tell one.puts, fun role cast => cast.roled.keysTell sound⟩
  rw [forall_and, Store.handsOutOwn_iff f.vars_identified, Store.handsOutOwn_iff constrs]
  exact ⟨fun both => ⟨both.1, both.2⟩, fun tell => ⟨tell.vars, tell.constrs⟩⟩

/-- A variable with the uid 1 and a duty. -/
def firstVariable (duty : Duty) : Element :=
  .variable (Entity.make ⟨.variable, 1, duty, none, none⟩ "x" .plain .static)

/-- A variable that was given and a constraint that was made. -/
def castProgram : Formulation :=
  run (.empty 1 .dwMaster none)
    [.add (.element (firstVariable .masterPureVar)) none,
      .createConstraint 1 ⟨"", .masterConvexityConstr, .plain, .static⟩ none]

/-- What is handed out is right until a column takes the place of the variable. -/
theorem handedOut_castProgram :
    let column := Operation.add (.element (firstVariable .masterCol)) none
    Reachable castProgram ∧
      (∀ category, castProgram.vars.HandsOutOwn category ∧
        castProgram.constrs.HandsOutOwn category) ∧
      ¬ (column.after castProgram).KeysTell := by
  intro column
  let role : EntityKind → Int → Duty
    | .variable, _ => .masterPureVar
    | .constraint, _ => .masterConvexityConstr
  have given : CastBy role
      ((Operation.add (.element (firstVariable .masterPureVar)) none).after
        (.empty 1 .dwMaster none)) :=
    .step (.empty 1 .dwMaster none) _ rfl (by rintro _ ⟨⟩; rfl) (fun _ read => nomatch read)
  have cast : CastBy role castProgram := .step given
    (.createConstraint 1 ⟨"", .masterConvexityConstr, .plain, .static⟩ none) trivial rfl
    (fun _ read => nomatch read)
  obtain ⟨_, _, own, stored, roles⟩ := handedOut_of_reachable cast.reachable
  have tell := roles role cast
  refine ⟨cast.reachable, own.2 tell, fun told => ?_⟩
  have fits := (stored column _ (.add (firstVariable .masterCol) none rfl) tell).1 told
  cases fits ⟨.variable, 1, .masterPureVar, none, none⟩ List.mem_cons_self rfl

/-- The column that takes the place of a variable is handed out under the variable's duty. -/
theorem overwritten_key_keeps_duty :
    let f := run (.empty 1 .dwMaster none)
      [.add (.element (firstVariable .masterPureVar)) none,
        .add (.element (firstVariable .masterCol)) none]
    let columns : Category := .ofList [.masterCol]
    (∃ id, f.varIds (.ofCategory columns) = .ok [id] ∧ id.duty = .masterPureVar ∧
      columns id.duty = false ∧ ∃ v, f.vars.get? id = some v ∧ v.id.duty = .masterCol) ∧
      ¬ f.vars.HandsOutOwn columns := by
  intro f columns
  have handed : f.varIds (.ofCategory columns) =
      .ok [⟨.variable, 1, .masterPureVar, none, none⟩] := rfl
  refine ⟨⟨_, handed, rfl, rfl, _, rfl, rfl⟩, fun own => ?_⟩
  obtain ⟨duty, _, carried, inCategory, _⟩ := own _ handed _ List.mem_cons_self
  cases carried
  cases inCategory

end Formulation

end Decomposition
