/-
Profiles as objects.

A profile refers to its activation, and an activation to its condition on a
property. The profile itself stays as it is, but the other two can be changed in
place by whoever holds a reference, and several profiles may share one. `Store`
keeps them, each at its place; `Store.profile` reads off what a profile comes to.

Objects are made by `Store.addAll`: they stand for the given profiles, share
nothing and leave the others as they are (`made_addAll`). They are changed by
`Store.amend`, which shows in one of several that share nothing and in no other
(`map_profile_amendAll`). A reference that leads to nothing is read as none.
-/
import BuildProfiles.Profile

namespace BuildProfiles

/-- An activation, which refers to its condition on a property. -/
structure Activation.Cell where
  activeByDefault : Bool
  property : Option Nat
  jdk : Option Text
  deriving DecidableEq, Repr

/-- The activation with what is said. A condition stays where it is, or is dropped. -/
def Activation.Cell.holding (cell : Activation.Cell) (activation : Activation) : Activation.Cell where
  activeByDefault := activation.activeByDefault
  property := activation.property.bind fun _ => cell.property
  jdk := activation.jdk

/-- A profile, which refers to its activation. -/
structure Profile.Object where
  id : Text
  source : Text
  activation : Option Nat := none
  location : Option Location
  deriving DecidableEq, Repr

/-- What can be changed in place. -/
structure Store where
  activations : List Activation.Cell := []
  conditions : List PropertyCondition := []
  deriving DecidableEq, Repr

namespace Store

variable {store mid after : Store} {object other : Profile.Object} {objects : List Profile.Object}

/-! ## Reading -/

def read (store : Store) (cell : Activation.Cell) : Activation where
  activeByDefault := cell.activeByDefault
  property := cell.property.bind (store.conditions[·]?)
  jdk := cell.jdk

def cell? (store : Store) (object : Profile.Object) : Option Activation.Cell :=
  object.activation.bind (store.activations[·]?)

/-- The place of the condition that a profile has by way of its activation. -/
def condition? (store : Store) (object : Profile.Object) : Option Nat :=
  (store.cell? object).bind (·.property)

/-- The profile as it stands. -/
def profile (store : Store) (object : Profile.Object) : Profile where
  id := object.id
  source := object.source
  activation := (store.cell? object).map store.read
  location := object.location

theorem profile_congr (hcell : after.cell? object = store.cell? object)
    (hcondition : ∀ place, store.condition? object = some place →
      after.conditions[place]? = store.conditions[place]?) :
    after.profile object = store.profile object := by
  unfold profile
  rw [hcell]
  cases h : store.cell? object with
  | none => rfl
  | some cell =>
    have hproperty : cell.property.bind (after.conditions[·]?) =
        cell.property.bind (store.conditions[·]?) := by
      cases hplace : cell.property with
      | none => rfl
      | some place => exact hcondition place (by rw [condition?, h, Option.bind_some, hplace])
    simp only [Option.map_some, read, hproperty]

/-! ## Growing -/

/-- None of the references of the object is bad. -/
structure Sound (store : Store) (object : Profile.Object) : Prop where
  activation : ∀ place, object.activation = some place → place < store.activations.length
  condition : ∀ place, store.condition? object = some place → place < store.conditions.length

/-- What the one store holds is in the other, at the same places. -/
structure Extends (store after : Store) : Prop where
  activations : store.activations <+: after.activations
  conditions : store.conditions <+: after.conditions

/-- The part of a store that was in an earlier one. -/
def upTo (after store : Store) : Store :=
  ⟨after.activations.take store.activations.length, after.conditions.take store.conditions.length⟩

namespace Extends

theorem refl (store : Store) : store.Extends store := ⟨List.prefix_rfl, List.prefix_rfl⟩

theorem trans (h : store.Extends mid) (h' : mid.Extends after) : store.Extends after :=
  ⟨h.activations.trans h'.activations, h.conditions.trans h'.conditions⟩

theorem upTo_eq (h : store.Extends after) : after.upTo store = store := by
  rw [upTo, ← List.prefix_iff_eq_take.1 h.activations, ← List.prefix_iff_eq_take.1 h.conditions]

theorem getElem?_activations (h : store.Extends after) {place : Nat}
    (hplace : place < store.activations.length) :
    after.activations[place]? = store.activations[place]? := by
  obtain ⟨cells, hcells⟩ := h.activations
  rw [← hcells, List.getElem?_append_left hplace]

theorem getElem?_conditions (h : store.Extends after) {place : Nat}
    (hplace : place < store.conditions.length) :
    after.conditions[place]? = store.conditions[place]? := by
  obtain ⟨contents, hcontents⟩ := h.conditions
  rw [← hcontents, List.getElem?_append_left hplace]

theorem cell? (h : store.Extends after) (sound : store.Sound object) :
    after.cell? object = store.cell? object := by
  unfold Store.cell?
  cases hplace : object.activation with
  | none => rfl
  | some place => exact h.getElem?_activations (sound.activation place hplace)

theorem condition? (h : store.Extends after) (sound : store.Sound object) :
    after.condition? object = store.condition? object := by
  rw [Store.condition?, h.cell? sound, Store.condition?]

theorem profile (h : store.Extends after) (sound : store.Sound object) :
    after.profile object = store.profile object :=
  profile_congr (h.cell? sound) fun place hplace => h.getElem?_conditions (sound.condition place hplace)

end Extends

/-! ## Making objects -/

/-- A new profile. Nothing that was there before refers to what it refers to. -/
def add (store : Store) (profile : Profile) : Store × Profile.Object :=
  let object : Profile.Object :=
    { id := profile.id, source := profile.source, location := profile.location }
  match profile.activation with
  | none => (store, object)
  | some activation =>
    let cell : Activation.Cell :=
      { activeByDefault := activation.activeByDefault
        property := activation.property.map fun _ => store.conditions.length
        jdk := activation.jdk }
    (⟨store.activations ++ [cell], store.conditions ++ activation.property.toList⟩,
      { object with activation := some store.activations.length })

def addAll (store : Store) : List Profile → Store × List Profile.Object
  | [] => (store, [])
  | profile :: profiles =>
    let (store, object) := store.add profile
    let (store, objects) := store.addAll profiles
    (store, object :: objects)

theorem Sound.of_extends (sound : store.Sound object) (h : store.Extends after) : after.Sound object where
  activation place hplace := Nat.lt_of_lt_of_le (sound.activation place hplace) h.activations.length_le
  condition place hplace :=
    Nat.lt_of_lt_of_le (sound.condition place (h.condition? sound ▸ hplace)) h.conditions.length_le

/-- The object and what it refers to are not in the store, which has since become `after`. -/
structure Beyond (store after : Store) (object : Profile.Object) : Prop where
  activation : ∀ place, object.activation = some place → store.activations.length ≤ place
  condition : ∀ place, after.condition? object = some place → store.conditions.length ≤ place

/-- The two objects have no part in common. -/
structure Separate (store : Store) (object other : Profile.Object) : Prop where
  activation : ∀ place, object.activation = some place → other.activation ≠ some place
  condition : ∀ place, store.condition? object = some place → store.condition? other ≠ some place

/-- The objects are new in `after`, stand for the profiles and share nothing. -/
structure Made (store after : Store) (objects : List Profile.Object) (profiles : List Profile) : Prop where
  kept : store.Extends after
  sound : ∀ object ∈ objects, after.Sound object
  beyond : ∀ object ∈ objects, store.Beyond after object
  separate : objects.Pairwise after.Separate
  profiles : objects.map after.profile = profiles

theorem made_nil (store : Store) : store.Made store [] [] := ⟨.refl store, nofun, nofun, .nil, rfl⟩

theorem Made.map_profile {profiles : List Profile} (h : store.Made mid objects profiles)
    (h' : mid.Extends after) : objects.map after.profile = profiles := by
  rw [← h.profiles]
  exact List.map_congr_left fun object hobject => h'.profile (h.sound object hobject)

/-- What is made later has nothing in common with what was made before. -/
theorem Made.append {profiles others : List Profile} {later : List Profile.Object}
    (h : store.Made mid objects profiles) (h' : mid.Made after later others) :
    store.Made after (objects ++ later) (profiles ++ others) where
  kept := h.kept.trans h'.kept
  sound := List.forall_mem_append.2
    ⟨fun object hobject => (h.sound object hobject).of_extends h'.kept, h'.sound⟩
  beyond := by
    refine List.forall_mem_append.2 ⟨fun object hobject => ⟨(h.beyond object hobject).activation, ?_⟩,
      fun object hobject => ⟨fun place hplace => ?_, fun place hplace => ?_⟩⟩
    · rw [h'.kept.condition? (h.sound object hobject)]
      exact (h.beyond object hobject).condition
    · exact Nat.le_trans h.kept.activations.length_le ((h'.beyond object hobject).activation place hplace)
    · exact Nat.le_trans h.kept.conditions.length_le ((h'.beyond object hobject).condition place hplace)
  separate := by
    refine List.pairwise_append.2 ⟨h.separate.imp_of_mem fun hobject hother hseparate => ?_, h'.separate,
      fun object hobject other hother => ⟨fun place hplace hfound => ?_, fun place hplace hfound => ?_⟩⟩
    · refine ⟨hseparate.activation, ?_⟩
      rw [h'.kept.condition? (h.sound _ hobject), h'.kept.condition? (h.sound _ hother)]
      exact hseparate.condition
    · have hlt := (h.sound object hobject).activation place hplace
      exact absurd hlt (Nat.not_lt.2 ((h'.beyond other hother).activation place hfound))
    · rw [h'.kept.condition? (h.sound object hobject)] at hplace
      have hlt := (h.sound object hobject).condition place hplace
      exact absurd hlt (Nat.not_lt.2 ((h'.beyond other hother).condition place hfound))
  profiles := by rw [List.map_append, h.map_profile h'.kept, h'.profiles]

theorem made_one {profile : Profile} (kept : store.Extends after) (sound : after.Sound object)
    (beyond : store.Beyond after object) (hprofile : after.profile object = profile) :
    store.Made after [object] [profile] where
  kept := kept
  sound := by simpa using sound
  beyond := by simpa using beyond
  separate := List.pairwise_singleton ..
  profiles := congrArg (fun read => [read]) hprofile

theorem made_add (store : Store) (profile : Profile) :
    store.Made (store.add profile).1 [(store.add profile).2] [profile] := by
  obtain ⟨id, source, activation, location⟩ := profile
  cases activation with
  | none => exact made_one (.refl store) ⟨nofun, nofun⟩ ⟨nofun, nofun⟩ rfl
  | some activation =>
    obtain ⟨activeByDefault, property, jdk⟩ := activation
    cases property with
    | none =>
      simp only [add, Option.map_none, Option.toList_none, List.append_nil]
      refine made_one ⟨List.prefix_append .., List.prefix_rfl⟩ ⟨?_, ?_⟩ ⟨?_, ?_⟩ ?_ <;>
        simp [condition?, cell?, Store.profile, read]
    | some content =>
      simp only [add, Option.map_some, Option.toList_some]
      refine made_one ⟨List.prefix_append .., List.prefix_append ..⟩ ⟨?_, ?_⟩ ⟨?_, ?_⟩ ?_ <;>
        simp [condition?, cell?, Store.profile, read]

theorem made_addAll (store : Store) (profiles : List Profile) :
    store.Made (store.addAll profiles).1 (store.addAll profiles).2 profiles := by
  induction profiles generalizing store with
  | nil => exact made_nil store
  | cons profile profiles ih => exact (made_add store profile).append (ih (store.add profile).1)

/-! ## Changing them -/

/-- The conditions once that of the cell, if it has one, holds what the activation says. -/
def conditionsWith (store : Store) (cell : Activation.Cell) (activation : Activation) :
    List PropertyCondition :=
  match cell.property, activation.property with
  | some place, some content => store.conditions.set place content
  | _, _ => store.conditions

/-- Changes the activation of a profile in place, and the condition that it has. -/
def amend (store : Store) (object : Profile.Object) (change : Activation → Activation) : Store :=
  match object.activation, store.cell? object with
  | some place, some cell =>
    let activation := change (store.read cell)
    { activations := store.activations.set place (cell.holding activation)
      conditions := store.conditionsWith cell activation }
  | _, _ => store

/-- Changes one after the other. -/
def amendAll (store : Store) : List (Profile.Object × (Activation → Activation)) → Store
  | [] => store
  | (object, change) :: others => (store.amend object change).amendAll others

variable {change : Activation → Activation} {edits : List (Profile.Object × (Activation → Activation))}
  {place : Nat} {cell : Activation.Cell}

theorem Separate.symm (h : store.Separate object other) : store.Separate other object :=
  ⟨fun place hother hobject => h.activation place hobject hother,
    fun place hother hobject => h.condition place hobject hother⟩

theorem amend_of_cell (hplace : object.activation = some place) (hcell : store.cell? object = some cell) :
    store.amend object change =
      ⟨store.activations.set place (cell.holding (change (store.read cell))),
        store.conditionsWith cell (change (store.read cell))⟩ := by
  rw [amend, hplace, hcell]

theorem amend_of_no_cell (h : store.cell? object = none) : store.amend object change = store := by
  rw [amend, h]
  split
  · contradiction
  · rfl

theorem exists_place (h : store.cell? object = some cell) :
    ∃ place, object.activation = some place ∧ store.activations[place]? = some cell :=
  Option.bind_eq_some_iff.1 h

theorem conditionsWith_of_ne {activation : Activation} (h : cell.property ≠ some place) :
    (store.conditionsWith cell activation)[place]? = store.conditions[place]? := by
  unfold conditionsWith
  split
  · rename_i found content hfound hcontent
    refine List.getElem?_set_ne fun hsame => h ?_
    rw [hfound, hsame]
  · rfl

theorem length_conditionsWith (store : Store) (cell : Activation.Cell) (activation : Activation) :
    (store.conditionsWith cell activation).length = store.conditions.length := by
  unfold conditionsWith
  split
  · exact List.length_set
  · rfl

theorem read_holding {activation : Activation} (cells : List Activation.Cell)
    (h : activation.property.isSome = (store.read cell).property.isSome) :
    Store.read ⟨cells, store.conditionsWith cell activation⟩ (cell.holding activation) = activation := by
  obtain ⟨activeByDefault, property, jdk⟩ := activation
  obtain ⟨given, place, requirement⟩ := cell
  cases property with
  | none => rfl
  | some content =>
    -- The cell has a condition, and it is there.
    cases place with
    | none => cases h
    | some place =>
      have hlt : place < store.conditions.length := by simpa [read] using h.symm
      simp [read, Activation.Cell.holding, conditionsWith, hlt]

/-- A profile is changed as its activation is, where that neither gains nor loses a condition. -/
theorem profile_amend_self
    (keeps : ∀ activation, (change activation).property.isSome = activation.property.isSome) :
    (store.amend object change).profile object =
      { store.profile object with activation := (store.profile object).activation.map change } := by
  cases hcell : store.cell? object with
  | none => simp [amend_of_no_cell hcell, profile, hcell]
  | some cell =>
    obtain ⟨place, hplace, hfound⟩ := exists_place hcell
    have hlt := (List.getElem?_eq_some_iff.1 hfound).1
    have hread := read_holding (store.activations.set place (cell.holding (change (store.read cell))))
      (keeps (store.read cell))
    simp only [amend_of_cell hplace hcell, profile, hcell]
    simp [cell?, hplace, hlt, hread]

/-! What is elsewhere stays as it is. -/

theorem getElem?_activations_amend (h : object.activation ≠ some place) :
    (store.amend object change).activations[place]? = store.activations[place]? := by
  cases hcell : store.cell? object with
  | none => rw [amend_of_no_cell hcell]
  | some cell =>
    obtain ⟨changed, hchanged, -⟩ := exists_place hcell
    rw [amend_of_cell hchanged hcell]
    exact List.getElem?_set_ne fun hsame => h (by rw [hchanged, hsame])

theorem getElem?_conditions_amend (h : store.condition? object ≠ some place) :
    (store.amend object change).conditions[place]? = store.conditions[place]? := by
  cases hcell : store.cell? object with
  | none => rw [amend_of_no_cell hcell]
  | some cell =>
    obtain ⟨changed, hchanged, -⟩ := exists_place hcell
    rw [condition?, hcell, Option.bind_some] at h
    rw [amend_of_cell hchanged hcell, conditionsWith_of_ne h]

theorem length_amend (store : Store) (object : Profile.Object) (change : Activation → Activation) :
    (store.amend object change).activations.length = store.activations.length ∧
      (store.amend object change).conditions.length = store.conditions.length := by
  cases hcell : store.cell? object with
  | none => rw [amend_of_no_cell hcell]; exact ⟨rfl, rfl⟩
  | some cell =>
    obtain ⟨changed, hchanged, -⟩ := exists_place hcell
    rw [amend_of_cell hchanged hcell]
    exact ⟨List.length_set, length_conditionsWith ..⟩

/-- A change in place makes no new reference. -/
theorem condition?_of_amend (h : (store.amend object change).condition? other = some place) :
    store.condition? other = some place := by
  cases hcell : store.cell? object with
  | none => rwa [amend_of_no_cell hcell] at h
  | some cell =>
    obtain ⟨changed, hchanged, hold⟩ := exists_place hcell
    rw [amend_of_cell hchanged hcell] at h
    obtain ⟨found, hfound, hproperty⟩ := Option.bind_eq_some_iff.1 h
    obtain ⟨seen, hseen, hfound⟩ := exists_place hfound
    by_cases hsame : changed = seen
    · subst hsame
      rw [List.getElem?_set_self (List.getElem?_eq_some_iff.1 hold).1] at hfound
      cases hfound
      obtain ⟨-, -, hproperty⟩ := Option.bind_eq_some_iff.1 hproperty
      rw [condition?, Store.cell?, hseen, Option.bind_some, hold, Option.bind_some, hproperty]
    · rw [List.getElem?_set_ne hsame] at hfound
      rw [condition?, Store.cell?, hseen, Option.bind_some, hfound, Option.bind_some, hproperty]

theorem profile_amend_of_separate (h : store.Separate object other) :
    (store.amend object change).profile other = store.profile other := by
  refine profile_congr ?_ fun place hplace =>
    getElem?_conditions_amend fun hobject => h.condition place hobject hplace
  unfold cell?
  cases hplace : other.activation with
  | none => rfl
  | some place => exact getElem?_activations_amend fun hobject => h.activation place hobject hplace

theorem Separate.amend {third : Profile.Object} (h : store.Separate other third) :
    (store.amend object change).Separate other third where
  activation := h.activation
  condition place hother hthird :=
    h.condition place (condition?_of_amend hother) (condition?_of_amend hthird)

/-! ## Many changes -/

theorem getElem?_activations_amendAll (h : ∀ edit ∈ edits, edit.1.activation ≠ some place) :
    (store.amendAll edits).activations[place]? = store.activations[place]? := by
  induction edits generalizing store with
  | nil => rfl
  | cons edit edits ih =>
    obtain ⟨hedit, hedits⟩ := List.forall_mem_cons.1 h
    rw [amendAll, ih hedits, getElem?_activations_amend hedit]

theorem getElem?_conditions_amendAll (h : ∀ edit ∈ edits, store.condition? edit.1 ≠ some place) :
    (store.amendAll edits).conditions[place]? = store.conditions[place]? := by
  induction edits generalizing store with
  | nil => rfl
  | cons edit edits ih =>
    obtain ⟨hedit, hedits⟩ := List.forall_mem_cons.1 h
    rw [amendAll, ih fun other hother hplace => hedits other hother (condition?_of_amend hplace),
      getElem?_conditions_amend hedit]

theorem length_amendAll (store : Store) (edits : List (Profile.Object × (Activation → Activation))) :
    (store.amendAll edits).activations.length = store.activations.length ∧
      (store.amendAll edits).conditions.length = store.conditions.length := by
  induction edits generalizing store with
  | nil => exact ⟨rfl, rfl⟩
  | cons edit edits ih =>
    obtain ⟨hactivations, hconditions⟩ := length_amend store edit.1 edit.2
    rw [amendAll, (ih _).1, (ih _).2, hactivations, hconditions]
    exact ⟨rfl, rfl⟩

theorem profile_amendAll_of_separate (h : ∀ edit ∈ edits, store.Separate edit.1 other) :
    (store.amendAll edits).profile other = store.profile other := by
  induction edits generalizing store with
  | nil => rfl
  | cons edit edits ih =>
    obtain ⟨hedit, hedits⟩ := List.forall_mem_cons.1 h
    rw [amendAll, ih fun later hlater => (hedits later hlater).amend, profile_amend_of_separate hedit]

/-- One change for objects that share nothing shows in each of them once. -/
theorem map_profile_amendAll (separate : objects.Pairwise store.Separate)
    (keeps : ∀ activation, (change activation).property.isSome = activation.property.isSome) :
    objects.map (store.amendAll (objects.map (·, change))).profile =
      (objects.map store.profile).map fun p => { p with activation := p.activation.map change } := by
  induction objects generalizing store with
  | nil => rfl
  | cons object objects ih =>
    obtain ⟨hobject, hobjects⟩ := List.pairwise_cons.1 separate
    have hlater : ∀ edit ∈ objects.map (·, change),
        (store.amend object change).Separate edit.1 object := by
      simp only [List.forall_mem_map]
      exact fun other hother => (hobject other hother).symm.amend
    have hothers : objects.map (store.amend object change).profile = objects.map store.profile :=
      List.map_congr_left fun other hother => profile_amend_of_separate (hobject other hother)
    simp only [List.map_cons, amendAll]
    rw [profile_amendAll_of_separate hlater, profile_amend_self keeps,
      ih (hobjects.imp fun hseparate => hseparate.amend), hothers]

end Store

/-- Profiles that refer to what a store keeps. -/
structure Objects where
  store : Store := {}
  profiles : List Profile.Object := []
  deriving DecidableEq, Repr

namespace Objects

/-- The profiles as they stand. -/
def view (objects : Objects) : List Profile := objects.profiles.map objects.store.profile

/-- Objects for the profiles, all of them new. -/
def ofProfiles (profiles : List Profile) : Objects :=
  let (store, objects) := ({} : Store).addAll profiles
  ⟨store, objects⟩

@[simp] theorem view_ofProfiles (profiles : List Profile) : (ofProfiles profiles).view = profiles :=
  (Store.made_addAll {} profiles).profiles

theorem ids_view (objects : Objects) : objects.view.map (·.id) = objects.profiles.map (·.id) := by
  rw [view, List.map_map]
  rfl

end Objects

end BuildProfiles
