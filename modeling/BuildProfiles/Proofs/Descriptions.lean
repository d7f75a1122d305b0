/-
Profiles written down and read back.

A description says what a document writes of a profile. An object writes
fields when it has those of them that have a value as its members, in any
order (`WritesFields`); a field is read back from it by its name (`member?_eq`).
So whatever order the members have, a document that writes descriptions is
parsed to the profiles described (`parse_of_writes`).
-/
import BuildProfiles.Proofs.Declarations
import BuildProfiles.Properties

namespace BuildProfiles.Definitions

/-! ## Fields -/

/-- Names, with a value or without one. -/
abbrev Fields := List (Text × Option Json.Value)

/-- The members for the fields that have a value. -/
def Fields.members (fields : Fields) : List (Text × Json.Value) :=
  fields.filterMap fun field => field.2.map fun value => (field.1, value)

/-- An object whose members are those of the fields, in any order. -/
def WritesFields (written : Json.Value) (fields : Fields) : Prop :=
  ∃ members, written = .object members ∧ members.Perm fields.members

theorem Fields.mem_members {fields : Fields} {name : Text} {value : Json.Value} :
    (name, value) ∈ fields.members ↔ (name, some value) ∈ fields := by
  simp only [Fields.members, List.mem_filterMap, Option.map_eq_some_iff, Prod.mk.injEq]
  refine ⟨fun h => ?_, fun hmem => ⟨_, hmem, _, rfl, rfl, rfl⟩⟩
  obtain ⟨field, hmem, _, hvalue, rfl, rfl⟩ := h
  rw [← hvalue]
  exact hmem

theorem Fields.names_sublist (fields : Fields) :
    (fields.members.map Prod.fst).Sublist (fields.map Prod.fst) := by
  induction fields with
  | nil => exact .slnil
  | cons field fields ih =>
    obtain ⟨name, value⟩ := field
    cases value with
    | none => exact ih.cons name
    | some value => exact ih.cons_cons name

section

variable {written : Json.Value} {fields : Fields}

/-- The fields are read back by their names, wherever their members stand. -/
theorem WritesFields.member?_eq (h : WritesFields written fields) (distinct : (fields.map Prod.fst).Nodup) :
    ∀ field ∈ fields, written.member? field.1 = field.2 := by
  obtain ⟨members, rfl, hperm⟩ := h
  intro field hmem
  have hnodup : (members.map Prod.fst).Nodup :=
    (hperm.map Prod.fst).nodup_iff.2 (fields.names_sublist.nodup distinct)
  refine Option.ext fun found => ?_
  rw [Json.Value.member?, lookup_eq_some_iff_mem hnodup, hperm.mem_iff, Fields.mem_members]
  refine ⟨fun hfound => ?_, fun hvalue => ?_⟩
  · have hsame := List.inj_on_of_nodup_map distinct hmem hfound rfl
    exact congrArg Prod.snd hsame
  · rw [← hvalue]
    exact hmem

theorem WritesFields.hasOnly (h : WritesFields written fields) : HasOnly (fields.map Prod.fst) written := by
  obtain ⟨members, rfl, hperm⟩ := h
  refine ⟨members, rfl, fun member hmember => ?_⟩
  exact fields.names_sublist.subset ((hperm.map Prod.fst).subset (List.mem_map_of_mem hmember))

end

/-! ## Descriptions -/

/-- What is written of a profile. Without a source it has the one that the
reader gives by default. -/
structure Description where
  id : Text
  source : Option Text := none
  activation : Option Activation := none
  id_ne : id ≠ "" := by decide
  source_ne : source ≠ some ("" : Text) := by decide

/-- The profile described, as it is found at a position of a source. -/
def Description.profile (description : Description) (defaultSource sourceName : Text) (position : Nat) :
    Profile where
  id := description.id
  source := description.source.getD defaultSource
  activation := description.activation
  location := some { source := some sourceName, line := none, column := none, index := some position }

def conditionFields (condition : PropertyCondition) : Fields :=
  [("name", condition.name.map .text), ("value", condition.value.map .text)]

/-- The flag may be left out where it is false. -/
def activationFields (activation : Activation) (flag : Option Bool) (property : Option Json.Value) : Fields :=
  [("activeByDefault", flag.map .bool), ("property", property), ("jdk", activation.jdk.map .text)]

def entryFields (description : Description) (activation : Option Json.Value) : Fields :=
  [("id", some (.text description.id)), ("source", description.source.map .text),
    ("activation", activation)]

def WritesCondition (written : Json.Value) (condition : PropertyCondition) : Prop :=
  WritesFields written (conditionFields condition)

structure WritesActivation (written : Json.Value) (activation : Activation) : Prop where
  fields : ∃ flag property, flag.getD false = activation.activeByDefault ∧
    Option.Rel WritesCondition property activation.property ∧
    WritesFields written (activationFields activation flag property)

structure WritesEntry (written : Json.Value) (description : Description) : Prop where
  fields : ∃ activation, Option.Rel WritesActivation activation description.activation ∧
    WritesFields written (entryFields description activation)

/-- The entries of the document write the descriptions in order, whatever else
it holds. -/
structure WritesDocument (document : Json.Value) (descriptions : List Description) : Prop where
  entries : ∃ entries, document.member? "profiles" = some (.array entries) ∧
    List.Forall₂ WritesEntry entries descriptions

/-! ## Reading back -/

theorem optionally_of_map {α : Type} {name : Text} {written : Json.Value} {content : Option α}
    {make : α → Json.Value} {is : Json.Value → Prop} (h : written.member? name = content.map make)
    (his : ∀ a ∈ content, is (make a)) : Optionally name is written := by
  intro member hmember
  rw [h, Option.map_eq_some_iff] at hmember
  obtain ⟨a, ha, rfl⟩ := hmember
  exact his a ha

theorem optionally_text {name : Text} {written : Json.Value} {content : Option Text}
    (h : written.member? name = content.map .text) : Optionally name IsText written :=
  optionally_of_map h fun text _ => ⟨text, rfl⟩

/-- Where each value that writes something is of a kind, so is the member. -/
theorem optionally_of_rel {α : Type} {name : Text} {written : Json.Value} {content : Option α}
    {writes : Json.Value → α → Prop} {is : Json.Value → Prop}
    (h : Option.Rel writes (written.member? name) content) (his : ∀ value a, writes value a → is value) :
    Optionally name is written := by
  intro member hmember
  rw [hmember] at h
  cases h with
  | some hwrites => exact his _ _ hwrites

theorem rel_mono {α β : Type} {r q : α → β → Prop} {a : Option α} {b : Option β} (h : Option.Rel r a b)
    (himp : ∀ a b, r a b → q a b) : Option.Rel q a b := by
  cases h with
  | some h => exact .some (himp _ _ h)
  | none => exact .none

/-- A value that stands for `a`, or is left out where `a` is the default, is read
back as `a`. -/
theorem getD_read_of_getD {α : Type} {make : α → Json.Value} {read : Json.Value → Option α}
    {written : Option Json.Value} {default a : α} (hread : ∀ a, read (make a) = some a)
    (h : written.getD (make default) = make a) : (written.bind read).getD default = a := by
  have hback := congrArg read h
  cases written with
  | none =>
    rw [Option.getD_none, hread, hread] at hback
    exact Option.some.inj hback
  | some value =>
    rw [Option.getD_some, hread] at hback
    rw [Option.bind_some, hback, Option.getD_some]

/-- What is made of each declaring value is what it declares. -/
theorem map_eq_of_rel {α : Type} {declares : Json.Value → α → Prop} {make : Json.Value → α}
    {written : Option Json.Value} {content : Option α} (h : Option.Rel declares written content)
    (hmake : ∀ value a, declares value a → make value = a) : written.map make = content := by
  cases h with
  | some h => exact congrArg some (hmake _ _ h)
  | none => rfl

section

variable {written : Json.Value}

theorem text?_eq {name : Text} {content : Option Text} (h : written.member? name = content.map .text) :
    (written.member? name).bind (·.text?) = content := by
  rw [h]
  cases content <;> rfl

theorem DeclaresCondition.condition_eq {condition : PropertyCondition} (h : DeclaresCondition written condition) :
    Definitions.condition written = condition := by
  rw [Definitions.condition, text?_eq h.name, text?_eq h.value]

theorem DeclaresActivation.activation_eq {activation : Activation} (h : DeclaresActivation written activation) :
    Definitions.activation written = activation := by
  have hflag : ((written.member? "activeByDefault").bind (·.bool?)).getD false = activation.activeByDefault :=
    getD_read_of_getD (fun _ => rfl) h.activeByDefault
  have hproperty := map_eq_of_rel h.property fun _ _ => DeclaresCondition.condition_eq
  rw [Definitions.activation, hflag, hproperty, text?_eq h.jdk]

/-- The entry declares one profile at each place: the one that is made of it. -/
theorem Declares.profile_eq {defaultSource sourceName : Text} {position : Nat} {declared : Profile}
    (h : Declares defaultSource written declared)
    (hlocation : declared.location = some { source := some sourceName, index := some position }) :
    profile defaultSource sourceName written position = declared := by
  have hsource : ((written.member? "source").bind (·.text?)).getD defaultSource = declared.source :=
    getD_read_of_getD (fun _ => rfl) h.source
  have hactivation := map_eq_of_rel h.activation fun _ _ => DeclaresActivation.activation_eq
  rw [profile, h.id, hsource, hactivation, ← hlocation]
  rfl

theorem WritesFields.condition_members {condition : PropertyCondition}
    (h : WritesFields written (conditionFields condition)) :
    written.member? "name" = condition.name.map .text ∧
      written.member? "value" = condition.value.map .text := by
  have hmember := h.member?_eq (by simp [conditionFields])
  simpa [conditionFields] using hmember

theorem WritesFields.activation_members {activation : Activation} {flag : Option Bool}
    {property : Option Json.Value} (h : WritesFields written (activationFields activation flag property)) :
    written.member? "activeByDefault" = flag.map .bool ∧ written.member? "property" = property ∧
      written.member? "jdk" = activation.jdk.map .text := by
  have hmember := h.member?_eq (by simp [activationFields])
  simpa [activationFields] using hmember

theorem WritesFields.entry_members {description : Description} {activation : Option Json.Value}
    (h : WritesFields written (entryFields description activation)) :
    written.member? "id" = some (.text description.id) ∧
      written.member? "source" = description.source.map .text ∧
      written.member? "activation" = activation := by
  have hmember := h.member?_eq (by simp [entryFields])
  simpa [entryFields] using hmember

theorem WritesCondition.declares {condition : PropertyCondition} (h : WritesCondition written condition) :
    IsCondition written ∧ DeclaresCondition written condition := by
  obtain ⟨hname, hvalue⟩ := WritesFields.condition_members h
  exact ⟨⟨h.hasOnly, optionally_text hname, optionally_text hvalue⟩, hname, hvalue⟩

theorem WritesActivation.declares {activation : Activation} (h : WritesActivation written activation) :
    IsActivation written ∧ DeclaresActivation written activation := by
  obtain ⟨flag, property, hflag, hproperty, hfields⟩ := h.fields
  obtain ⟨hdefault, hmember, hjdk⟩ := hfields.activation_members
  rw [← hmember] at hproperty
  refine ⟨⟨hfields.hasOnly, ?_, ?_, optionally_text hjdk⟩, ?_, ?_, hjdk⟩
  · exact optionally_of_map hdefault fun value _ => ⟨value, rfl⟩
  · exact optionally_of_rel hproperty fun _ _ hwrites => hwrites.declares.1
  · rw [hdefault, Option.getD_map, hflag]
  · exact rel_mono hproperty fun _ _ hwrites => hwrites.declares.2

/-- What writes a description is an entry, and declares the profile described. -/
theorem WritesEntry.declares {description : Description} (h : WritesEntry written description)
    (defaultSource sourceName : Text) (position : Nat) :
    IsEntry written ∧
      Declares defaultSource written (description.profile defaultSource sourceName position) := by
  obtain ⟨activation, hactivation, hfields⟩ := h.fields
  obtain ⟨hid, hsource, hmember⟩ := hfields.entry_members
  rw [← hmember] at hactivation
  refine ⟨⟨hfields.hasOnly, ⟨description.id, hid, description.id_ne⟩, ?_, ?_⟩, hid, ?_, ?_⟩
  · refine optionally_of_map hsource fun source hwritten => ⟨source, rfl, fun hempty => ?_⟩
    rw [hempty] at hwritten
    exact description.source_ne hwritten
  · exact optionally_of_rel hactivation fun _ _ hwrites => hwrites.declares.1
  · rw [hsource, Option.getD_map, Description.profile]
  · exact rel_mono hactivation fun _ _ hwrites => hwrites.declares.2

end

/-- Each entry, at its position, is made the profile described there. -/
theorem declared_eq {entries : List Json.Value} {descriptions : List Description}
    (h : List.Forall₂ WritesEntry entries descriptions) (defaultSource sourceName : Text) :
    declared defaultSource sourceName entries =
      descriptions.mapIdx fun position description => description.profile defaultSource sourceName position := by
  refine List.ext_getElem ?_ fun i hi hi' => ?_
  · simp [declared, h.length_eq]
  · simp only [declared, List.length_map, List.length_zipIdx, List.length_mapIdx] at hi hi'
    have hwrites := h.get hi hi'
    simpa [declared] using (hwrites.declares defaultSource sourceName i).2.profile_eq rfl

/-! ## Writing and parsing -/

/-- The object that has the members in the order of the fields. -/
def Fields.object (fields : Fields) : Json.Value := .object fields.members

theorem Fields.writes_object (fields : Fields) : WritesFields fields.object fields :=
  ⟨fields.members, rfl, .refl _⟩

def writeCondition (condition : PropertyCondition) : Json.Value := (conditionFields condition).object

def writeActivation (activation : Activation) : Json.Value :=
  (activationFields activation (some activation.activeByDefault) (activation.property.map writeCondition)).object

def writeEntry (description : Description) : Json.Value :=
  (entryFields description (description.activation.map writeActivation)).object

/-- The document that writes nothing but the descriptions. -/
def writeDocument (descriptions : List Description) : Json.Value :=
  .object [("profiles", .array (descriptions.map writeEntry))]

theorem rel_map {α : Type} {writes : Json.Value → α → Prop} {write : α → Json.Value}
    (h : ∀ a, writes (write a) a) (content : Option α) : Option.Rel writes (content.map write) content := by
  cases content with
  | none => exact .none
  | some a => exact .some (h a)

theorem writes_condition (condition : PropertyCondition) :
    WritesCondition (writeCondition condition) condition := Fields.writes_object _

theorem writes_activation (activation : Activation) :
    WritesActivation (writeActivation activation) activation :=
  ⟨_, _, rfl, rel_map writes_condition activation.property, Fields.writes_object _⟩

theorem writes_entry (description : Description) : WritesEntry (writeEntry description) description :=
  ⟨_, rel_map writes_activation description.activation, Fields.writes_object _⟩

theorem writes_document (descriptions : List Description) :
    WritesDocument (writeDocument descriptions) descriptions := by
  refine ⟨descriptions.map writeEntry, rfl, ?_⟩
  rw [List.forall₂_map_left_iff, List.forall₂_same]
  exact fun description _ => writes_entry description

/-- **What is written down is read back.** Every list of descriptions has a
document that writes it, and every such document, whatever the order of its
members, is parsed to the profiles described, each at its position. -/
theorem parse_of_writes (loader : Loader) (sourceName : Text) (descriptions : List Description) :
    WritesDocument (writeDocument descriptions) descriptions ∧
      ∀ document, WritesDocument document descriptions →
        parse loader sourceName document =
          .ok (descriptions.mapIdx fun position description =>
            description.profile loader.defaultSource sourceName position) := by
  refine ⟨writes_document descriptions, fun document h => ?_⟩
  obtain ⟨entries, hentries, hwrites⟩ := h.entries
  refine (parse_eq_ok_iff loader sourceName).2 ⟨entries, hentries, fun entry hmem => ?_,
    (declared_eq hwrites loader.defaultSource sourceName).symm⟩
  obtain ⟨i, hi, rfl⟩ := List.getElem_of_mem hmem
  have hentry := hwrites.get hi (hwrites.length_eq ▸ hi)
  exact (hentry.declares loader.defaultSource sourceName i).1

/-- Two profiles of one id, with their members in another order than that of the
fields. The first leaves its flag out and has an empty property and an empty
requirement; the second has an activation in which nothing is set. -/
theorem parse_scrambled :
    let ci : Description :=
      { id := "ci", source := some "settings.xml", activation := some { property := some {}, jdk := some "" } }
    let again : Description := { id := "ci", activation := some {} }
    let document : Json.Value := .object [("profiles", .array [
      .object [("activation", .object [("jdk", .text ""), ("property", .object [])]),
        ("id", .text "ci"), ("source", .text "settings.xml")],
      .object [("activation", .object [("activeByDefault", .bool false)]), ("id", .text "ci")]])]
    WritesDocument document [ci, again] ∧
      parse ⟨.standard, "pom"⟩ "p.json" document =
        .ok [ci.profile "pom" "p.json" 0, again.profile "pom" "p.json" 1] := by
  intro ci again document
  have hci : WritesEntry (.object [("activation", .object [("jdk", .text ""), ("property", .object [])]),
      ("id", .text "ci"), ("source", .text "settings.xml")]) ci := by
    refine ⟨_, .some ⟨none, _, rfl, .some (writes_condition {}), _, rfl, .swap _ _ _⟩, _, rfl, ?_⟩
    exact @List.perm_append_comm _ [_] [_, _]
  have hagain : WritesEntry
      (.object [("activation", .object [("activeByDefault", .bool false)]), ("id", .text "ci")]) again :=
    ⟨_, .some ⟨some false, _, rfl, .none, _, rfl, .refl _⟩, _, rfl, .swap _ _ _⟩
  have hwrites : WritesDocument document [ci, again] := ⟨_, rfl, .cons hci (.cons hagain .nil)⟩
  exact ⟨hwrites, (parse_of_writes ⟨.standard, "pom"⟩ "p.json" [ci, again]).2 document hwrites⟩

end BuildProfiles.Definitions
