/-
The documents that declare profiles, and what they declare.

`IsDocument` says in words of JSON what a document of declarations looks like.
Such a document gives a profile for each entry, with what the entry writes
(`Declares`); every other one is refused with its violations (`parse_of_not_isDocument`), whatever
validator finds them.
-/
import BuildProfiles.Definitions
import BuildProfiles.Definitions.Validation
import BuildProfiles.Proofs.Violations
import Mathlib.Data.List.Forall2

namespace BuildProfiles.Definitions

/-! ## Documents -/

/-- An object none of whose members has another name than these. -/
def HasOnly (names : List Text) (value : Json.Value) : Prop :=
  ∃ members, value = .object members ∧ ∀ member ∈ members, member.1 ∈ names

/-- The member of this name, if there is one, is such a value. -/
def Optionally (name : Text) (is : Json.Value → Prop) (value : Json.Value) : Prop :=
  ∀ member, value.member? name = some member → is member

def IsText (value : Json.Value) : Prop := ∃ content, value = .text content

def IsFilledText (value : Json.Value) : Prop := ∃ content, value = .text content ∧ content ≠ ""

def IsFlag (value : Json.Value) : Prop := ∃ flag, value = .bool flag

structure IsCondition (value : Json.Value) : Prop where
  only : HasOnly ["name", "value"] value
  name : Optionally "name" IsText value
  value : Optionally "value" IsText value

structure IsActivation (value : Json.Value) : Prop where
  only : HasOnly ["activeByDefault", "property", "jdk"] value
  activeByDefault : Optionally "activeByDefault" IsFlag value
  property : Optionally "property" IsCondition value
  jdk : Optionally "jdk" IsText value

structure IsEntry (value : Json.Value) : Prop where
  only : HasOnly ["id", "source", "activation"] value
  id : ∃ id, value.member? "id" = some (.text id) ∧ id ≠ ""
  source : Optionally "source" IsFilledText value
  activation : Optionally "activation" IsActivation value

/-- An object with a list of entries under `profiles`, whatever else it has. -/
def IsDocument (value : Json.Value) : Prop :=
  ∃ entries, value.member? "profiles" = some (.array entries) ∧ ∀ entry ∈ entries, IsEntry entry

/-! ## The schema says the same -/

theorem accepts_text_iff {value : Json.Value} : (Schema.text false).Accepts value ↔ IsText value := by
  constructor
  · intro h
    cases h
    exact ⟨_, rfl⟩
  · rintro ⟨content, rfl⟩
    exact .text (by simp)

theorem accepts_filled_iff {value : Json.Value} :
    (Schema.text true).Accepts value ↔ IsFilledText value := by
  constructor
  · intro h
    cases h with
    | text h => exact ⟨_, rfl, h rfl⟩
  · rintro ⟨content, rfl, h⟩
    exact .text fun _ => h

theorem accepts_flag_iff {value : Json.Value} : Schema.flag.Accepts value ↔ IsFlag value := by
  constructor
  · intro h
    cases h
    exact ⟨_, rfl⟩
  · rintro ⟨flag, rfl⟩
    exact .flag

theorem isSome_member?_iff {name : Text} {members : List (Text × Json.Value)} :
    ((Json.Value.object members).member? name).isSome = true ↔ name ∈ members.map Prod.fst := by
  rw [Json.Value.member?, List.lookup_isSome_iff, List.mem_map]
  exact exists_congr fun member => and_congr_right fun _ => beq_iff_eq.trans eq_comm

/-- A record, member by member. -/
theorem accepts_record_iff {required : List Text} {closed : Bool} {fields : List (Text × Schema)}
    {value : Json.Value} :
    (Schema.record required closed fields).Accepts value ↔
      (∃ members, value = .object members ∧
        (closed = true → ∀ member ∈ members, member.1 ∈ fields.map Prod.fst)) ∧
      (∀ name ∈ required, (value.member? name).isSome = true) ∧
        ∀ field ∈ fields, Optionally field.1 field.2.Accepts value := by
  constructor
  · intro h
    cases h with
    | @record _ _ _ members hrequired hclosed hfields =>
      exact ⟨⟨members, rfl, fun hc member hmember => hclosed hc _ (List.mem_map_of_mem hmember)⟩,
        fun name hname => isSome_member?_iff.2 (hrequired name hname), hfields⟩
  · rintro ⟨⟨members, rfl, hclosed⟩, hrequired, hfields⟩
    refine .record (fun name hname => isSome_member?_iff.1 (hrequired name hname)) ?_ hfields
    intro hc name hname
    obtain ⟨member, hmember, rfl⟩ := List.mem_map.1 hname
    exact hclosed hc member hmember

theorem optionally_congr {name : Text} {is is' : Json.Value → Prop} (h : ∀ value, is value ↔ is' value)
    {value : Json.Value} : Optionally name is value ↔ Optionally name is' value :=
  forall_congr' fun member => imp_congr Iff.rfl (h member)

theorem accepts_condition_iff {value : Json.Value} : propertySchema.Accepts value ↔ IsCondition value := by
  rw [propertySchema, accepts_record_iff]
  simp only [List.forall_mem_cons, List.not_mem_nil, false_imp_iff, implies_true, and_true, true_and, forall_const,
    optionally_congr fun _ => accepts_text_iff]
  exact ⟨fun ⟨only, name, value⟩ => ⟨only, name, value⟩, fun ⟨only, name, value⟩ => ⟨only, name, value⟩⟩

theorem accepts_activation_iff {value : Json.Value} :
    activationSchema.Accepts value ↔ IsActivation value := by
  rw [activationSchema, accepts_record_iff]
  simp only [List.forall_mem_cons, List.not_mem_nil, false_imp_iff, implies_true, and_true, true_and, forall_const,
    optionally_congr fun _ => accepts_text_iff, optionally_congr fun _ => accepts_flag_iff,
    optionally_congr fun _ => accepts_condition_iff]
  exact ⟨fun ⟨only, byDefault, property, jdk⟩ => ⟨only, byDefault, property, jdk⟩,
    fun ⟨only, byDefault, property, jdk⟩ => ⟨only, byDefault, property, jdk⟩⟩

theorem accepts_entry_iff {value : Json.Value} : profileSchema.Accepts value ↔ IsEntry value := by
  rw [profileSchema, accepts_record_iff]
  simp only [List.forall_mem_cons, List.not_mem_nil, false_imp_iff, implies_true, and_true, forall_const,
    optionally_congr fun _ => accepts_filled_iff, optionally_congr fun _ => accepts_activation_iff]
  constructor
  · intro ⟨only, present, id, source, activation⟩
    obtain ⟨written, hwritten⟩ := Option.isSome_iff_exists.1 present
    obtain ⟨content, rfl, hne⟩ := id written hwritten
    exact ⟨only, ⟨content, hwritten, hne⟩, source, activation⟩
  · intro ⟨only, ⟨content, hid, hne⟩, source, activation⟩
    refine ⟨only, hid ▸ rfl, fun member hmember => ?_, source, activation⟩
    rw [hid] at hmember
    exact ⟨content, (Option.some.inj hmember).symm, hne⟩

theorem accepts_entries_iff {value : Json.Value} :
    (Schema.list profileSchema).Accepts value ↔
      ∃ entries, value = .array entries ∧ ∀ entry ∈ entries, IsEntry entry := by
  constructor
  · intro h
    cases h with
    | list h => exact ⟨_, rfl, fun entry hentry => accepts_entry_iff.1 (h entry hentry)⟩
  · rintro ⟨entries, rfl, h⟩
    exact .list fun entry hentry => accepts_entry_iff.2 (h entry hentry)

theorem accepts_document_iff {document : Json.Value} : schema.Accepts document ↔ IsDocument document := by
  rw [schema, accepts_record_iff]
  simp only [List.forall_mem_cons, List.not_mem_nil, false_imp_iff, implies_true, and_true,
    optionally_congr fun _ => accepts_entries_iff]
  constructor
  · intro ⟨_, present, profiles⟩
    obtain ⟨written, hwritten⟩ := Option.isSome_iff_exists.1 present
    obtain ⟨entries, rfl, hentries⟩ := profiles written hwritten
    exact ⟨entries, hwritten, hentries⟩
  · intro ⟨entries, hentries, h⟩
    refine ⟨?_, hentries ▸ rfl, fun member hmember => ⟨entries, ?_, h⟩⟩
    · cases document with
      | object members => exact ⟨members, rfl, nofun⟩
      | _ => cases hentries
    · rw [hentries] at hmember
      exact (Option.some.inj hmember).symm

/-! ## What is declared -/

structure DeclaresCondition (written : Json.Value) (condition : PropertyCondition) : Prop where
  name : written.member? "name" = condition.name.map .text
  value : written.member? "value" = condition.value.map .text

structure DeclaresActivation (written : Json.Value) (activation : Activation) : Prop where
  activeByDefault :
    (written.member? "activeByDefault").getD (.bool false) = .bool activation.activeByDefault
  property : Option.Rel DeclaresCondition (written.member? "property") activation.property
  jdk : written.member? "jdk" = activation.jdk.map .text

/-- The profile has what the entry writes, and the default source where it writes none. -/
structure Declares (defaultSource : Text) (entry : Json.Value) (profile : Profile) : Prop where
  id : entry.member? "id" = some (.text profile.id)
  source : (entry.member? "source").getD (.text defaultSource) = .text profile.source
  activation : Option.Rel DeclaresActivation (entry.member? "activation") profile.activation

theorem Optionally.text {name : Text} {value : Json.Value} (h : Optionally name IsText value) :
    value.member? name = ((value.member? name).bind (·.text?)).map .text := by
  cases hm : value.member? name with
  | none => rfl
  | some member =>
    obtain ⟨content, rfl⟩ := h member hm
    rfl

/-- What is made of a member declares what the member writes. -/
theorem Optionally.rel {α : Type} {name : Text} {is : Json.Value → Prop} {value : Json.Value}
    {declares : Json.Value → α → Prop} {make : Json.Value → α} (h : Optionally name is value)
    (made : ∀ member, is member → declares member (make member)) :
    Option.Rel declares (value.member? name) ((value.member? name).map make) := by
  cases hm : value.member? name with
  | none => exact .none
  | some member => exact .some (made member (h member hm))

theorem declares_condition {written : Json.Value} (h : IsCondition written) :
    DeclaresCondition written (condition written) := ⟨h.name.text, h.value.text⟩

theorem declares_activation {written : Json.Value} (h : IsActivation written) :
    DeclaresActivation written (activation written) := by
  refine ⟨?_, h.property.rel fun _ => declares_condition, h.jdk.text⟩
  cases hm : written.member? "activeByDefault" with
  | none => simp [activation, hm]
  | some member =>
    obtain ⟨flag, rfl⟩ := h.activeByDefault member hm
    simp [activation, hm, Json.Value.bool?]

/-- The profile that is made of an entry is the one that it declares: nothing
that is needed is missing. -/
theorem declares_profile {entry : Json.Value} (h : IsEntry entry) (defaultSource sourceName : Text)
    (position : Nat) : Declares defaultSource entry (profile defaultSource sourceName entry position) := by
  obtain ⟨content, hid, -⟩ := h.id
  refine ⟨?_, ?_, h.activation.rel fun _ => declares_activation⟩
  · simp [profile, hid, Json.Value.text?]
  · cases hm : entry.member? "source" with
    | none => simp [profile, hm]
    | some member =>
      obtain ⟨source, rfl, -⟩ := h.source member hm
      simp [profile, hm, Json.Value.text?]

/-! ## Parsing -/

theorem violations_eq_nil_iff (validator : Validator) {document : Json.Value} :
    violations validator document = [] ↔ IsDocument document := by
  rw [violations, Violation.sorted, ← List.length_eq_zero_iff, List.length_mergeSort,
    List.length_eq_zero_iff, validator.accepts_iff, accepts_document_iff]

theorem schema_distinct : schema.Distinct := by
  have text (filled : Bool) : (Schema.text filled).Distinct := .text
  have property : propertySchema.Distinct := .record (by decide) (by simp [text])
  have activation : activationSchema.Distinct := .record (by decide) (by simp [text, property, Schema.Distinct.flag])
  have profile : profileSchema.Distinct := .record (by decide) (by simp [text, activation])
  exact .record (by decide) (by simp [Schema.Distinct.list profile])

/-- Any two violations of a document can be put in order. -/
theorem comparable_violations {validator : Validator} {document : Json.Value} {a b : Violation}
    (ha : a ∈ validator.violations schema document) (hb : b ∈ validator.violations schema document) :
    ComparablePaths a.path b.path :=
  (validator.reaches _ _ a ha).comparable schema_distinct (validator.reaches _ _ b hb)

/-- The profiles that are made of entries. -/
def declared (defaultSource sourceName : Text) (entries : List Json.Value) : List Profile :=
  entries.zipIdx.map fun (entry, position) => profile defaultSource sourceName entry position

theorem declares_declared {entries : List Json.Value} (h : ∀ entry ∈ entries, IsEntry entry)
    (defaultSource sourceName : Text) :
    List.Forall₂ (Declares defaultSource) entries (declared defaultSource sourceName entries) := by
  have hplaced : List.Forall₂ (Declares defaultSource) (entries.zipIdx.map Prod.fst)
      (declared defaultSource sourceName entries) := by
    rw [declared, List.forall₂_map_left_iff, List.forall₂_map_right_iff, List.forall₂_same]
    intro placed hmem
    exact declares_profile (h placed.1 (List.fst_mem_of_mem_zipIdx hmem)) _ _ _
  rwa [List.zipIdx_map_fst] at hplaced

section

variable {document : Json.Value} (loader : Loader) (sourceName : Text)

theorem parse_of_not_isDocument (h : ¬ IsDocument document) :
    ∃ first others, violations loader.validator document = first :: others ∧
      parse loader sourceName document = .error ⟨sourceName, .invalid first others⟩ := by
  obtain ⟨first, others, hviolations⟩ := List.exists_cons_of_ne_nil (mt (violations_eq_nil_iff _).1 h)
  exact ⟨first, others, hviolations, by rw [parse, hviolations]⟩

theorem parse_eq_ok_iff {profiles : List Profile} :
    parse loader sourceName document = .ok profiles ↔
      ∃ entries, document.member? "profiles" = some (.array entries) ∧ (∀ entry ∈ entries, IsEntry entry) ∧
        profiles = declared loader.defaultSource sourceName entries := by
  by_cases h : IsDocument document
  · obtain ⟨entries, hentries, hall⟩ := h
    have hparse : parse loader sourceName document = .ok (declared loader.defaultSource sourceName entries) := by
      rw [parse, (violations_eq_nil_iff _).2 ⟨entries, hentries, hall⟩, hentries]
      rfl
    rw [hparse, Except.ok.injEq]
    constructor
    · rintro rfl
      exact ⟨entries, hentries, hall, rfl⟩
    · rintro ⟨others, hothers, -, rfl⟩
      rw [hentries] at hothers
      cases hothers
      rfl
  · obtain ⟨first, others, -, hparse⟩ := parse_of_not_isDocument loader sourceName h
    rw [hparse]
    exact ⟨fun hok => (nomatch hok), fun ⟨entries, hentries, hall, _⟩ => (h ⟨entries, hentries, hall⟩).elim⟩

end

/-- **Exactly the documents of declarations are parsed**, and give what their
entries declare. Every other one is refused under the name of its source, with
the details of its violations, the first of them at the end of the message; and
to sort these no position is ever compared with a name. -/
theorem parse_ok_iff_isDocument (loader : Loader) (sourceName : Text) (document : Json.Value) :
    ((∃ profiles, parse loader sourceName document = .ok profiles) ↔ IsDocument document) ∧
    (∀ profiles, parse loader sourceName document = .ok profiles →
      ∃ entries, document.member? "profiles" = some (.array entries) ∧
        List.Forall₂ (Declares loader.defaultSource) entries profiles) ∧
    (¬ IsDocument document → ∃ error first others before,
      parse loader sourceName document = .error error ∧ error.path = sourceName ∧
        error.details = first :: others ∧ error.message = before ++ first) ∧
    ∀ a ∈ loader.validator.violations schema document,
      ∀ b ∈ loader.validator.violations schema document, ComparablePaths a.path b.path := by
  simp only [parse_eq_ok_iff]
  refine ⟨⟨?_, ?_⟩, ?_, fun h => ?_, fun a ha b hb => comparable_violations ha hb⟩
  · rintro ⟨profiles, entries, hentries, hall, -⟩
    exact ⟨entries, hentries, hall⟩
  · rintro ⟨entries, hentries, hall⟩
    exact ⟨_, entries, hentries, hall, rfl⟩
  · rintro profiles ⟨entries, hentries, hall, rfl⟩
    exact ⟨entries, hentries, declares_declared hall loader.defaultSource sourceName⟩
  · obtain ⟨first, others, -, herror⟩ := parse_of_not_isDocument loader sourceName h
    exact ⟨_, first.detail, others.map (·.detail), _, herror, rfl, rfl, rfl⟩

/-- A document with a member that is not asked for is parsed. One in which an
activation is null and an id is missing is refused. -/
theorem parse_open_and_broken :
    let good : Json.Value := .object [("version", .int 2),
      ("profiles", .array [.object [("activation", .object [("property", .object [])]), ("id", .text "ci")]])]
    let bad : Json.Value := .object [
      ("profiles", .array [.object [("id", .text "ci"), ("activation", .null)], .object []])]
    let loader : Loader := ⟨.standard, "pom"⟩
    (∃ profiles, parse loader "p.json" good = .ok profiles) ∧ ¬ IsDocument bad ∧
      ∃ error first others before, parse loader "p.json" bad = .error error ∧ error.path = "p.json" ∧
        error.details = first :: others ∧ error.message = before ++ first := by
  intro good bad loader
  have hgood : IsDocument good :=
    (violations_eq_nil_iff .standard).1 (List.length_eq_zero_iff.1 (by decide +kernel))
  have hbad : ¬ IsDocument bad := by
    intro h
    have htwo : (violations .standard bad).length = 2 := by
      rw [violations, Violation.sorted, List.length_mergeSort]
      decide +kernel
    rw [(violations_eq_nil_iff _).2 h] at htwo
    cases htwo
  obtain ⟨-, -, refused, -⟩ := parse_ok_iff_isDocument loader "p.json" bad
  exact ⟨(parse_ok_iff_isDocument loader "p.json" good).1.2 hgood, hbad, refused hbad⟩

end BuildProfiles.Definitions
