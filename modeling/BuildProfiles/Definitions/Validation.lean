/-
A validator that lists the violations of a value from the outside in.

A value has no violation exactly when the schema accepts it
(`violations_eq_nil_iff`), and a violation lies on a path that the schema reaches
(`reaches_of_mem_violations`).
-/
import BuildProfiles.Definitions.Schema

namespace BuildProfiles

/-- The kinds of values that schemas ask for. -/
inductive ValueKind where
  | object
  | array
  | string
  | boolean
  deriving DecidableEq, Repr

inductive Fault where
  | wrongKind (value : Json.Value) (kind : ValueKind)
  | missingMember (name : Text)
  | emptyText
  | unexpectedMembers (names : List Text)

namespace ValueKind

def name : ValueKind → Text
  | .object => "object"
  | .array => "array"
  | .string => "string"
  | .boolean => "boolean"

end ValueKind

def Fault.message : Fault → Text
  | .wrongKind value kind => value.inspect ++ " is not of type " ++ Text.quoted kind.name
  | .missingMember name => Text.quoted name ++ " is a required property"
  | .emptyText => Text.quoted "" ++ " should be non-empty"
  | .unexpectedMembers names =>
    "Additional properties are not allowed (" ++ Text.intercalate ", " (names.map Text.quoted)
      ++ (if names.length = 1 then " was" else " were") ++ " unexpected)"

namespace Schema

def kind : Schema → ValueKind
  | .text _ => .string
  | .flag => .boolean
  | .list _ => .array
  | .record .. => .object

/-- The names of an object's members that no field describes, by code points. -/
def unexpected (fields : List (Text × Schema)) (members : List (Text × Json.Value)) :
    List Text :=
  ((members.map Prod.fst).filter fun name => !(fields.map Prod.fst).contains name).mergeSort
    fun a b => decide (a ≤ b)

/-- The faults of an object apart from those of its members. -/
def recordFaults (required : List Text) (closed : Bool) (fields : List (Text × Schema))
    (members : List (Text × Json.Value)) : List Fault :=
  let missing := required.filter fun name => !(members.map Prod.fst).contains name
  let extra := if closed then unexpected fields members else []
  missing.map .missingMember ++ if extra.isEmpty then [] else [.unexpectedMembers extra]

mutual

/-- What is wrong with the value at a path: its own faults, then those of its
members or items. Nothing more is said of a value of the wrong kind. -/
def violations (schema : Schema) (path : List PathStep) (value : Json.Value) : List Violation :=
  match schema, value with
  | .text filled, .text content =>
    if filled && content = "" then [⟨path, Fault.emptyText.message⟩] else []
  | .flag, .bool _ => []
  | .list items, .array values =>
    values.zipIdx.flatMap fun (value, position) => violations items (path ++ [.item position]) value
  | .record required closed fields, .object members =>
    (recordFaults required closed fields members).map (⟨path, ·.message⟩) ++ fieldViolations fields path members
  | schema, value => [⟨path, (Fault.wrongKind value schema.kind).message⟩]

/-- What is wrong with the members that fields describe, in the order of the fields. -/
def fieldViolations (fields : List (Text × Schema)) (path : List PathStep)
    (members : List (Text × Json.Value)) : List Violation :=
  match fields with
  | [] => []
  | (name, schema) :: fields =>
    (match members.lookup name with
      | some value => violations schema (path ++ [.member name]) value
      | none => []) ++ fieldViolations fields path members

end

variable {path : List PathStep} {violation : Violation} {schema : Schema}
  {fields : List (Text × Schema)} {members : List (Text × Json.Value)}

/-! ## Violations of the parts -/

theorem mem_violations_list {items : List Json.Value} :
    violation ∈ violations (.list schema) path (.array items) ↔
      ∃ position item, items[position]? = some item ∧
        violation ∈ violations schema (path ++ [.item position]) item := by
  rw [violations, List.mem_flatMap]
  constructor
  · intro ⟨placed, hplaced, h⟩
    exact ⟨placed.2, placed.1, List.mk_mem_zipIdx_iff_getElem?.1 hplaced, h⟩
  · intro ⟨position, item, hitem, h⟩
    exact ⟨(item, position), List.mk_mem_zipIdx_iff_getElem?.2 hitem, h⟩

theorem mem_fieldViolations :
    violation ∈ fieldViolations fields path members ↔
      ∃ field ∈ fields, ∃ value, members.lookup field.1 = some value ∧
        violation ∈ violations field.2 (path ++ [.member field.1]) value := by
  induction fields with
  | nil => simp [fieldViolations]
  | cons field fields ih =>
    simp only [fieldViolations, List.mem_append, ih, List.mem_cons, exists_eq_or_imp]
    refine or_congr ?_ Iff.rfl
    cases members.lookup field.1 <;> simp

theorem violations_list_eq_nil_iff {items : List Json.Value} :
    violations (.list schema) path (.array items) = [] ↔
      ∀ position item, items[position]? = some item →
        violations schema (path ++ [.item position]) item = [] := by
  simp only [List.eq_nil_iff_forall_not_mem, mem_violations_list, not_exists, not_and]
  exact ⟨fun h position item hitem violation => h violation position item hitem,
    fun h violation position item hitem => h position item hitem violation⟩

theorem fieldViolations_eq_nil_iff :
    fieldViolations fields path members = [] ↔
      ∀ field ∈ fields, ∀ value, members.lookup field.1 = some value →
        violations field.2 (path ++ [.member field.1]) value = [] := by
  simp only [List.eq_nil_iff_forall_not_mem, mem_fieldViolations, not_exists, not_and]
  exact ⟨fun h field hfield value hvalue violation => h violation field hfield value hvalue,
    fun h violation field hfield value hvalue => h field hfield value hvalue violation⟩

/-! ## What a schema accepts -/

theorem unexpected_eq_nil_iff :
    unexpected fields members = [] ↔ ∀ name ∈ members.map Prod.fst, name ∈ fields.map Prod.fst := by
  rw [unexpected, ← List.length_eq_zero_iff, List.length_mergeSort, List.length_eq_zero_iff,
    List.filter_eq_nil_iff]
  simp

theorem recordFaults_eq_nil_iff {required : List Text} {closed : Bool} :
    recordFaults required closed fields members = [] ↔
      (∀ name ∈ required, name ∈ members.map Prod.fst) ∧
        (closed = true → ∀ name ∈ members.map Prod.fst, name ∈ fields.map Prod.fst) := by
  rw [← unexpected_eq_nil_iff, recordFaults, List.append_eq_nil_iff]
  refine and_congr ?_ ?_
  · rw [List.map_eq_nil_iff, List.filter_eq_nil_iff]
    simp
  · cases closed <;> simp

/-- Induction on schemas: a record comes after the schemas of its fields. -/
@[induction_eliminator]
theorem induction {motive : Schema → Prop} (text : ∀ filled, motive (.text filled)) (flag : motive .flag)
    (list : ∀ items, motive items → motive (.list items))
    (record : ∀ required closed fields, (∀ field ∈ fields, motive field.2) →
      motive (.record required closed fields)) : ∀ schema, motive schema
  | .text filled => text filled
  | .flag => flag
  | .list items => list items (induction text flag list record items)
  | .record required closed fields => record required closed fields fun field _ =>
    induction text flag list record field.2
termination_by schema => sizeOf schema
decreasing_by
  · simp
  · rename_i hfield
    have := List.sizeOf_lt_of_mem hfield
    obtain ⟨name, schema⟩ := field
    simp only [Prod.mk.sizeOf_spec, Schema.record.sizeOf_spec] at *
    omega

/-- **A value has no violation exactly when the schema accepts it.** -/
theorem violations_eq_nil_iff (schema : Schema) (path : List PathStep) (value : Json.Value) :
    schema.violations path value = [] ↔ schema.Accepts value := by
  induction schema generalizing path value with
  | text filled =>
    cases value with
    | text content =>
      rw [violations]
      refine ⟨fun h => .text fun hfilled hempty => by simp [hfilled, hempty] at h, fun h => ?_⟩
      cases h with
      | text h => exact if_neg (by simpa using h)
    | _ => exact ⟨fun h => (List.cons_ne_nil _ _ h).elim, fun h => nomatch h⟩
  | flag =>
    cases value with
    | bool value => exact ⟨fun _ => .flag, fun _ => by rw [violations]⟩
    | _ => exact ⟨fun h => (List.cons_ne_nil _ _ h).elim, fun h => nomatch h⟩
  | list schema ih =>
    cases value with
    | array items =>
      simp only [violations_list_eq_nil_iff, ih]
      constructor
      · intro h
        refine .list fun item hitem => ?_
        obtain ⟨position, hposition⟩ := List.getElem?_of_mem hitem
        exact h position item hposition
      · intro h position item hposition
        cases h with
        | list h => exact h item (List.mem_of_getElem? hposition)
    | _ => exact ⟨fun h => (List.cons_ne_nil _ _ h).elim, fun h => nomatch h⟩
  | record required closed fields ih =>
    cases value with
    | object members =>
      have hfields : fieldViolations fields path members = [] ↔
          ∀ field ∈ fields, ∀ value, members.lookup field.1 = some value → Accepts field.2 value := by
        rw [fieldViolations_eq_nil_iff]
        exact forall₂_congr fun field hfield => forall₂_congr fun value _ => ih field hfield _ value
      rw [violations, List.append_eq_nil_iff, List.map_eq_nil_iff, recordFaults_eq_nil_iff, hfields]
      constructor
      · intro ⟨⟨hrequired, hclosed⟩, hfields⟩
        exact .record hrequired hclosed hfields
      · intro h
        cases h with
        | record hrequired hclosed hfields => exact ⟨⟨hrequired, hclosed⟩, hfields⟩
    | _ => exact ⟨fun h => (List.cons_ne_nil _ _ h).elim, fun h => nomatch h⟩

/-! ## Where violations lie -/

/-- A value's own faults lie where the value is. -/
theorem reaches_of_own (faults : List Fault) (h : violation ∈ faults.map (⟨path, ·.message⟩)) (schema : Schema) :
    ∃ rest, violation.path = path ++ rest ∧ schema.Reaches rest := by
  obtain ⟨fault, -, rfl⟩ := List.mem_map.1 h
  exact ⟨[], (List.append_nil path).symm, .here⟩

/-- Every violation lies behind the path of the value, where the schema reaches. -/
theorem reaches_of_mem_violations {value : Json.Value} (h : violation ∈ schema.violations path value) :
    ∃ rest, violation.path = path ++ rest ∧ schema.Reaches rest := by
  induction schema generalizing path value with
  | text filled =>
    cases value with
    | text content =>
      rw [violations] at h
      split at h
      · exact reaches_of_own [.emptyText] h _
      · cases h
    | _ => exact reaches_of_own [.wrongKind _ _] h _
  | flag =>
    cases value with
    | bool value => rw [violations] at h; cases h
    | _ => exact reaches_of_own [.wrongKind _ _] h _
  | list items ih =>
    cases value with
    | array values =>
      obtain ⟨position, item, -, hitem⟩ := mem_violations_list.1 h
      obtain ⟨rest, hpath, hrest⟩ := ih hitem
      exact ⟨.item position :: rest, by rw [hpath, List.append_assoc]; rfl, .item hrest⟩
    | _ => exact reaches_of_own [.wrongKind _ _] h _
  | record required closed fields ih =>
    cases value with
    | object members =>
      rw [violations, List.mem_append] at h
      rcases h with h | h
      · exact reaches_of_own _ h _
      · obtain ⟨field, hfield, value, -, hvalue⟩ := mem_fieldViolations.1 h
        obtain ⟨rest, hpath, hrest⟩ := ih field hfield hvalue
        exact ⟨.member field.1 :: rest, by rw [hpath, List.append_assoc]; rfl, .member hfield hrest⟩
    | _ => exact reaches_of_own [.wrongKind _ _] h _

end Schema

/-- The validator that comes with the program. -/
def Validator.standard : Validator where
  violations schema value := schema.violations [] value
  accepts_iff schema value := Schema.violations_eq_nil_iff schema [] value
  reaches schema value violation h := by
    obtain ⟨path, hpath, hreaches⟩ := Schema.reaches_of_mem_violations h
    rwa [hpath]

end BuildProfiles
