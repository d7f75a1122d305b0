/-
Which violations can be put in order.

Two paths that a schema reaches first differ in two positions or in two names,
never in one of each (`Reaches.comparable`), so that sorting the violations that
lie there has an order between any two.
-/
import BuildProfiles.Definitions.Schema
import Mathlib.Data.List.Nodup

namespace BuildProfiles

namespace Schema

/-- No record has two fields of one name. -/
inductive Distinct : Schema → Prop
  | text {filled} : Distinct (.text filled)
  | flag : Distinct .flag
  | list {items} : Distinct items → Distinct (.list items)
  | record {required closed fields} : (fields.map Prod.fst).Nodup → (∀ field ∈ fields, Distinct field.2) →
      Distinct (.record required closed fields)

end Schema

/-- Two positions, or two names. -/
def PathStep.Alike : PathStep → PathStep → Prop
  | .item _, .item _ => True
  | .member _, .member _ => True
  | _, _ => False

/-- Where the paths first differ, they do so in two positions or two names, or
in one of them being at its end. -/
def ComparablePaths : List PathStep → List PathStep → Prop
  | a :: as, b :: bs => a.Alike b ∧ (a = b → ComparablePaths as bs)
  | _, _ => True

theorem Schema.Reaches.comparable {schema : Schema} (distinct : schema.Distinct) {a b : List PathStep}
    (ha : schema.Reaches a) (hb : schema.Reaches b) : ComparablePaths a b := by
  induction ha generalizing b with
  | here => exact trivial
  | item _ ih =>
    cases distinct with
    | list distinct =>
      cases hb with
      | here => exact trivial
      | item hb => exact ⟨trivial, fun _ => ih distinct hb⟩
  | @member _ _ _ field _ hfield _ ih =>
    cases distinct with
    | record nodup distinct =>
      cases hb with
      | here => exact trivial
      | @member _ _ _ other _ hother hb =>
        refine ⟨trivial, fun heq => ih (distinct _ hfield) ?_⟩
        -- A name belongs to one field, so both paths go on in the same schema.
        have hsame : field = other := by
          injection heq with hname
          exact List.inj_on_of_nodup_map nodup hfield hother hname
        exact hsame ▸ hb

end BuildProfiles
