/-
The violations of a document in the order of their paths.

`PathBefore` says which of two paths comes first: the beginning of the other, or
the one that has the lower position or the lesser name where they first differ.
The comparison that sorts violations says so of all paths that can be told apart
(`isLE_comparePaths_iff`), and those of a document can. Sorting loses nothing and
keeps the order of violations at one path (`filter_mergeSort`), so the details of a
refused document are all its violations in that order (`details_in_path_order`).
-/
import BuildProfiles.Proofs.Declarations
import Mathlib.Data.List.Sort

namespace BuildProfiles

/-! ## The order of texts -/

namespace Text

instance : Std.TransOrd Text :=
  Std.TransCmp.compareOfLessAndEq_of_irrefl_of_trans_of_antisymm (fun s => List.lt_irrefl s.numbers)
    List.lt_trans fun hst hts => numbers_inj.1 (List.le_antisymm (List.not_lt.1 hts) (List.not_lt.1 hst))

instance : Std.LawfulEqOrd Text where
  eq_of_compare {s t} h := by
    simp only [compare, compareOfLessAndEq] at h
    split at h
    · cases h
    · split at h
      · assumption
      · cases h

end Text

/-! ## Which path comes first -/

/-- A position comes before the higher ones, and a name before those that are
greater by their code points. -/
inductive PathStep.Before : PathStep → PathStep → Prop
  | item {i j} : i < j → Before (.item i) (.item j)
  | member {a b} : a < b → Before (.member a) (.member b)

/-- A path comes before its extensions, and otherwise the first difference decides. -/
inductive PathBefore : List PathStep → List PathStep → Prop
  | extension {step rest} : PathBefore [] (step :: rest)
  | first {a b as bs} : a.Before b → PathBefore (a :: as) (b :: bs)
  | later {step as bs} : PathBefore as bs → PathBefore (step :: as) (step :: bs)

instance : DecidableRel PathStep.Before
  | .item i, .item j => decidable_of_iff (i < j) ⟨.item, fun h => by cases h; assumption⟩
  | .item _, .member _ => isFalse fun h => by cases h
  | .member _, .item _ => isFalse fun h => by cases h
  | .member a, .member b => decidable_of_iff (a < b) ⟨.member, fun h => by cases h; assumption⟩

theorem pathBefore_cons_iff {a b : PathStep} {as bs : List PathStep} :
    PathBefore (a :: as) (b :: bs) ↔ a.Before b ∨ a = b ∧ PathBefore as bs := by
  constructor
  · intro h
    cases h with
    | first h => exact .inl h
    | later h => exact .inr ⟨rfl, h⟩
  · rintro (h | ⟨rfl, h⟩)
    · exact .first h
    · exact .later h

instance decidablePathBefore : DecidableRel PathBefore
  | [], [] => isFalse fun h => by cases h
  | [], _ :: _ => isTrue .extension
  | _ :: _, [] => isFalse fun h => by cases h
  | a :: as, b :: bs =>
    have := decidablePathBefore as bs
    decidable_of_iff _ pathBefore_cons_iff.symm

/-! ## The comparison -/

namespace PathStep

instance : Std.TransCmp PathStep.compare where
  eq_swap {a b} := by
    cases a <;> cases b <;> simp only [PathStep.compare, Ordering.swap]
    · exact Std.OrientedCmp.eq_swap
    · exact Std.OrientedCmp.eq_swap
  isLE_trans {a b c} hab hbc := by
    -- What is left are the steps of one kind.
    cases a <;> cases b <;> cases c <;>
      simp only [PathStep.compare, Ordering.isLE_lt, Ordering.isLE_gt, Bool.false_eq_true] at hab hbc ⊢
    · exact Std.TransCmp.isLE_trans hab hbc
    · exact Std.TransCmp.isLE_trans hab hbc

instance : Std.LawfulEqCmp PathStep.compare where
  compare_self {a} := by cases a <;> exact Std.ReflCmp.compare_self
  eq_of_compare {a b} h := by
    cases a <;> cases b <;> simp only [PathStep.compare] at h
    · rw [Std.LawfulEqCmp.eq_of_compare h]
    · cases h
    · cases h
    · rw [Std.LawfulEqCmp.eq_of_compare h]

theorem Before.compare_eq {a b : PathStep} (h : a.Before b) : PathStep.compare a b = .lt := by
  cases h with
  | item h => exact Std.compare_eq_lt.2 h
  | member h => exact compareOfLessAndEq_eq_lt.2 h

theorem Alike.compare_eq_lt_iff {a b : PathStep} (h : a.Alike b) :
    PathStep.compare a b = .lt ↔ a.Before b := by
  refine ⟨fun hlt => ?_, Before.compare_eq⟩
  cases a <;> cases b
  · exact .item (Std.compare_eq_lt.1 hlt)
  · cases h
  · cases h
  · exact .member (compareOfLessAndEq_eq_lt.1 hlt)

end PathStep

theorem comparePaths_eq : comparePaths = List.compareLex PathStep.compare := by
  funext a b
  fun_induction comparePaths a b with
  | case1 => rfl
  | case2 => rfl
  | case3 => rfl
  | case4 a as b bs ih => rw [ih, List.compareLex_cons_cons]

instance : Std.TransCmp comparePaths := comparePaths_eq ▸ inferInstance

instance : Std.LawfulEqCmp comparePaths := comparePaths_eq ▸ inferInstance

theorem PathBefore.compare_eq {a b : List PathStep} (h : PathBefore a b) : comparePaths a b = .lt := by
  induction h with
  | extension => rfl
  | first h =>
    rw [comparePaths, h.compare_eq]
    rfl
  | @later step _ _ _ ih =>
    have hstep : PathStep.compare step step = .eq := Std.ReflCmp.compare_self
    rw [comparePaths, hstep, ih]
    rfl

theorem comparePaths_eq_lt_iff {a b : List PathStep} (h : ComparablePaths a b) :
    comparePaths a b = .lt ↔ PathBefore a b := by
  refine ⟨fun hlt => ?_, PathBefore.compare_eq⟩
  fun_induction comparePaths a b with
  | case1 => cases hlt
  | case2 => exact .extension
  | case3 => cases hlt
  | case4 a as b bs ih =>
    rw [Ordering.then_eq_lt, h.1.compare_eq_lt_iff, Std.LawfulEqCmp.compare_eq_iff_eq] at hlt
    rcases hlt with hfirst | ⟨hsame, hlater⟩
    · exact .first hfirst
    · subst hsame
      exact .later (ih (h.2 rfl) hlater)

/-- The path comes before the other, or is the same. -/
def PathUpTo (a b : List PathStep) : Prop := a = b ∨ PathBefore a b

instance : DecidableRel PathUpTo := fun a b => inferInstanceAs (Decidable (a = b ∨ PathBefore a b))

/-- **Sorting goes by which path comes first**, wherever two paths can be told apart. -/
theorem isLE_comparePaths_iff {a b : List PathStep} (h : ComparablePaths a b) :
    (comparePaths a b).isLE = true ↔ PathUpTo a b := by
  rw [Ordering.isLE_iff_eq_lt_or_eq_eq, comparePaths_eq_lt_iff h, Std.LawfulEqCmp.compare_eq_iff_eq]
  exact or_comm

theorem PathUpTo.antisymm {a b : List PathStep} (hab : PathUpTo a b) (hba : PathUpTo b a) : a = b := by
  rcases hab with h | hab
  · exact h
  rcases hba with h | hba
  · exact h.symm
  · have hswap : comparePaths a b = (comparePaths b a).swap := Std.OrientedCmp.eq_swap
    rw [hab.compare_eq, hba.compare_eq] at hswap
    cases hswap

/-! ## Sorting -/

/-- Sorting keeps the order of elements none of which comes before another. -/
theorem filter_mergeSort {α : Type} {le : α → α → Bool} (trans : ∀ a b c, le a b → le b c → le a c)
    (total : ∀ a b, le a b || le b a) {p : α → Bool} (alike : ∀ a b, p a = true → p b = true → le a b = true)
    (l : List α) : (l.mergeSort le).filter p = l.filter p := by
  have hpairwise : (l.filter p).Pairwise fun a b => le a b = true := by
    refine List.pairwise_of_forall_mem_list fun a ha b hb => ?_
    exact alike a b (List.mem_filter.1 ha).2 (List.mem_filter.1 hb).2
  have hkept : (l.filter p).Sublist (l.mergeSort le) :=
    List.sublist_mergeSort trans total hpairwise List.filter_sublist
  have hsublist : (l.filter p).Sublist ((l.mergeSort le).filter p) := by
    have hfiltered := hkept.filter p
    rwa [List.filter_filter, List.filter_congr fun a _ => Bool.and_self (p a)] at hfiltered
  exact (hsublist.eq_of_length ((List.mergeSort_perm l le).filter p).length_eq.symm).symm

/-- The second list has the violations of the first in the order of their paths,
those at one path in the order in which they were found. -/
structure ListedInOrder (found listed : List Violation) : Prop where
  perm : listed.Perm found
  ordered : listed.Pairwise fun a b => PathUpTo a.path b.path
  stable : ∀ path, listed.filter (·.path = path) = found.filter (·.path = path)

theorem listedInOrder_sorted {found : List Violation}
    (comparable : ∀ a ∈ found, ∀ b ∈ found, ComparablePaths a.path b.path) :
    ListedInOrder found (Violation.sorted found) := by
  have trans : ∀ a b c : Violation, (comparePaths a.path b.path).isLE = true →
      (comparePaths b.path c.path).isLE = true → (comparePaths a.path c.path).isLE = true :=
    fun _ _ _ => Std.TransCmp.isLE_trans
  have total : ∀ a b : Violation,
      ((comparePaths a.path b.path).isLE || (comparePaths b.path a.path).isLE) = true := by
    intro a b
    have hswap : comparePaths b.path a.path = (comparePaths a.path b.path).swap := Std.OrientedCmp.eq_swap
    rw [hswap]
    cases comparePaths a.path b.path <;> rfl
  refine ⟨List.mergeSort_perm _ _, ?_, fun path => filter_mergeSort trans total ?_ found⟩
  · refine (List.pairwise_mergeSort trans total found).imp_of_mem fun ha hb h => ?_
    exact (isLE_comparePaths_iff (comparable _ (List.mem_mergeSort.1 ha) _ (List.mem_mergeSort.1 hb))).1 h
  · intro a b ha hb
    rw [decide_eq_true_iff] at ha hb
    have hpath : comparePaths path path = .eq := Std.ReflCmp.compare_self
    rw [ha, hb, hpath]
    rfl

/-! ## The details of a refused document -/

namespace Definitions

/-- A violation of a document is at the document itself or below its profiles. -/
theorem opens_of_reaches {path : List PathStep} (h : schema.Reaches path) :
    path = [] ∨ ∃ rest, path = .member "profiles" :: rest := by
  cases h with
  | here => exact .inl rfl
  | member hfield _ =>
    rw [List.mem_singleton.1 hfield]
    exact .inr ⟨_, rfl⟩

/-- Where a violation lies: the elements of its path, or the document itself. -/
def place (path : List PathStep) : Text :=
  if path = [] then "<root>" else Text.intercalate "/" (path.map PathStep.text)

theorem intercalate_cons_ne_empty {separator text : Text} (h : text ≠ "") (texts : List Text) :
    Text.intercalate separator (text :: texts) ≠ "" := by
  rw [ne_eq, ← Text.toList_eq_nil] at h ⊢
  cases texts with
  | nil => simpa [Text.intercalate] using h
  | cons next texts => simp [Text.intercalate, h]

theorem detail_eq {validator : Validator} {document : Json.Value} {violation : Violation}
    (h : violation ∈ validator.violations schema document) :
    violation.detail = place violation.path ++ ": " ++ violation.message := by
  rw [Violation.detail, place]
  rcases opens_of_reaches (validator.reaches _ _ _ h) with hpath | ⟨rest, hpath⟩
  · rw [hpath]
    rfl
  · have hplace : Text.intercalate "/" ((PathStep.member "profiles" :: rest).map PathStep.text) ≠ "" :=
      intercalate_cons_ne_empty (by decide) _
    simp only [hpath, hplace, List.cons_ne_nil, if_false]

/-- **A refused document has all its violations listed in the order of their paths**,
each once and under its place; and to bring them into that order no position is
ever compared with a name. -/
theorem details_in_path_order (loader : Loader) (sourceName : Text) {document : Json.Value}
    (h : ¬ IsDocument document) :
    let found := loader.validator.violations schema document
    (∀ a ∈ found, ∀ b ∈ found, ComparablePaths a.path b.path) ∧
      ∃ (error : DefinitionError) (listed : List Violation),
        parse loader sourceName document = .error error ∧
        error.details = listed.map (·.detail) ∧ ListedInOrder found listed ∧
        ∀ violation ∈ listed, violation.detail = place violation.path ++ ": " ++ violation.message := by
  intro found
  have comparable : ∀ a ∈ found, ∀ b ∈ found, ComparablePaths a.path b.path :=
    fun a ha b hb => comparable_violations ha hb
  have hlisted : ListedInOrder found (violations loader.validator document) := listedInOrder_sorted comparable
  obtain ⟨first, others, hviolations, hparse⟩ := parse_of_not_isDocument loader sourceName h
  refine ⟨comparable, _, violations loader.validator document, hparse, ?_, hlisted, fun violation hmem => ?_⟩
  · rw [hviolations]
    rfl
  · exact detail_eq (hlisted.perm.mem_iff.1 hmem)

/-- The third entry has a fault in its activation, which comes before the one in its
id, and both come before the fault of the eleventh. -/
theorem details_of_two_entries :
    let good : Json.Value := .object [("id", .text "ci")]
    let bad : Json.Value := .object [("id", .text ""), ("activation", .null)]
    let document : Json.Value := .object [
      ("profiles", .array [good, good, bad, good, good, good, good, good, good, good, .object []])]
    let loader : Loader := ⟨.standard, "pom"⟩
    let found := loader.validator.violations schema document
    ¬ IsDocument document ∧
      found.map (place ·.path) = [("profiles/2/id" : Text), "profiles/2/activation", "profiles/10"] ∧
      ∃ (error : DefinitionError) (listed : List Violation), parse loader "p.json" document = .error error ∧
        error.details = listed.map (·.detail) ∧
        listed.map (place ·.path) = [("profiles/2/activation" : Text), "profiles/2/id", "profiles/10"] := by
  intro good bad document loader found
  let entry (position : Nat) (below : List PathStep) : List PathStep :=
    .member "profiles" :: .item position :: below
  have hfound : found.map (·.path) =
      [entry 2 [.member "id"], entry 2 [.member "activation"], entry 10 []] := by decide +kernel
  have hbad : ¬ IsDocument document := by
    intro h
    have hnone : found = [] := (loader.validator.accepts_iff _ _).2 (accepts_document_iff.2 h)
    rw [hnone] at hfound
    cases hfound
  obtain ⟨-, error, listed, hparse, hdetails, hlisted, -⟩ := details_in_path_order loader "p.json" hbad
  have hpaths : listed.map (·.path) =
      [entry 2 [.member "activation"], entry 2 [.member "id"], entry 10 []] := by
    have hperm := (hlisted.perm.map (·.path)).trans (.of_eq hfound)
    exact List.Perm.eq_of_pairwise (fun _ _ _ _ => PathUpTo.antisymm)
      (List.pairwise_map.2 hlisted.ordered) (by decide) (hperm.trans (.swap _ _ _))
  have hplaces (violations : List Violation) :
      violations.map (place ·.path) = (violations.map (·.path)).map place := by
    rw [List.map_map]
    rfl
  refine ⟨hbad, ?_, error, listed, hparse, hdetails, ?_⟩
  · rw [hplaces, hfound]
    decide +kernel
  · rw [hplaces, hpaths]
    decide +kernel

end Definitions

end BuildProfiles
