/-
The order of versions.

`component v` is the sequence of the numbers of a version, which goes on with
zeros behind its last piece. Comparing two versions decides the lexicographic
order of these sequences (`compareComponents_compares`), which is linear: of two
versions one precedes the other, or they are level.
-/
import BuildProfiles.Version
import Mathlib.Order.PiLex

namespace BuildProfiles.Version

def Numeric (text : Text) : Prop :=
  ∀ piece ∈ text.toList.splitOnP isSeparator, (Numeral.read? piece).isSome

instance (text : Text) : Decidable (Numeric text) :=
  inferInstanceAs (Decidable (∀ piece ∈ _, _))

/-- The number at a place of a version, zero where it has no such place. -/
def component (version : Text) (place : Nat) : Int :=
  ((version.toList.splitOnP isSeparator)[place]?.bind Numeral.read?).getD 0

/-- At the first place where they differ, the left version has the smaller number. -/
def Precedes (left right : Text) : Prop :=
  ∃ i, (∀ j < i, component left j = component right j) ∧ component left i < component right i

/-- The versions have the same number at every place. -/
def Level (left right : Text) : Prop := ∀ i, component left i = component right i

/-! ## Lists of numbers -/

def padded (numbers : List Int) (place : Nat) : Int := numbers.getD place 0

/-- The first numbers decide, and where they are the same, the rest does. -/
theorem compares_of_rest {f g : Nat → Int} {o : Ordering}
    (h : o.Compares (toLex fun i => f (i + 1)) (toLex fun i => g (i + 1))) :
    ((Ord.compare (f 0) (g 0)).then o).Compares (toLex f) (toLex g) := by
  rcases lt_trichotomy (f 0) (g 0) with hlt | heq | hgt
  · rw [compare_lt_iff_lt.2 hlt]
    exact ⟨0, fun j hj => absurd hj (Nat.not_lt_zero j), hlt⟩
  · -- Both orders put off the decision to the rest, one place further on.
    have shift : ∀ {a b : Nat → Int}, a 0 = b 0 →
        toLex (fun i => a (i + 1)) < toLex (fun i => b (i + 1)) → toLex a < toLex b := by
      intro a b hab ⟨i, hbefore, hi⟩
      refine ⟨i + 1, fun j hj => ?_, hi⟩
      cases j with
      | zero => exact hab
      | succ j => exact hbefore j (Nat.lt_of_succ_lt_succ hj)
    rw [compare_eq_iff_eq.2 heq, Ordering.eq_then]
    cases o with
    | lt => exact shift heq h
    | gt => exact shift heq.symm h
    | eq =>
      have hrest := congrArg ofLex h
      refine congrArg toLex (funext fun i => ?_)
      cases i with
      | zero => exact heq
      | succ i => exact congrFun hrest i
  · rw [compare_gt_iff_gt.2 hgt]
    exact ⟨0, fun j hj => absurd hj (Nat.not_lt_zero j), hgt⟩

theorem compareZeros_compares (xs : List Int) :
    (compareZeros xs).Compares (toLex (padded xs)) (toLex (padded [])) := by
  induction xs with
  | nil => rfl
  | cons x xs ih => exact compares_of_rest (f := padded (x :: xs)) (g := padded []) ih

/-- **Comparing two lists of numbers decides the order of their sequences.** -/
theorem compareComponents_compares (xs ys : List Int) :
    (compareComponents xs ys).Compares (toLex (padded xs)) (toLex (padded ys)) := by
  fun_induction compareComponents xs ys with
  | case1 ys => exact Ordering.compares_swap.2 (compareZeros_compares ys)
  | case2 xs _ => exact compareZeros_compares xs
  | case3 x xs y ys ih => exact compares_of_rest (f := padded (x :: xs)) (g := padded (y :: ys)) ih

/-! ## Versions -/

/-- The numbers of a version, zero for a piece that writes none. -/
def numbers (version : Text) : List Int :=
  (version.toList.splitOnP isSeparator).map fun piece => (Numeral.read? piece).getD 0

theorem component_eq (version : Text) : component version = padded (numbers version) := by
  funext i
  rw [component, padded, numbers, List.getD_eq_getElem?_getD, List.getElem?_map]
  cases (version.toList.splitOnP isSeparator)[i]? <;> rfl

theorem mapM_eq_some_iff {α β : Type} {f : α → Option β} {as : List α} {bs : List β} :
    as.mapM f = some bs ↔ as.map f = bs.map some := by
  induction as generalizing bs with
  | nil => cases bs <;> simp
  | cons a as ih =>
    rw [List.mapM_cons, List.map_cons]
    cases bs with
    | nil => cases f a <;> cases as.mapM f <;> simp
    | cons b bs =>
      rw [List.map_cons, List.cons_eq_cons, ← ih]
      cases f a <;> cases as.mapM f <;> simp

theorem components?_eq {version : Text} (h : Numeric version) :
    components? version = some (numbers version) := by
  rw [components?, mapM_eq_some_iff, numbers, List.map_map]
  refine List.map_congr_left fun piece hmem => ?_
  obtain ⟨n, hn⟩ := Option.isSome_iff_exists.1 (h piece hmem)
  simp [hn]

theorem compare_eq {left right : Text} (hl : Numeric left) (hr : Numeric right) :
    compare left right = .ok (compareComponents (numbers left) (numbers right)) := by
  rw [compare, components, components, components?_eq hl, components?_eq hr]
  rfl

theorem compares_component (left right : Text) :
    (compareComponents (numbers left) (numbers right)).Compares
      (toLex (component left)) (toLex (component right)) := by
  rw [component_eq, component_eq]
  exact compareComponents_compares (numbers left) (numbers right)

theorem compareComponents_lt_iff {left right : Text} :
    compareComponents (numbers left) (numbers right) = .lt ↔ Precedes left right :=
  (compares_component left right).eq_lt

theorem compareComponents_gt_iff {left right : Text} :
    compareComponents (numbers left) (numbers right) = .gt ↔ Precedes right left :=
  (compares_component left right).eq_gt

theorem compareComponents_eq_iff {left right : Text} :
    compareComponents (numbers left) (numbers right) = .eq ↔ Level left right := by
  rw [(compares_component left right).eq_eq, toLex_inj, Level, funext_iff]

instance (left right : Text) : Decidable (Precedes left right) :=
  decidable_of_iff _ compareComponents_lt_iff

instance (left right : Text) : Decidable (Level left right) :=
  decidable_of_iff _ compareComponents_eq_iff

end BuildProfiles.Version
