/-
Named texts: a finite map from names to values that keeps the order in which
the names first arrived.

The view is `get?`. `get?_insert` and `get?_update` say what the operations do
to it: the entry written last is the one that is read.
-/
import BuildProfiles.Text

namespace BuildProfiles

/-- Among entries of distinct names each is found under its name. -/
theorem lookup_eq_some_iff_mem {β : Type} {entries : List (Text × β)}
    (distinct : (entries.map Prod.fst).Nodup) {name : Text} {value : β} :
    entries.lookup name = some value ↔ (name, value) ∈ entries := by
  rw [List.lookup_eq_some_iff]
  refine ⟨fun h => ?_, fun hmem => ?_⟩
  · obtain ⟨before, rest, rfl, -⟩ := h
    simp
  · obtain ⟨before, rest, rfl⟩ := List.append_of_mem hmem
    refine ⟨before, rest, rfl, fun entry hentry => ?_⟩
    rw [List.map_append, List.map_cons, List.nodup_append] at distinct
    have hne := distinct.2.2 entry.1 (List.mem_map_of_mem hentry) name List.mem_cons_self
    simpa using hne.symm

/-- A value for each of finitely many names, in the order in which the names
first arrived. -/
structure Properties where
  entries : List (Text × Text)
  distinct : (entries.map Prod.fst).Nodup
  deriving DecidableEq

namespace Properties

/-- The entries with `name` set to `value`: in its place if the name is there,
else at the end. -/
def set (name value : Text) : List (Text × Text) → List (Text × Text)
  | [] => [(name, value)]
  | entry :: entries =>
    if entry.1 = name then (name, value) :: entries else entry :: set name value entries

theorem mem_names_set {name value x : Text} {entries : List (Text × Text)} :
    x ∈ (set name value entries).map Prod.fst ↔ x = name ∨ x ∈ entries.map Prod.fst := by
  induction entries with
  | nil => simp [set]
  | cons entry entries ih =>
    rw [set]
    split
    · rename_i h
      simp only [List.map_cons, List.mem_cons, h]
      exact ⟨.inr, fun h => h.elim .inl id⟩
    · simp only [List.map_cons, List.mem_cons, ih]
      exact or_left_comm

theorem nodup_names_set {name value : Text} {entries : List (Text × Text)}
    (h : (entries.map Prod.fst).Nodup) : ((set name value entries).map Prod.fst).Nodup := by
  induction entries with
  | nil => simp [set]
  | cons entry entries ih =>
    rw [List.map_cons, List.nodup_cons] at h
    rw [set]
    split
    · rename_i hn
      rw [List.map_cons, List.nodup_cons]
      exact ⟨hn ▸ h.1, h.2⟩
    · rename_i hn
      rw [List.map_cons, List.nodup_cons, mem_names_set, not_or]
      exact ⟨⟨hn, h.1⟩, ih h.2⟩

theorem lookup_cons (x : Text) (entry : Text × Text) (entries : List (Text × Text)) :
    (entry :: entries).lookup x = if x = entry.1 then some entry.2 else entries.lookup x := by
  rw [List.lookup_cons]
  by_cases h : x = entry.1
  · simp [h]
  · simp [h, beq_eq_false_iff_ne.2 h]

theorem lookup_set (name value x : Text) (entries : List (Text × Text)) :
    (set name value entries).lookup x = if x = name then some value else entries.lookup x := by
  induction entries with
  | nil => rw [set, lookup_cons]
  | cons entry entries ih =>
    rw [set]
    split
    · rename_i h
      subst h
      by_cases hx : x = entry.1 <;> simp [lookup_cons, hx]
    · rename_i h
      by_cases hx : x = entry.1
      · subst hx; simp [lookup_cons, h]
      · simp [lookup_cons, hx, ih]

def empty : Properties := ⟨[], .nil⟩

instance : Inhabited Properties := ⟨empty⟩

def get? (p : Properties) (name : Text) : Option Text := p.entries.lookup name

def insert (p : Properties) (name value : Text) : Properties :=
  ⟨set name value p.entries, nodup_names_set p.distinct⟩

/-- `p` with every entry written in turn. -/
def insertMany (p : Properties) (entries : List (Text × Text)) : Properties :=
  entries.foldl (fun p entry => p.insert entry.1 entry.2) p

/-- The entries, where a later one replaces an earlier one of its name. -/
def ofList (entries : List (Text × Text)) : Properties := empty.insertMany entries

/-- `p` with every entry of `q` written over it. -/
def update (p q : Properties) : Properties := p.insertMany q.entries

theorem get?_eq_some_iff {p : Properties} {name value : Text} :
    p.get? name = some value ↔ (name, value) ∈ p.entries := lookup_eq_some_iff_mem p.distinct

@[simp] theorem get?_empty (name : Text) : empty.get? name = none := rfl

@[simp] theorem get?_insert (p : Properties) (name value x : Text) :
    (p.insert name value).get? x = if x = name then some value else p.get? x :=
  lookup_set name value x p.entries

/-- The last entry of a name is the one that is read. -/
theorem get?_insertMany (p : Properties) (entries : List (Text × Text)) (x : Text) :
    (p.insertMany entries).get? x = (entries.reverse.lookup x).or (p.get? x) := by
  induction entries generalizing p with
  | nil => simp [insertMany]
  | cons entry entries ih =>
    have := ih (p.insert entry.1 entry.2)
    rw [insertMany] at this ⊢
    rw [List.foldl_cons, this, get?_insert, List.reverse_cons, List.lookup_append, Option.or_assoc]
    by_cases hx : x = entry.1 <;> simp [lookup_cons, hx]

theorem lookup_reverse {entries : List (Text × Text)} (h : (entries.map Prod.fst).Nodup)
    (x : Text) : entries.reverse.lookup x = entries.lookup x := by
  induction entries with
  | nil => rfl
  | cons entry entries ih =>
    rw [List.map_cons, List.nodup_cons] at h
    rw [List.reverse_cons, List.lookup_append, ih h.2]
    by_cases hx : x = entry.1
    · have : entries.lookup x = none := by
        rw [List.lookup_eq_none_iff]
        intro e he
        have : e.1 ≠ x := fun hn => h.1 (hx ▸ hn ▸ List.mem_map_of_mem he)
        simpa using this.symm
      rw [this]; simp [lookup_cons, hx]
    · simp [lookup_cons, hx]

/-- The second map wins. -/
@[simp] theorem get?_update (p q : Properties) (x : Text) :
    (p.update q).get? x = (q.get? x).or (p.get? x) := by
  rw [update, get?_insertMany, lookup_reverse q.distinct]; rfl

end Properties

end BuildProfiles
