/-
Halves of surrogate pairs in what is read.

Two units in a row that make a pair are read as its character, so no text that has
been read has a high half with a low one behind it (`unpaired_of_read`). For texts
that come from elsewhere, `Text.joined` says what becomes of such halves: a text
does not tell them from the character of the pair once it is written.
-/
import BuildProfiles.Proofs.Reading
import Mathlib.Data.List.Chain

namespace BuildProfiles

namespace CodePoint

/-- The half that opens a pair. -/
def IsHigh : CodePoint → Prop
  | char _ => False
  | surrogate n => n.val < 0x400

/-- The half that closes a pair. -/
def IsLow : CodePoint → Prop
  | char _ => False
  | surrogate n => 0x400 ≤ n.val

instance : DecidablePred IsHigh
  | char _ => isFalse id
  | surrogate n => inferInstanceAs (Decidable (n.val < 0x400))

instance : DecidablePred IsLow
  | char _ => isFalse id
  | surrogate n => inferInstanceAs (Decidable (0x400 ≤ n.val))

theorem isHigh_ofNat_iff {n : Nat} : (ofNat n).IsHigh ↔ 0xD800 ≤ n ∧ n < 0xDC00 := by
  unfold ofNat
  split <;> simp only [IsHigh, false_iff] <;> omega

theorem isLow_ofNat_iff {n : Nat} : (ofNat n).IsLow ↔ 0xDC00 ≤ n ∧ n < 0xE000 := by
  unfold ofNat
  split <;> simp only [IsLow, false_iff] <;> omega

theorem isHigh_iff {c : CodePoint} : c.IsHigh ↔ 0xD800 ≤ c.toNat ∧ c.toNat < 0xDC00 := by
  rw [← isHigh_ofNat_iff, ofNat_toNat]

theorem isLow_iff {c : CodePoint} : c.IsLow ↔ 0xDC00 ≤ c.toNat ∧ c.toNat < 0xE000 := by
  rw [← isLow_ofNat_iff, ofNat_toNat]

end CodePoint

namespace Text

/-- The code points with the character of the pair in the place of each high half
that a low one follows. -/
def joinedPoints : List CodePoint → List CodePoint
  | high :: low :: s =>
    if high.IsHigh ∧ low.IsLow then
      .ofNat (0x10000 + (high.toNat - 0xD800) * 0x400 + (low.toNat - 0xDC00)) :: joinedPoints s
    else high :: joinedPoints (low :: s)
  | s => s

def joined (s : Text) : Text := .ofList (joinedPoints s.toList)

/-- No high half has a low one behind it. -/
def Unpaired (s : List CodePoint) : Prop := s.IsChain fun c d => c.IsHigh → ¬ d.IsLow

theorem joinedPoints_of_unpaired {s : List CodePoint} (h : Unpaired s) : joinedPoints s = s := by
  fun_induction joinedPoints s with
  | case1 high low s hpair => exact absurd hpair.2 ((List.isChain_cons_cons.1 h).1 hpair.1)
  | case2 high low s _ ih => rw [ih (List.isChain_cons_cons.1 h).2]
  | case3 => rfl

theorem unpaired_chars (s : List Char) : Unpaired (s.map .char) := by
  induction s with
  | nil => exact .nil
  | cons c s ih => exact List.isChain_cons.2 ⟨fun _ _ => False.elim, ih⟩

theorem joined_of_unpaired {s : Text} (h : Unpaired s.toList) : s.joined = s := by
  rw [joined, joinedPoints_of_unpaired h]

@[simp] theorem joined_ofString (s : String) : (ofString s).joined = ofString s :=
  joined_of_unpaired (unpaired_chars s.toList)

end Text

namespace Json

open Text

/-! ## Strings -/

theorem halves_of_unitPoint {unit length : Nat} {s : List Char} {c : CodePoint}
    (h : unitPoint unit s = (c, length)) :
    (c.IsHigh → length = 4 ∧ lowUnit? s = none) ∧ (c.IsLow → 0xDC00 ≤ unit ∧ unit < 0xE000) := by
  unfold unitPoint at h
  split at h
  · -- The character of a pair is no half.
    obtain ⟨rfl, rfl⟩ := Prod.mk.inj h
    rw [CodePoint.isHigh_ofNat_iff, CodePoint.isLow_ofNat_iff]
    constructor <;> intro hbounds <;> omega
  · rename_i hlow
    obtain ⟨rfl, rfl⟩ := Prod.mk.inj h
    rw [CodePoint.isHigh_ofNat_iff, CodePoint.isLow_ofNat_iff]
    refine ⟨fun hhigh => ⟨rfl, ?_⟩, id⟩
    rwa [if_pos hhigh] at hlow

/-- A high half is read only where no low unit follows it, and a low half only
where a low unit stands. -/
theorem halves_of_escape {start position length : Nat} {s : List Char} {c : CodePoint}
    (h : escape start position s = .ok (c, length)) :
    (c.IsHigh → lowUnit? (s.drop length) = none) ∧ (c.IsLow → (lowUnit? ('\\' :: s)).isSome = true) := by
  unfold escape at h
  split at h
  · cases h
  · split at h
    · rename_i s _ unit hunit
      obtain ⟨rfl, rfl⟩ := Prod.mk.inj (Except.ok.inj h)
      obtain ⟨hhigh, hlow⟩ := halves_of_unitPoint (Prod.eta (unitPoint unit (s.drop 4)))
      refine ⟨fun hc => ?_, fun hc => ?_⟩
      · obtain ⟨hlength, hnone⟩ := hhigh hc
        rw [hlength]
        exact hnone
      · rw [lowUnit?, hunit]
        simp [Option.filter, hlow hc]
    · cases h
  · split at h
    · obtain ⟨rfl, rfl⟩ := Prod.mk.inj (Except.ok.inj h)
      exact ⟨False.elim, False.elim⟩
    · cases h

/-- The second part carries the induction: what comes first is a low half only
where a low unit comes next. -/
theorem unpaired_of_stringBody {start position skip taken : Nat} {s : List Char} {content : List CodePoint}
    (h : stringBody start position skip s = .ok (content, taken)) :
    Unpaired content ∧ ∀ c ∈ content.head?, c.IsLow → (lowUnit? (s.drop skip)).isSome = true := by
  induction s generalizing position skip content taken with
  | nil => cases skip <;> cases h
  | cons c s ih =>
    cases skip with
    | succ skip =>
      obtain ⟨found, hfound, h⟩ := bind_eq_ok_iff.1 h
      cases h
      exact ih hfound
    | zero =>
      rw [stringBody] at h
      split at h
      · cases h
        exact ⟨.nil, by simp⟩
      split at h
      · rename_i hslash
        subst hslash
        obtain ⟨⟨point, length⟩, hescape, h⟩ := bind_eq_ok_iff.1 h
        obtain ⟨⟨rest, taken⟩, hrest, h⟩ := bind_eq_ok_iff.1 h
        cases h
        obtain ⟨hhigh, hlow⟩ := halves_of_escape hescape
        obtain ⟨hchain, hhead⟩ := ih hrest
        refine ⟨List.isChain_cons.2 ⟨fun d hd hc hd' => ?_, hchain⟩, ?_⟩
        · have hnext := hhead d hd hd'
          rw [hhigh hc] at hnext
          cases hnext
        · rintro _ ⟨⟩ hc
          exact hlow hc
      split at h
      · cases h
      · obtain ⟨⟨rest, taken⟩, hrest, h⟩ := bind_eq_ok_iff.1 h
        cases h
        refine ⟨List.isChain_cons.2 ⟨fun _ _ => False.elim, (ih hrest).1⟩, ?_⟩
        rintro _ ⟨⟩ ⟨⟩

/-! ## Tokens -/

/-- The text stands in the value. Names of members are not counted. -/
inductive Value.HasText : Value → Text → Prop
  | here {s : Text} : HasText (.text s) s
  | item {items : List Value} {item : Value} {s : Text} : item ∈ items → item.HasText s → HasText (.array items) s
  | member {members : List (Text × Value)} {member : Text × Value} {s : Text} :
      member ∈ members → member.2.HasText s → HasText (.object members) s

def Token.HasText (s : Text) : Token → Prop
  | .text content => content = s
  | .scalar value => value.HasText s
  | _ => False

theorem not_hasText_of_named? {s : List Char} {token : Token} {length : Nat} {content : Text}
    (h : named? s = some (token, length)) : ¬ token.HasText content := by
  obtain ⟨entry, hfind, hentry⟩ := Option.map_eq_some_iff.1 h
  cases hentry
  have hmem := List.mem_of_find?_eq_some hfind
  simp only [namedValues, List.mem_cons, List.not_mem_nil, or_false] at hmem
  rcases hmem with rfl | rfl | rfl | rfl | rfl | rfl <;> exact fun h => nomatch h

theorem not_hasText_of_number? {s : List Char} {token : Token} {length : Nat} {content : Text}
    (h : number? s = some (token, length)) : ¬ token.HasText content := by
  unfold number? at h
  extract_lets sign negative rest whole s' fraction fractionLength exponent? exponentLength length' at h
  split at h
  · cases h
  · split at h
    · split at h <;> (obtain ⟨rfl, -⟩ := Prod.mk.inj (Option.some.inj h); exact fun h => nomatch h)
    · obtain ⟨rfl, -⟩ := Prod.mk.inj (Option.some.inj h)
      exact fun h => nomatch h

theorem unpaired_of_lexeme {position : Nat} {c : Char} {s : List Char} {content : Text}
    (h : (lexeme position c s).1.HasText content) : Unpaired content.toList := by
  unfold lexeme at h
  split at h <;> try cases h
  · split at h
    · rename_i hbody
      cases h
      exact (unpaired_of_stringBody hbody).1
    · rename_i hbody
      obtain ⟨cause, place, rfl⟩ := stringBody_error hbody
      cases h
  · split at h
    · rename_i found
      rcases Option.or_eq_some_iff.1 found with found | ⟨-, found⟩
      · exact absurd h (not_hasText_of_named? found)
      · exact absurd h (not_hasText_of_number? found)
    · cases h

theorem unpaired_of_mem_tokens {position : Nat} {text : List Char} {found : Lexeme} {content : Text}
    (h : found ∈ tokens position text) (hcontent : found.token.HasText content) : Unpaired content.toList := by
  obtain ⟨before, c, s, -, hfound⟩ := exists_lexeme_of_mem_tokens h
  rw [hfound] at hcontent
  exact unpaired_of_lexeme hcontent

/-! ## Values -/

def Frame.values : Frame → List Value
  | .array items => items
  | .object members => members.map Prod.snd
  | .member members _ => members.map Prod.snd

theorem Value.hasText_array_iff {items : List Value} {s : Text} :
    (Value.array items).HasText s ↔ ∃ item ∈ items, item.HasText s := by
  constructor
  · intro h
    cases h with
    | item hitem hs => exact ⟨_, hitem, hs⟩
  · rintro ⟨item, hitem, hs⟩
    exact .item hitem hs

theorem Value.hasText_object_iff {members : List (Text × Value)} {s : Text} :
    (Value.object members).HasText s ↔ ∃ value ∈ members.map Prod.snd, value.HasText s := by
  constructor
  · intro h
    cases h with
    | member hmember hs => exact ⟨_, List.mem_map_of_mem hmember, hs⟩
  · rintro ⟨value, hvalue, hs⟩
    obtain ⟨member, hmember, rfl⟩ := List.mem_map.1 hvalue
    exact .member hmember hs

theorem mem_values_setMember {name : Text} {value other : Value} {members : List (Text × Value)}
    (h : other ∈ (setMember name value members).map Prod.snd) : other = value ∨ other ∈ members.map Prod.snd := by
  induction members with
  | nil => exact .inl (by simpa [setMember] using h)
  | cons member members ih =>
    rw [setMember] at h
    split at h
    · rw [List.map_cons, List.mem_cons] at h
      exact h.imp_right (List.mem_cons_of_mem _)
    · rw [List.map_cons, List.mem_cons] at h
      rcases h with rfl | h
      · exact .inr List.mem_cons_self
      · exact (ih h).imp_right (List.mem_cons_of_mem _)

namespace Reader

/-- The values in what is open, and the one that is complete. -/
def values (reader : Reader) : List Value :=
  match reader.expected with
  | .nothing value => value :: reader.stack.flatMap Frame.values
  | _ => reader.stack.flatMap Frame.values

variable {reader after : Reader} {found : Lexeme} {s : Text}

theorem hasText_of_complete {value other : Value} {stack : List Frame} (h : other ∈ (complete value stack).values)
    (hs : other.HasText s) : value.HasText s ∨ ∃ other ∈ stack.flatMap Frame.values, other.HasText s := by
  unfold complete at h
  split at h
  · rename_i items stack
    simp only [values, List.flatMap_cons, Frame.values, List.cons_append, List.mem_cons] at h
    rcases h with rfl | h
    · exact .inl hs
    · exact .inr ⟨other, by simpa [Frame.values] using h, hs⟩
  · rename_i members name stack
    simp only [values, List.flatMap_cons, Frame.values, List.mem_append] at h
    rcases h with h | h
    · rcases mem_values_setMember h with rfl | h
      · exact .inl hs
      · exact .inr ⟨other, by simp [Frame.values, h], hs⟩
    · exact .inr ⟨other, by simp [Frame.values, h], hs⟩
  · simp only [values, List.mem_cons] at h
    rcases h with rfl | h
    · exact .inl hs
    · exact .inr ⟨other, h, hs⟩

theorem hasText_of_takeValue {stack : List Frame} {value : Value} (h : takeValue stack found = .ok after)
    (hvalue : value ∈ after.values) (hs : value.HasText s) :
    (∃ other ∈ stack.flatMap Frame.values, other.HasText s) ∨ found.token.HasText s := by
  unfold takeValue at h
  split at h <;> cases h
  · exact .inl ⟨value, by simpa [values, Frame.values] using hvalue, hs⟩
  · exact .inl ⟨value, by simpa [values, Frame.values] using hvalue, hs⟩
  · rename_i htoken
    rw [htoken]
    exact (hasText_of_complete hvalue hs).symm
  · rename_i htoken
    rw [htoken]
    refine (hasText_of_complete hvalue hs).symm.imp_right fun hs => ?_
    cases hs
    rfl

theorem values_of_takeName {stack : List Frame} (h : takeName stack found = .ok after) :
    after.values = stack.flatMap Frame.values := by
  unfold takeName at h
  split at h <;> cases h
  rfl

/-- What is closed has its texts from the frame that it was. -/
theorem hasText_of_closed {value other : Value} {frame : Frame} {stack : List Frame}
    (hframe : value.HasText s → ∃ item ∈ frame.values, item.HasText s)
    (h : other ∈ (complete value stack).values) (hs : other.HasText s) :
    ∃ other ∈ (frame :: stack).flatMap Frame.values, other.HasText s := by
  rcases hasText_of_complete h hs with hs | ⟨other, hother, hs⟩
  · obtain ⟨item, hitem, hs⟩ := hframe hs
    exact ⟨item, List.mem_append_left _ hitem, hs⟩
  · exact ⟨other, List.mem_append_right _ hother, hs⟩

theorem mem_values_of_stack {value : Value} (h : value ∈ reader.stack.flatMap Frame.values) :
    value ∈ reader.values := by
  unfold values
  split
  · exact List.mem_cons_of_mem _ h
  · exact h

/-- A step adds no text but that of its token. -/
theorem hasText_of_step (h : reader.step found = .ok after) (hs : ∃ value ∈ after.values, value.HasText s) :
    (∃ value ∈ reader.values, value.HasText s) ∨ found.token.HasText s := by
  obtain ⟨value, hvalue, hs⟩ := hs
  have hall : (∃ other ∈ reader.stack.flatMap Frame.values, other.HasText s) ∨ found.token.HasText s := by
    have harray {items : List Value} (hs : (Value.array items.reverse).HasText s) :
        ∃ item ∈ (Frame.array items).values, item.HasText s := by
      obtain ⟨item, hitem, hs⟩ := Value.hasText_array_iff.1 hs
      exact ⟨item, List.mem_reverse.1 hitem, hs⟩
    have hobject {members : List (Text × Value)} (hs : (Value.object members).HasText s) :
        ∃ value ∈ (Frame.object members).values, value.HasText s := Value.hasText_object_iff.1 hs
    unfold step at h
    split at h
    case h_1 | h_3 => exact hasText_of_takeValue h hvalue hs
    case h_4 | h_6 => exact .inl ⟨value, values_of_takeName h ▸ hvalue, hs⟩
    case h_2 | h_9 =>
      rename_i hstack
      cases h
      exact .inl (hstack ▸ hasText_of_closed harray hvalue hs)
    case h_5 | h_11 =>
      rename_i hstack
      cases h
      exact .inl (hstack ▸ hasText_of_closed hobject hvalue hs)
    case h_7 =>
      cases h
      exact .inl ⟨value, hvalue, hs⟩
    case h_8 | h_10 =>
      rename_i hstack
      cases h
      exact .inl ⟨value, hstack ▸ hvalue, hs⟩
    case h_12 => cases h
  exact hall.imp_left fun ⟨other, hother, hs⟩ => ⟨other, mem_values_of_stack hother, hs⟩

theorem hasText_of_foldlM {lexemes : List Lexeme} (h : lexemes.foldlM step reader = .ok after)
    (hs : ∃ value ∈ after.values, value.HasText s) :
    (∃ value ∈ reader.values, value.HasText s) ∨ ∃ found ∈ lexemes, found.token.HasText s := by
  induction lexemes generalizing reader with
  | nil =>
    cases h
    exact .inl hs
  | cons found lexemes ih =>
    rw [List.foldlM_cons] at h
    obtain ⟨next, hstep, hrest⟩ := bind_eq_ok_iff.1 h
    rcases ih hrest with hs | ⟨other, hother, hs⟩
    · exact (hasText_of_step hstep hs).imp_right fun hs => ⟨found, List.mem_cons_self, hs⟩
    · exact .inr ⟨other, List.mem_cons_of_mem _ hother, hs⟩

end Reader

/-- **In a text that has been read, no high half has a low one behind it.** -/
theorem unpaired_of_read {text : List Char} {value : Value} (h : read text = .ok value) {s : Text}
    (hs : value.HasText s) : Unpaired s.toList := by
  by_cases hmark : text.head? = some '\ufeff'
  · simp [read, hmark] at h
  simp only [read, hmark, if_false] at h
  split at h
  case h_2 | h_3 => cases h
  rename_i outcome houtcome
  cases h
  obtain ⟨reader, hreader, hfinish⟩ := bind_eq_ok_iff.1 houtcome
  have hvalue : value ∈ reader.values := by
    unfold Reader.finish at hfinish
    split at hfinish <;> cases hfinish
    rename_i hexpected
    simp [Reader.values, hexpected]
  rcases Reader.hasText_of_foldlM hreader ⟨value, hvalue, hs⟩ with ⟨other, hother, -⟩ | ⟨found, hfound, hs⟩
  · cases hother
  · exact unpaired_of_mem_tokens hfound hs

/-- A half alone is read as it is, and a pair as its character. -/
example : (read "\"\\ud800\\ud800\\udc00\"".toList).toOption.bind (·.text?) =
    some (.ofList [.surrogate 0, .char (Char.ofNat 0x10000)]) := by decide +kernel

theorem Value.hasText_of_member? {value member : Value} {name s : Text} (h : value.member? name = some member)
    (hs : member.HasText s) : value.HasText s := by
  unfold Value.member? at h
  split at h
  · obtain ⟨before, after, rfl, -⟩ := List.lookup_eq_some_iff.1 h
    exact .member (List.mem_append_right _ List.mem_cons_self) hs
  · cases h

end Json

end BuildProfiles
