/-
What is written reads back.

`Takes text before after` says that the text takes the reader from one state to
the other, whatever follows the text and wherever it stands. Such texts compose
(`Takes.append`), so the text of a value is taken part by part: a string by its
code points (`stringBody_escaped`), an array and an object by their items. The
values are those without numbers, of which every report is made, and each comes
back with the halves of pairs in its texts joined.
-/
import BuildProfiles.Json.Writer
import BuildProfiles.Proofs.Halves

namespace BuildProfiles.Json

open Text

/-! ## Code points -/

theorem unit?_hex {n : Nat} (h : n < 0x10000) {s : List Char} (hs : s ≠ []) :
    unit? (hex 4 n ++ s) = some n := by
  obtain ⟨c, s, rfl⟩ := List.exists_cons_of_ne_nil hs
  have hdigit : ∀ m, hexValue? (hexDigit (m % 16)) = some (m % 16) := fun m =>
    hexValue?_hexDigit _ (Nat.mod_lt _ (by decide))
  simp only [hex, List.nil_append, List.cons_append, unit?, hdigit, Option.bind_eq_bind, Option.bind_some,
    Option.pure_def, Option.some.injEq]
  omega

theorem lowUnit?_hex {n : Nat} (h : n < 0x10000) {s : List Char} (hs : s ≠ []) :
    lowUnit? ('\\' :: 'u' :: hex 4 n ++ s) = if 0xDC00 ≤ n ∧ n < 0xE000 then some n else none := by
  rw [List.cons_append, List.cons_append, lowUnit?, unit?_hex h hs]
  simp [Option.filter]

section

variable {start position : Nat}

theorem escape_unit {c : CodePoint} (h : c.toNat < 0x10000) {s : List Char} (hs : s ≠ [])
    (halone : c.IsHigh → lowUnit? s = none) :
    escape start position ('u' :: hex 4 c.toNat ++ s) = .ok (c, 5) := by
  have hnone : (if 0xD800 ≤ c.toNat ∧ c.toNat < 0xDC00 then lowUnit? s else none) = none :=
    ite_eq_right_iff.2 fun hhigh => halone (CodePoint.isHigh_iff.2 hhigh)
  have hunit : unitPoint c.toNat s = (c, 4) := by
    rw [unitPoint, hnone]
    simp only [CodePoint.ofNat_toNat]
  have hdrop : (hex 4 c.toNat ++ s).drop 4 = s := by
    rw [List.drop_left' (length_hex 4 _)]
  rw [List.cons_append, escape, unit?_hex h hs]
  simp only [hdrop, hunit]

theorem unitPoint_pair {high low : Nat} (hhigh : 0xD800 ≤ high ∧ high < 0xDC00)
    (hlow : 0xDC00 ≤ low ∧ low < 0xE000) {s : List Char} (hs : s ≠ []) :
    unitPoint high ('\\' :: 'u' :: hex 4 low ++ s) =
      (.ofNat (0x10000 + (high - 0xD800) * 0x400 + (low - 0xDC00)), 10) := by
  rw [unitPoint, if_pos hhigh, lowUnit?_hex (by omega) hs, if_pos hlow]

theorem escape_units {c : CodePoint} {high low : Nat} {s : List Char} (h : high < 0x10000)
    (hunit : unitPoint high ('\\' :: 'u' :: hex 4 low ++ s) = (c, 10)) :
    escape start position ('u' :: hex 4 high ++ ('\\' :: 'u' :: hex 4 low ++ s)) = .ok (c, 11) := by
  rw [List.cons_append, escape, unit?_hex h (by simp)]
  simp only [List.drop_left' (length_hex 4 _), hunit]

theorem unitPoint_char {c : Char} (h : ¬ c.toNat < 0x10000) {s : List Char} (hs : s ≠ []) :
    unitPoint (0xD800 + (c.toNat - 0x10000) / 0x400)
      ('\\' :: 'u' :: hex 4 (0xDC00 + (c.toNat - 0x10000) % 0x400) ++ s) = (.char c, 10) := by
  have hc := CodePoint.toNat_char_bounds c
  have hsum : 0x10000 + (0xD800 + (c.toNat - 0x10000) / 0x400 - 0xD800) * 0x400 +
      (0xDC00 + (c.toNat - 0x10000) % 0x400 - 0xDC00) = c.toNat := by omega
  rw [unitPoint_pair (by omega) (by omega) hs, hsum, ← CodePoint.toNat_char, CodePoint.ofNat_toNat]

/-! ## Strings -/

/-- What is found, with a code point in front that takes `taken` characters. -/
def prepended (c : CodePoint) (taken : Nat) (found : List CodePoint × Nat) : List CodePoint × Nat :=
  (c :: found.1, found.2 + taken)

theorem stringBody_skip (s t : List Char) :
    stringBody start position s.length (s ++ t) =
      (stringBody start (position + s.length) 0 t).map fun found => (found.1, found.2 + s.length) := by
  induction s generalizing position with
  | nil => cases h : stringBody start position 0 t <;> simp [h, Except.map]
  | cons c s ih =>
    have hplace : position + 1 + s.length = position + (s.length + 1) := by omega
    rw [List.length_cons, List.cons_append, stringBody, ih, hplace]
    cases stringBody start (position + (s.length + 1)) 0 t <;> rfl

theorem stringBody_escape {s t : List Char} {c : CodePoint}
    (h : escape start position (s ++ t) = .ok (c, s.length)) :
    stringBody start position 0 ('\\' :: s ++ t) =
      (stringBody start (position + (s.length + 1)) 0 t).map (prepended c (s.length + 1)) := by
  rw [List.cons_append, stringBody, if_neg (by decide), if_pos rfl, h]
  simp only [bind, Except.bind]
  rw [stringBody_skip, show position + 1 + s.length = position + (s.length + 1) by omega]
  cases stringBody start (position + (s.length + 1)) 0 t <;> rfl

theorem stringBody_units {c : CodePoint} {high low : Nat} {s : List Char} (h : high < 0x10000)
    (hunit : unitPoint high ('\\' :: 'u' :: hex 4 low ++ s) = (c, 10)) :
    stringBody start position 0 (('\\' :: 'u' :: hex 4 high) ++ ('\\' :: 'u' :: hex 4 low) ++ s) =
      (stringBody start (position + 12) 0 s).map (prepended c 12) := by
  refine stringBody_escape (s := 'u' :: hex 4 high ++ '\\' :: 'u' :: hex 4 low) ?_
  rw [List.append_assoc, escape_units h hunit]
  simp [length_hex]

theorem stringBody_plain {c : Char} {s : List Char} (hc : c ≠ '"' ∧ c ≠ '\\' ∧ 0x20 ≤ c.toNat) :
    stringBody start position 0 (c :: s) = (stringBody start (position + 1) 0 s).map (prepended c 1) := by
  rw [stringBody, if_neg hc.1, if_neg hc.2.1, if_neg (by omega)]
  cases stringBody start (position + 1) 0 s <;> rfl

theorem stringBody_escapedChar (c : Char) {s : List Char} (hs : s ≠ []) :
    stringBody start position 0 (escapedChar c ++ s) =
      (stringBody start (position + (escapedChar c).length) 0 s).map (prepended c (escapedChar c).length) := by
  unfold escapedChar
  split
  case h_1 | h_2 | h_3 | h_4 | h_5 => exact stringBody_escape (s := [_]) rfl
  case h_6 hquote hslash _ _ _ =>
    have hof : ∀ n, c.toNat = n → c = Char.ofNat n := fun n h => by rw [← h, Char.ofNat_toNat]
    extract_lets n
    split
    · rename_i hn
      exact stringBody_escape (s := ['b']) (by rw [hof _ hn]; rfl)
    split
    · rename_i hn
      exact stringBody_escape (s := ['f']) (by rw [hof _ hn]; rfl)
    split
    · exact stringBody_plain ⟨hquote, hslash, by omega⟩
    split
    · rename_i hn
      have hunit : escape start position ('u' :: hex 4 n ++ s) = .ok (.char c, 5) :=
        escape_unit (c := .char c) hn hs False.elim
      exact stringBody_escape (s := 'u' :: hex 4 n) (by rw [hunit, List.length_cons, length_hex])
    · rename_i hn
      have hc := CodePoint.toNat_char_bounds c
      exact stringBody_units (by omega) (unitPoint_char hn hs)

theorem stringBody_escapedPoint {c : CodePoint} {s : List Char} (hs : s ≠ [])
    (halone : c.IsHigh → lowUnit? s = none) :
    stringBody start position 0 (escapedPoint c ++ s) =
      (stringBody start (position + (escapedPoint c).length) 0 s).map (prepended c (escapedPoint c).length) := by
  cases c with
  | char c => exact stringBody_escapedChar c hs
  | surrogate n =>
    have hunit : escape start position ('u' :: hex 4 (CodePoint.surrogate n).toNat ++ s) =
        .ok (.surrogate n, 5) := escape_unit (by rw [CodePoint.toNat]; omega) hs halone
    exact stringBody_escape (s := 'u' :: hex 4 _) (by rw [hunit, List.length_cons, length_hex])

/-- The two halves of a pair are read as one code point. -/
theorem stringBody_halves {high low : CodePoint} (hpair : high.IsHigh ∧ low.IsLow) {s : List Char} (hs : s ≠ []) :
    stringBody start position 0 (escapedPoint high ++ (escapedPoint low ++ s)) =
      (stringBody start (position + (escapedPoint high ++ escapedPoint low).length) 0 s).map
        (prepended (.ofNat (0x10000 + (high.toNat - 0xD800) * 0x400 + (low.toNat - 0xDC00)))
          (escapedPoint high ++ escapedPoint low).length) := by
  obtain ⟨hhigh, hlow⟩ := hpair
  cases high with
  | char => cases hhigh
  | surrogate m =>
    cases low with
    | char => cases hlow
    | surrogate n =>
      rw [← List.append_assoc]
      exact stringBody_units (by rw [CodePoint.toNat]; omega)
        (unitPoint_pair (CodePoint.isHigh_iff.1 hhigh) (CodePoint.isLow_iff.1 hlow) hs)

/-- What follows a half is taken for the other half only if it is one. -/
theorem lowUnit?_escapedPoint {c : CodePoint} (h : ¬ c.IsLow) {s : List Char} (hs : s ≠ []) :
    lowUnit? (escapedPoint c ++ s) = none := by
  cases c with
  | surrogate n => exact (lowUnit?_hex (by rw [CodePoint.toNat]; omega) hs).trans (if_neg (CodePoint.isLow_iff.not.1 h))
  | char c =>
    have hc := CodePoint.toNat_char_bounds c
    show lowUnit? (escapedChar c ++ s) = none
    unfold escapedChar
    split
    case h_1 | h_2 | h_3 | h_4 | h_5 => rfl
    case h_6 hslash _ _ _ =>
      extract_lets n
      split
      · rfl
      split
      · rfl
      split
      · unfold lowUnit?
        split
        · rename_i heq
          cases heq
          exact absurd rfl hslash
        · rfl
      split
      · rename_i hn
        exact (lowUnit?_hex hn hs).trans (if_neg (by omega))
      · rw [List.append_assoc, lowUnit?_hex (by omega) (by simp), if_neg (by omega)]

theorem stringBody_escaped (content : List CodePoint) (rest : List Char) :
    stringBody start position 0 (content.flatMap escapedPoint ++ '"' :: rest) =
      .ok (joinedPoints content, (content.flatMap escapedPoint).length + 1) := by
  fun_induction joinedPoints content generalizing position with
  | case1 high low s hpair ih =>
    rw [List.flatMap_cons, List.flatMap_cons, List.append_assoc, List.append_assoc,
      stringBody_halves hpair (by simp), ih]
    simp [Except.map, prepended]
    omega
  | case2 high low s hpair ih =>
    have halone : high.IsHigh → lowUnit? ((low :: s).flatMap escapedPoint ++ '"' :: rest) = none := fun hhigh => by
      rw [List.flatMap_cons, List.append_assoc]
      exact lowUnit?_escapedPoint (fun hlow => hpair ⟨hhigh, hlow⟩) (by simp)
    rw [List.flatMap_cons, List.append_assoc, stringBody_escapedPoint (by simp) halone, ih]
    simp [Except.map, prepended]
    omega
  | case3 s hshort =>
    cases s with
    | nil => simp [stringBody]
    | cons high s =>
      cases s with
      | nil =>
        rw [List.flatMap_singleton, stringBody_escapedPoint (by simp) fun _ => rfl]
        simp [stringBody, Except.map, prepended, Nat.add_comm]
      | cons low s => exact absurd rfl (hshort high low s)

end

/-! ## The reader over a text -/

/-- The text takes the reader from one state to the other, whatever follows it. -/
def Takes (text : List Char) (before after : Reader) : Prop :=
  ∀ position rest, (tokens position (text ++ rest)).foldlM Reader.step before =
    (tokens (position + text.length) rest).foldlM Reader.step after

namespace Takes

theorem nil (reader : Reader) : Takes [] reader reader := fun _ _ => rfl

theorem append {s t : List Char} {before between after : Reader} (h : Takes s before between)
    (h' : Takes t between after) : Takes (s ++ t) before after := by
  intro position rest
  rw [List.append_assoc, h, h', List.length_append, Nat.add_assoc]

theorem space (reader : Reader) : Takes [' '] reader reader := by
  intro position rest
  rw [List.cons_append, tokens]
  rfl

theorem token {c : Char} {s : List Char} {token : Token} {before after : Reader}
    (hspace : isSpace c = false) (hlexeme : ∀ position rest, lexeme position c (s ++ rest) = (token, s.length))
    (hlast : token.isLast = false) (hstep : ∀ position, before.step ⟨token, position⟩ = .ok after) :
    Takes (c :: s) before after := by
  intro position rest
  rw [List.cons_append, tokens, hspace]
  simp only [Bool.false_eq_true, if_false, hlexeme, hlast, List.drop_left', List.foldlM_cons, hstep,
    List.length_cons]
  rw [show position + 1 + s.length = position + (s.length + 1) by omega]
  rfl

/-- A mark that stands for itself. -/
theorem mark {c : Char} {token : Token} {before after : Reader} (hspace : isSpace c = false)
    (hlexeme : ∀ position rest, lexeme position c rest = (token, 0)) (hlast : token.isLast = false)
    (hstep : ∀ position, before.step ⟨token, position⟩ = .ok after) : Takes [c] before after :=
  .token hspace hlexeme hlast hstep

theorem string (s : Text) {before after : Reader}
    (hstep : ∀ position, before.step ⟨.text s.joined, position⟩ = .ok after) :
    Takes (writtenString s).toList before after := by
  have htext : (writtenString s).toList = '"' :: (s.toList.flatMap escapedPoint ++ ['"']) := by
    rw [writtenString, String.toList_ofList, List.cons_append]
  rw [htext]
  refine .token rfl (fun position rest => ?_) rfl hstep
  rw [lexeme, List.append_assoc, List.singleton_append, stringBody_escaped]
  simp [Text.joined]

end Takes

/-! ## Values -/

namespace Value

mutual

/-- The value with the halves of pairs in its texts and names joined. -/
def joined : Value → Value
  | .text s => .text s.joined
  | .array items => .array (joinedItems items)
  | .object members => .object (joinedMembers members)
  | value => value

def joinedItems : List Value → List Value
  | [] => []
  | item :: items => item.joined :: joinedItems items

def joinedMembers : List (Text × Value) → List (Text × Value)
  | [] => []
  | (name, value) :: members => (name.joined, value.joined) :: joinedMembers members

end

def joinedMember (member : Text × Value) : Text × Value := (member.1.joined, member.2.joined)

@[simp] theorem fst_joinedMember (member : Text × Value) : (joinedMember member).1 = member.1.joined := rfl

theorem joined_array (items : List Value) : (Value.array items).joined = .array (items.map joined) := by
  have hitems : joinedItems items = items.map joined := by
    induction items with
    | nil => rfl
    | cons item items ih => rw [joinedItems, ih, List.map_cons]
  rw [joined, hitems]

theorem joined_object (members : List (Text × Value)) :
    (Value.object members).joined = .object (members.map joinedMember) := by
  have hmembers : joinedMembers members = members.map joinedMember := by
    induction members with
    | nil => rfl
    | cons member members ih =>
      rw [joinedMembers, ih]
      rfl
  rw [joined, hmembers]

end Value

/-- The text takes the reader over the value, wherever a value may stand. -/
def TakesValue (text : List Char) (value : Value) : Prop :=
  ∀ reader : Reader, reader.AwaitsValue → Takes text reader (.complete value reader.stack)

/-- The text of the value takes the reader over what the value is read as. -/
def ReadsBack (value : Value) : Prop := TakesValue value.written.toList value.joined

/-- A name may come next, in an object with these members. -/
def Reader.AwaitsName (reader : Reader) (members : List (Text × Value)) (stack : List Frame) : Prop :=
  (reader.expected = .name ∨ reader.expected = .firstName) ∧ reader.stack = .object members :: stack

theorem step_of_awaitsValue {reader : Reader} {lexeme : Lexeme} (h : reader.AwaitsValue)
    (hend : lexeme.token ≠ .endArray) : reader.step lexeme = Reader.takeValue reader.stack lexeme := by
  obtain ⟨stack, expected⟩ := reader
  rcases h with rfl | rfl
  · rfl
  · unfold Reader.step
    split <;> simp_all

theorem step_of_awaitsName {reader : Reader} {members : List (Text × Value)} {stack : List Frame}
    (h : reader.AwaitsName members stack) (name : Text) (position : Nat) :
    reader.step ⟨.text name, position⟩ = .ok ⟨.member members name :: stack, .colon⟩ := by
  obtain ⟨stack', expected⟩ := reader
  obtain ⟨rfl | rfl, rfl⟩ := h <;> rfl

theorem readsBack_text (s : Text) : ReadsBack (.text s) :=
  fun _ hreader => .string s fun _ => step_of_awaitsValue hreader nofun

theorem readsBack_null : ReadsBack .null := fun _ hreader =>
  .token (c := 'n') (s := ['u', 'l', 'l']) rfl (fun _ _ => rfl) rfl fun _ => step_of_awaitsValue hreader nofun

theorem readsBack_bool (b : Bool) : ReadsBack (.bool b) := fun _ hreader =>
  match b with
  | true => .token (c := 't') (s := ['r', 'u', 'e']) rfl (fun _ _ => rfl) rfl fun _ =>
      step_of_awaitsValue hreader nofun
  | false => .token (c := 'f') (s := ['a', 'l', 's', 'e']) rfl (fun _ _ => rfl) rfl fun _ =>
      step_of_awaitsValue hreader nofun

theorem writtenItems_eq (items : List Value) : Value.writtenItems items = items.map Value.written := by
  induction items with
  | nil => rfl
  | cons item items ih => rw [Value.writtenItems, ih, List.map_cons]

def writtenMember (member : Text × Value) : String := writtenString member.1 ++ ": " ++ member.2.written

theorem writtenMembers_eq (members : List (Text × Value)) :
    Value.writtenMembers members = members.map writtenMember := by
  induction members with
  | nil => rfl
  | cons member members ih => rw [Value.writtenMembers, ih, List.map_cons]; rfl

theorem toList_intercalate_cons (text : String) (texts : List String) :
    (String.intercalate ", " (text :: texts)).toList =
      text.toList ++ texts.flatMap fun other => ',' :: ' ' :: other.toList := by
  induction texts generalizing text with
  | nil => simp
  | cons other texts ih =>
    rw [String.intercalate_cons_cons, String.toList_append, ih]
    simp

theorem takes_further_items {items : List Value} (h : ∀ item ∈ items, ReadsBack item)
    (done : List Value) (stack : List Frame) :
    Takes (((items.map Value.written).flatMap fun text => ',' :: ' ' :: text.toList) ++ [']'])
      ⟨.array done :: stack, .separator⟩ (.complete (.array (done.reverse ++ items.map Value.joined)) stack) := by
  -- on the items still to come; those read are in `done`, the last one first
  induction items generalizing done with
  | nil =>
    rw [List.map_nil, List.map_nil, List.append_nil]
    exact .mark rfl (fun _ _ => rfl) rfl fun _ => rfl
  | cons item items ih =>
    have hcomma : Takes [','] ⟨.array done :: stack, .separator⟩ ⟨.array done :: stack, .value⟩ :=
      .mark rfl (fun _ _ => rfl) rfl fun _ => rfl
    have hitem := h item List.mem_cons_self ⟨.array done :: stack, .value⟩ (.inl rfl)
    have hrest := ih (fun other hother => h other (List.mem_cons_of_mem item hother)) (item.joined :: done)
    simpa using hcomma.append ((Takes.space _).append (hitem.append hrest))

theorem readsBack_array {items : List Value} (h : ∀ item ∈ items, ReadsBack item) : ReadsBack (.array items) := by
  intro reader hreader
  have hopen : Takes ['['] reader ⟨.array [] :: reader.stack, .firstItem⟩ :=
    .mark rfl (fun _ _ => rfl) rfl fun _ => step_of_awaitsValue hreader nofun
  rw [Value.written, writtenItems_eq, Value.joined_array]
  cases items with
  | nil =>
    have hclose : Takes [']'] ⟨.array [] :: reader.stack, .firstItem⟩ (.complete (.array []) reader.stack) :=
      .mark rfl (fun _ _ => rfl) rfl fun _ => rfl
    exact hopen.append hclose
  | cons item items =>
    have hitem := h item List.mem_cons_self ⟨.array [] :: reader.stack, .firstItem⟩ (.inr rfl)
    have hrest := takes_further_items (fun other hother => h other (List.mem_cons_of_mem item hother))
      [item.joined] reader.stack
    have hall := hopen.append (hitem.append hrest)
    simpa [-String.toList_intercalate, toList_intercalate_cons] using hall

theorem setMember_of_notMem {name : Text} {members : List (Text × Value)} (value : Value)
    (h : name ∉ members.map Prod.fst) : setMember name value members = members ++ [(name, value)] := by
  induction members with
  | nil => rfl
  | cons member members ih =>
    rw [List.map_cons, List.mem_cons, not_or] at h
    rw [setMember, if_neg (Ne.symm h.1), ih h.2, List.cons_append]

theorem takes_member {member : Text × Value} (h : ReadsBack member.2)
    {members : List (Text × Value)} {stack : List Frame} {reader : Reader}
    (hreader : reader.AwaitsName members stack) (hname : member.1.joined ∉ members.map Prod.fst) :
    Takes (writtenMember member).toList reader
      ⟨.object (members ++ [Value.joinedMember member]) :: stack, .separator⟩ := by
  obtain ⟨name, value⟩ := member
  have hstring : Takes (writtenString name).toList reader ⟨.member members name.joined :: stack, .colon⟩ :=
    .string name fun _ => step_of_awaitsName hreader name.joined _
  have hcolon : Takes [':'] ⟨.member members name.joined :: stack, .colon⟩
      ⟨.member members name.joined :: stack, .value⟩ := .mark rfl (fun _ _ => rfl) rfl fun _ => rfl
  have hvalue := h ⟨.member members name.joined :: stack, .value⟩ (.inl rfl)
  rw [Reader.complete, setMember_of_notMem value.joined hname] at hvalue
  have hall := hstring.append (hcolon.append ((Takes.space _).append hvalue))
  simpa [writtenMember, Value.joinedMember] using hall

theorem takes_further_members {members : List (Text × Value)} (h : ∀ member ∈ members, ReadsBack member.2)
    (done : List (Text × Value)) (stack : List Frame)
    (hnames : ((done ++ members.map Value.joinedMember).map Prod.fst).Nodup) :
    Takes (((members.map writtenMember).flatMap fun text => ',' :: ' ' :: text.toList) ++ ['\x7d'])
      ⟨.object done :: stack, .separator⟩
      (.complete (.object (done ++ members.map Value.joinedMember)) stack) := by
  induction members generalizing done with
  | nil =>
    rw [List.map_nil, List.map_nil, List.append_nil]
    exact .mark rfl (fun _ _ => rfl) rfl fun _ => rfl
  | cons member members ih =>
    have hcomma : Takes [','] ⟨.object done :: stack, .separator⟩ ⟨.object done :: stack, .name⟩ :=
      .mark rfl (fun _ _ => rfl) rfl fun _ => rfl
    have hreader : Reader.AwaitsName ⟨.object done :: stack, .name⟩ done stack := ⟨.inl rfl, rfl⟩
    -- A name that is new comes last, so the order of the members is kept.
    have hfresh : member.1.joined ∉ done.map Prod.fst := by
      rw [List.map_append, List.nodup_append] at hnames
      exact fun hmem => hnames.2.2 _ hmem _ List.mem_cons_self rfl
    have hmember := takes_member (h member List.mem_cons_self) hreader hfresh
    rw [List.map_cons, List.append_cons] at hnames ⊢
    have hrest := ih (fun other hother => h other (List.mem_cons_of_mem member hother))
      (done ++ [Value.joinedMember member]) hnames
    simpa using hcomma.append ((Takes.space _).append (hmember.append hrest))

theorem readsBack_object {members : List (Text × Value)} (h : ∀ member ∈ members, ReadsBack member.2)
    (hnames : ((members.map Value.joinedMember).map Prod.fst).Nodup) : ReadsBack (.object members) := by
  intro reader hreader
  have hopen : Takes ['\x7b'] reader ⟨.object [] :: reader.stack, .firstName⟩ :=
    .mark rfl (fun _ _ => rfl) rfl fun _ => step_of_awaitsValue hreader nofun
  rw [Value.written, writtenMembers_eq, Value.joined_object]
  cases members with
  | nil =>
    have hclose : Takes ['\x7d'] ⟨.object [] :: reader.stack, .firstName⟩ (.complete (.object []) reader.stack) :=
      .mark rfl (fun _ _ => rfl) rfl fun _ => rfl
    exact hopen.append hclose
  | cons member members =>
    have hfirst : Reader.AwaitsName ⟨.object [] :: reader.stack, .firstName⟩ [] reader.stack :=
      ⟨.inr rfl, rfl⟩
    have hmember := takes_member (h member List.mem_cons_self) hfirst List.not_mem_nil
    have hrest := takes_further_members (fun other hother => h other (List.mem_cons_of_mem member hother))
      [Value.joinedMember member] reader.stack hnames
    have hall := hopen.append (hmember.append hrest)
    simpa [-String.toList_intercalate, toList_intercalate_cons] using hall

/-- A value without numbers, in which each object has every name once, and still
does when the halves of pairs in them are joined. -/
inductive Plain : Value → Prop
  | null : Plain .null
  | bool (value : Bool) : Plain (.bool value)
  | text (value : Text) : Plain (.text value)
  | array {items : List Value} : (∀ item ∈ items, Plain item) → Plain (.array items)
  | object {members : List (Text × Value)} : ((members.map Value.joinedMember).map Prod.fst).Nodup →
      (∀ member ∈ members, Plain member.2) → Plain (.object members)

theorem Plain.readsBack {value : Value} (h : Plain value) : ReadsBack value := by
  induction h with
  | null => exact readsBack_null
  | bool b => exact readsBack_bool b
  | text s => exact readsBack_text s
  | array _ ih => exact readsBack_array ih
  | object hnames _ ih => exact readsBack_object ih hnames

theorem Plain.head?_written {value : Value} (h : Plain value) : value.written.toList.head? ≠ some '\ufeff' := by
  cases h with
  | null => decide
  | bool b => cases b <;> decide
  | text s => simp [Value.written, writtenString]
  | array _ => simp [Value.written]
  | object _ _ => simp [Value.written]

/-- A line that holds the text of a value reads as that value, joined. -/
theorem Plain.read_line {value : Value} (h : Plain value) :
    read (value.written ++ "\n").toList = .ok value.joined := by
  have htext : (value.written ++ "\n").toList = value.written.toList ++ ['\n'] := String.toList_append
  have hmark : (value.written.toList ++ ['\n']).head? ≠ some '\ufeff' := by
    rw [List.head?_append]
    cases hhead : value.written.toList.head? with
    | none => decide
    | some c =>
      rw [Option.some_or, ← hhead]
      exact h.head?_written
  have hend : tokens (0 + value.written.toList.length) ['\n'] = [] := by
    rw [tokens, if_pos (by decide), tokens]
  have hfold : (tokens 0 (value.written.toList ++ ['\n'])).foldlM Reader.step {} =
      .ok (Reader.complete value.joined []) := by
    rw [h.readsBack {} (.inl rfl) 0 ['\n'], hend]
    rfl
  rw [htext, read, if_neg hmark, hfold]
  rfl

end BuildProfiles.Json
