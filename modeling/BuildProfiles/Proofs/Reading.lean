/-
What reading a JSON text makes of numbers that are too long.

A whole number with more digits than are read is a token of its own, and its
digits stand in the text one behind the other (`tokens_oversized`). The reader
comes to nothing because of one exactly where it meets it at a place where a
value may stand (`read_oversized_iff`); at any other place, something else is
wrong with the text.
-/
import BuildProfiles.Json.Reader
import BuildProfiles.Proofs.Fallible

namespace BuildProfiles.Json

/-! ## Tokens of whole numbers -/

theorem wholeDigits_spec (s : List Char) :
    wholeDigits s <+: s ∧ ∀ c ∈ wholeDigits s, c.isDigit = true := by
  unfold wholeDigits
  split
  · exact ⟨⟨_, rfl⟩, by simp⟩
  · exact ⟨List.takeWhile_prefix _, List.all_eq_true.1 List.all_takeWhile⟩

/-- A run of digits in the text that is longer than any number may be. -/
def HasLongRun (text : List Char) (digits : Nat) : Prop :=
  Numeral.maxDigits < digits ∧
    ∃ before run after, text = before ++ run ++ after ∧ run.length = digits ∧ ∀ c ∈ run, c.isDigit = true

theorem HasLongRun.lt_length {text : List Char} {digits : Nat} (h : HasLongRun text digits) :
    Numeral.maxDigits < text.length := by
  obtain ⟨hmax, before, run, after, rfl, rfl, -⟩ := h
  simp only [List.length_append]
  omega

theorem HasLongRun.append {text : List Char} {digits : Nat} (h : HasLongRun text digits)
    (front : List Char) : HasLongRun (front ++ text) digits := by
  obtain ⟨hmax, before, run, after, rfl, hrun⟩ := h
  exact ⟨hmax, front ++ before, run, after, by simp, hrun⟩

/-- A number that is refused opens with its sign, if it has one, and all its digits. -/
theorem number?_oversized {s : List Char} {digits length : Nat}
    (h : number? s = some (.oversized digits, length)) :
    HasLongRun s digits := by
  unfold number? at h
  extract_lets sign negative rest whole s' fraction fractionLength exponent? exponentLength length' at h
  split at h
  · cases h
  · split at h
    · split at h
      · rename_i hmax
        rw [Option.some.injEq, Prod.mk.injEq, Token.oversized.injEq] at h
        obtain ⟨rfl, -⟩ := h
        obtain ⟨⟨after, hafter⟩, hdigits⟩ := wholeDigits_spec rest
        refine ⟨hmax, s.take sign.length, whole, after, ?_, rfl, hdigits⟩
        rw [List.append_assoc, hafter, List.take_append_drop]
      · cases h
    · cases h

theorem escape_error {start position : Nat} {s : List Char} {token : Token}
    (h : escape start position s = .error token) : ∃ cause place, token = .brokenText cause place := by
  unfold escape at h
  split at h
  · cases h; exact ⟨_, _, rfl⟩
  · split at h
    · cases h
    · cases h; exact ⟨_, _, rfl⟩
  · split at h
    · cases h
    · cases h; exact ⟨_, _, rfl⟩

theorem stringBody_error {start position skip : Nat} {s : List Char} {token : Token}
    (h : stringBody start position skip s = .error token) :
    ∃ cause place, token = .brokenText cause place := by
  induction s generalizing position skip with
  | nil => cases skip <;> (cases h; exact ⟨_, _, rfl⟩)
  | cons c s ih =>
    cases skip with
    | succ skip =>
      rcases bind_eq_error_iff.1 h with h | ⟨found, -, h⟩
      · exact ih h
      · cases h
    | zero =>
      rw [stringBody] at h
      split at h
      · cases h
      split at h
      · rcases bind_eq_error_iff.1 h with h | ⟨found, -, h⟩
        · exact escape_error h
        · rcases bind_eq_error_iff.1 h with h | ⟨rest, -, h⟩
          · exact ih h
          · cases h
      split at h
      · cases h; exact ⟨_, _, rfl⟩
      · rcases bind_eq_error_iff.1 h with h | ⟨rest, -, h⟩
        · exact ih h
        · cases h

theorem named?_eq_some {s : List Char} {token : Token} {length : Nat}
    (h : named? s = some (token, length)) : ∃ value, token = .scalar value := by
  obtain ⟨entry, -, hentry⟩ := Option.map_eq_some_iff.1 h
  cases hentry
  exact ⟨_, rfl⟩

theorem lexeme_oversized {position digits : Nat} {c : Char} {s : List Char}
    (h : (lexeme position c s).1 = .oversized digits) : HasLongRun (c :: s) digits := by
  unfold lexeme at h
  split at h <;> try cases h
  · split at h
    · cases h
    · rename_i htoken
      obtain ⟨cause, place, rfl⟩ := stringBody_error htoken
      cases h
  · split at h
    · rename_i found
      cases h
      rcases Option.or_eq_some_iff.1 found with found | ⟨-, found⟩
      · obtain ⟨value, hvalue⟩ := named?_eq_some found
        cases hvalue
      · exact number?_oversized found
    · cases h

/-- Every token opens what the text is from some character on. -/
theorem exists_lexeme_of_mem_tokens {position : Nat} {text : List Char} {found : Lexeme}
    (h : found ∈ tokens position text) :
    ∃ before c s, text = before ++ c :: s ∧ found.token = (lexeme found.position c s).1 := by
  fun_induction tokens position text with
  | case1 => cases h
  | case2 position c s hspace ih =>
    obtain ⟨before, d, t, rfl, hfound⟩ := ih h
    exact ⟨c :: before, d, t, rfl, hfound⟩
  | case3 position c s hspace token taken hlexeme ih =>
    rcases List.mem_cons.1 h with rfl | h
    · exact ⟨[], c, s, rfl, (congrArg Prod.fst hlexeme).symm⟩
    · split at h
      · cases h
      · obtain ⟨before, d, t, hrest, hfound⟩ := ih h
        refine ⟨c :: s.take taken ++ before, d, t, ?_, hfound⟩
        rw [List.cons_append, List.cons_append, List.append_assoc, ← hrest, List.take_append_drop]

/-- The text has the digits of every number in it that is refused. -/
theorem tokens_oversized {position place digits : Nat} {text : List Char}
    (h : ⟨.oversized digits, place⟩ ∈ tokens position text) : HasLongRun text digits := by
  obtain ⟨before, c, s, rfl, hfound⟩ := exists_lexeme_of_mem_tokens h
  exact (lexeme_oversized hfound.symm).append before

/-! ## Where reading stops -/

/-- A value may come next. -/
def Reader.AwaitsValue (reader : Reader) : Prop :=
  reader.expected = .value ∨ reader.expected = .firstItem

/-- Reading gets to a number that is too long, at a place where a value may stand. -/
def MeetsLongNumber (text : List Char) (digits : Nat) : Prop :=
  text.head? ≠ some '\ufeff' ∧ ∃ before place after reader,
    tokens 0 text = before ++ ⟨.oversized digits, place⟩ :: after ∧
      before.foldlM Reader.step {} = .ok reader ∧ reader.AwaitsValue

theorem MeetsLongNumber.hasLongRun {text : List Char} {digits : Nat} (h : MeetsLongNumber text digits) :
    HasLongRun text digits := by
  obtain ⟨-, before, place, after, reader, htokens, -⟩ := h
  exact tokens_oversized (htokens ▸ List.mem_append_right before List.mem_cons_self)

theorem takeValue_oversized_iff {stack : List Frame} {lexeme : Lexeme} {digits : Nat} :
    Reader.takeValue stack lexeme = .error (.oversized digits) ↔ lexeme.token = .oversized digits := by
  unfold Reader.takeValue
  split <;> simp_all

theorem takeName_ne_oversized {stack : List Frame} {lexeme : Lexeme} {digits : Nat} :
    Reader.takeName stack lexeme ≠ .error (.oversized digits) := by
  unfold Reader.takeName
  split <;> simp

theorem step_oversized_iff {reader : Reader} {lexeme : Lexeme} {digits : Nat} :
    reader.step lexeme = .error (.oversized digits) ↔
      lexeme.token = .oversized digits ∧ reader.AwaitsValue := by
  unfold Reader.step Reader.AwaitsValue
  split <;> simp_all [takeValue_oversized_iff, takeName_ne_oversized]

theorem finish_ne_oversized {reader : Reader} {offset digits : Nat} :
    reader.finish offset ≠ .error (.oversized digits) := by
  unfold Reader.finish
  split <;> simp

theorem read_oversized_iff {text : List Char} {digits : Nat} :
    read text = .error (.oversized digits) ↔ MeetsLongNumber text digits := by
  have hfold : ((tokens 0 text).foldlM Reader.step {} >>= fun reader => reader.finish text.length) =
      .error (.oversized digits) ↔ ∃ before place after reader,
        tokens 0 text = before ++ ⟨.oversized digits, place⟩ :: after ∧
          before.foldlM Reader.step {} = .ok reader ∧ reader.AwaitsValue := by
    rw [bind_eq_error_iff, foldlM_eq_error_iff]
    constructor
    · rintro (⟨before, ⟨token, place⟩, after, reader, htokens, hbefore, hstep⟩ | ⟨reader, -, hfinish⟩)
      · obtain ⟨rfl, hawaits⟩ := step_oversized_iff.1 hstep
        exact ⟨before, place, after, reader, htokens, hbefore, hawaits⟩
      · exact absurd hfinish finish_ne_oversized
    · rintro ⟨before, place, after, reader, htokens, hbefore, hawaits⟩
      exact .inl ⟨before, _, after, reader, htokens, hbefore, step_oversized_iff.2 ⟨rfl, hawaits⟩⟩
  rw [MeetsLongNumber, ← hfold, read]
  by_cases hmark : text.head? = some '\ufeff'
  · simp [hmark]
  · simp only [hmark, if_false, ne_eq, not_false_eq_true, true_and]
    split <;> simp_all

end BuildProfiles.Json
