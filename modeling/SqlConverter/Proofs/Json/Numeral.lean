import SqlConverter.Proofs.Json.Grammar
import SqlConverter.Text.Blank

namespace SqlConverter.Json

variable {blank cs ds rest : List Char}

theorem blank_nil : ([] : List Char).all isSpace = true := rfl

theorem skipSpace_append (h : blank.all isSpace = true) (cs : List Char) :
    skipSpace (blank ++ cs) = skipSpace cs := by
  rw [skipSpace, List.dropWhile_append_of_pos (List.all_eq_true.mp h)]
  rfl

theorem skipSpace_cons {c : Char} (h : isSpace c = false) (cs : List Char) :
    skipSpace (c :: cs) = c :: cs := by
  simp [skipSpace, h]

theorem isSpace_iff {c : Char} :
    isSpace c = true ↔ c = ' ' ∨ c = '\t' ∨ c = '\n' ∨ c = '\r' := by
  simp only [isSpace, Bool.or_eq_true, beq_iff_eq, or_assoc]

theorem skipSpace_eq_nil_iff : skipSpace cs = [] ↔ cs.all isSpace = true :=
  Text.dropWhile_eq_nil_iff_all isSpace cs

theorem exists_blank (cs : List Char) :
    ∃ blank, blank.all isSpace = true ∧ cs = blank ++ skipSpace cs :=
  ⟨cs.takeWhile isSpace, List.all_takeWhile, List.takeWhile_append_dropWhile.symm⟩

theorem afterDigits?_eq_some (h : afterDigits? cs = some rest) :
    ∃ ds, IsDigits ds ∧ cs = ds ++ rest := by
  cases cs with
  | nil => cases h
  | cons c cs =>
    rw [afterDigits?] at h
    split at h
    · next digit =>
      cases h
      have run : (cs.takeWhile Char.isDigit).all Char.isDigit = true := List.all_takeWhile
      refine ⟨c :: cs.takeWhile Char.isDigit, ⟨List.cons_ne_nil _ _, ?_⟩, ?_⟩
      · rw [List.all_cons, digit, run]
        rfl
      · rw [List.cons_append, List.takeWhile_append_dropWhile]
    · cases h

theorem afterDigits?_append (h : IsDigits ds) (ends : ∀ c ∈ rest.head?, c.isDigit = false) :
    afterDigits? (ds ++ rest) = some rest := by
  obtain ⟨present, digits⟩ := h
  cases ds with
  | nil => exact absurd rfl present
  | cons d ds =>
    rw [List.all_cons, Bool.and_eq_true, List.all_eq_true] at digits
    have after : rest.dropWhile Char.isDigit = rest := by
      cases rest with
      | nil => rfl
      | cons c rest => simp [ends c rfl]
    rw [List.cons_append, afterDigits?, if_pos digits.1, List.dropWhile_append_of_pos digits.2,
      after]

theorem afterInteger?_eq_some (h : afterInteger? cs = some rest) :
    ∃ ds, IntegerPart ds ∧ cs = ds ++ rest := by
  unfold afterInteger? at h
  split at h
  · cases h
    exact ⟨['0'], .zero, rfl⟩
  · next notZero =>
    obtain ⟨ds, digits, rfl⟩ := afterDigits?_eq_some h
    cases ds with
    | nil => exact absurd rfl digits.1
    | cons d ds =>
      refine ⟨d :: ds, .digits ?_ digits, rfl⟩
      rintro rfl
      exact notZero _ rfl

theorem afterInteger?_append (h : IntegerPart ds) (ends : ∀ c ∈ rest.head?, c.isDigit = false) :
    afterInteger? (ds ++ rest) = some rest := by
  cases h with
  | zero => rfl
  | digits leads digits =>
    rw [List.cons_append, afterInteger?]
    · exact afterDigits?_append digits ends
    · intro rest' same
      exact leads (List.cons.inj same).1

theorem afterFraction?_eq_some (h : afterFraction? cs = some rest) :
    ∃ ds, FractionPart ds ∧ cs = ds ++ rest := by
  unfold afterFraction? at h
  split at h
  · obtain ⟨ds, digits, rfl⟩ := afterDigits?_eq_some h
    exact ⟨'.' :: ds, .present digits, rfl⟩
  · cases h
    exact ⟨[], .absent, rfl⟩

theorem afterSign_spec (cs : List Char) :
    ∃ sign, (sign = [] ∨ sign = ['+'] ∨ sign = ['-']) ∧ cs = sign ++ afterSign cs := by
  unfold afterSign
  split
  · exact ⟨['+'], .inr (.inl rfl), rfl⟩
  · exact ⟨['-'], .inr (.inr rfl), rfl⟩
  · exact ⟨[], .inl rfl, rfl⟩

theorem exponent_spec {e : Char} (letter : e = 'e' ∨ e = 'E')
    (h : afterDigits? (afterSign cs) = some rest) :
    ∃ ds, ExponentPart ds ∧ e :: cs = ds ++ rest := by
  obtain ⟨sign, signed, signs⟩ := afterSign_spec cs
  obtain ⟨ds, digits, split⟩ := afterDigits?_eq_some h
  refine ⟨e :: (sign ++ ds), .present letter signed digits, ?_⟩
  rw [List.cons_append, List.append_assoc, ← split, ← signs]

theorem afterExponent?_eq_some (h : afterExponent? cs = some rest) :
    ∃ ds, ExponentPart ds ∧ cs = ds ++ rest := by
  unfold afterExponent? at h
  split at h
  · exact exponent_spec (.inl rfl) h
  · exact exponent_spec (.inr rfl) h
  · cases h
    exact ⟨[], .absent, rfl⟩

theorem afterNumber?_eq_some (h : afterNumber? cs = some rest) :
    ∃ ds, Numeral ds ∧ cs = ds ++ rest := by
  obtain ⟨sign, unsigned, signed, split, read⟩ : ∃ sign unsigned,
      (sign = [] ∨ sign = ['-']) ∧ cs = sign ++ unsigned ∧
        (afterInteger? unsigned >>= afterFraction? >>= afterExponent?) = some rest := by
    unfold afterNumber? at h
    split at h
    · exact ⟨['-'], _, .inr rfl, rfl, h⟩
    · exact ⟨[], _, .inl rfl, rfl, h⟩
  simp only [Option.bind_eq_bind, Option.bind_eq_some_iff] at read
  obtain ⟨scaled, ⟨broken, hi, hf⟩, he⟩ := read
  obtain ⟨integer, whole, first⟩ := afterInteger?_eq_some hi
  obtain ⟨fraction, part, second⟩ := afterFraction?_eq_some hf
  obtain ⟨exponent, scale, third⟩ := afterExponent?_eq_some he
  refine ⟨sign ++ (integer ++ (fraction ++ exponent)), .parts signed whole part scale, ?_⟩
  rw [split, first, second, third]
  simp only [List.append_assoc]

/-- What comes next does not go on with a number. -/
def EndsNumber (rest : List Char) : Prop :=
  ∀ c ∈ rest.head?, c.isDigit = false ∧ c ≠ '.' ∧ c ≠ 'e' ∧ c ≠ 'E'

theorem endsNumber_nil : EndsNumber [] := by
  intro c h
  cases h

theorem endsNumber_cons {c : Char} (h : c.isDigit = false ∧ c ≠ '.' ∧ c ≠ 'e' ∧ c ≠ 'E')
    (cs : List Char) : EndsNumber (c :: cs) := by
  intro d same
  cases same
  exact h

theorem endsNumber_append (h : blank.all isSpace = true) (ends : EndsNumber rest) :
    EndsNumber (blank ++ rest) := by
  cases blank with
  | nil => exact ends
  | cons c blank =>
    rw [List.all_cons, Bool.and_eq_true] at h
    refine endsNumber_cons ?_ _
    rcases isSpace_iff.mp h.1 with rfl | rfl | rfl | rfl <;> decide

theorem afterSign_append {sign : List Char} (signed : sign = [] ∨ sign = ['+'] ∨ sign = ['-'])
    (h : IsDigits ds) : afterSign (sign ++ (ds ++ rest)) = ds ++ rest := by
  rcases signed with rfl | rfl | rfl
  · obtain ⟨present, digits⟩ := h
    cases ds with
    | nil => exact absurd rfl present
    | cons d ds =>
      unfold afterSign
      split
      · next same =>
        cases same
        cases digits
      · next same =>
        cases same
        cases digits
      · rfl
  · rfl
  · rfl

theorem afterExponent?_append (h : ExponentPart ds) (ends : EndsNumber rest) :
    afterExponent? (ds ++ rest) = some rest := by
  have noDigit : ∀ c ∈ rest.head?, c.isDigit = false := fun c next => (ends c next).1
  cases h with
  | absent =>
    rw [List.nil_append]
    unfold afterExponent?
    split
    · exact absurd rfl (ends 'e' rfl).2.2.1
    · exact absurd rfl (ends 'E' rfl).2.2.2
    · rfl
  | present letter signed digits =>
    rw [List.cons_append, List.append_assoc]
    rcases letter with rfl | rfl
    all_goals
      rw [afterExponent?, afterSign_append signed digits]
      exact afterDigits?_append digits noDigit

/-- An exponent, or what ends a number, is no digit and no point. -/
theorem exponent_head (h : ExponentPart ds) (ends : EndsNumber rest) :
    ∀ c ∈ (ds ++ rest).head?, c.isDigit = false ∧ c ≠ '.' := by
  intro c next
  cases h with
  | absent => exact ⟨(ends c next).1, (ends c next).2.1⟩
  | present letter signed digits =>
    cases next
    rcases letter with rfl | rfl <;> decide

theorem afterFraction?_append (h : FractionPart ds)
    (ends : ∀ c ∈ rest.head?, c.isDigit = false ∧ c ≠ '.') :
    afterFraction? (ds ++ rest) = some rest := by
  cases h with
  | absent =>
    rw [List.nil_append]
    unfold afterFraction?
    split
    · exact absurd rfl (ends '.' rfl).2
    · rfl
  | present digits => exact afterDigits?_append digits fun c next => (ends c next).1

theorem fraction_head (h : FractionPart ds) (ends : ∀ c ∈ rest.head?, c.isDigit = false) :
    ∀ c ∈ (ds ++ rest).head?, c.isDigit = false := by
  intro c next
  cases h with
  | absent => exact ends c next
  | present digits =>
    cases next
    rfl

theorem not_space_of_digit {c : Char} (digit : c.isDigit = true) : isSpace c = false := by
  rw [Bool.eq_false_iff]
  intro space
  rcases isSpace_iff.mp space with rfl | rfl | rfl | rfl <;> cases digit

theorem integer_head (h : IntegerPart ds) : ∃ d tail, ds = d :: tail ∧ d.isDigit = true := by
  cases h with
  | zero => exact ⟨'0', [], rfl, rfl⟩
  | digits leads digits => exact ⟨_, _, rfl, (Bool.and_eq_true_iff.mp digits.2).1⟩

theorem numeral_head (h : Numeral ds) :
    ∃ c tail, ds = c :: tail ∧ (c = '-' ∨ c.isDigit = true) := by
  obtain ⟨signed, whole, part, scale⟩ := h
  rcases signed with rfl | rfl
  · obtain ⟨d, tail, rfl, digit⟩ := integer_head whole
    exact ⟨d, _, rfl, .inr digit⟩
  · exact ⟨'-', _, rfl, .inl rfl⟩

theorem afterNumber?_append (h : Numeral ds) (ends : EndsNumber rest) :
    afterNumber? (ds ++ rest) = some rest := by
  obtain ⟨signed, whole, part, scale⟩ := h
  next sign integer fraction exponent =>
  have third := afterExponent?_append scale ends
  have tail := exponent_head scale ends
  have second := afterFraction?_append part tail
  have first := afterInteger?_append whole
    (fraction_head part fun c next => (tail c next).1)
  have unsigned : (afterInteger? (integer ++ (fraction ++ (exponent ++ rest))) >>=
      afterFraction? >>= afterExponent?) = some rest := by
    simp only [first, second, third, Option.bind_eq_bind, Option.bind_some]
  simp only [List.append_assoc]
  rcases signed with rfl | rfl
  · obtain ⟨d, tail, rfl, digit⟩ := integer_head whole
    unfold afterNumber?
    split
    · next same =>
      cases same
      cases digit
    · exact unsigned
  · exact unsigned

end SqlConverter.Json
