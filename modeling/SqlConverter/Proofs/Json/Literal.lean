import SqlConverter.Proofs.Json.Grammar

namespace SqlConverter.Json

variable {cs ds rest : List Char} {text : Option String}

theorem units?_short {letter c : Char} (notU : letter ≠ 'u')
    (known : shortEscapes.lookup letter = some c) (cs : List Char) :
    units? ('\\' :: letter :: cs) =
      (units? cs).map fun (us, rest) => (c.toNat :: us, rest) := by
  rw [units?]
  · rw [known]
    cases units? cs <;> rfl
  · intro a b c d rest long
    exact absurd long notU

theorem units?_raw {c : Char} (notQuote : c ≠ '"') (notEscape : c ≠ '\\')
    (visible : 0x20 ≤ c.toNat) (cs : List Char) :
    units? (c :: cs) = (units? cs).map fun (us, rest) => (c.toNat :: us, rest) := by
  have printable : ¬(c = '\\' ∨ c.toNat < 0x20) := by
    rintro (h | h)
    · exact notEscape h
    · omega
  rw [units?]
  · rw [if_neg printable]
  · exact notQuote
  · intro a b d e rest long
    exact absurd long notEscape
  · intro letter rest short
    exact absurd short notEscape

theorem units?_digits {a b c d : Char} {u : Nat} (number : unit? a b c d = some u)
    (cs : List Char) :
    units? ('\\' :: 'u' :: a :: b :: c :: d :: cs) =
      (units? cs).map fun (us, rest) => (u :: us, rest) := by
  rw [units?, number]
  cases units? cs <;> rfl

theorem mem_of_lookup {table : List (Char × Char)} {c d : Char} (h : table.lookup c = some d) :
    (c, d) ∈ table := by
  obtain ⟨before, after, split, -⟩ := List.lookup_eq_some_iff.mp h
  simp [split]

theorem shortEscapes_entry :
    ∀ entry ∈ shortEscapes, entry.1 ≠ 'u' ∧ shortEscapes.lookup entry.1 = some entry.2 := by
  decide

theorem units?_append {us : List Nat} (h : SpellsUnits ds us) (rest : List Char) :
    units? (ds ++ '"' :: rest) = some (us, rest) := by
  induction h with
  | nil => rfl
  | raw notQuote notEscape visible later ih =>
    rw [List.cons_append, units?_raw notQuote notEscape visible, ih]
    rfl
  | short entry later ih =>
    obtain ⟨notU, known⟩ := shortEscapes_entry _ entry
    rw [List.cons_append, List.cons_append, units?_short notU known, ih]
    rfl
  | digits number later ih =>
    simp only [List.cons_append]
    rw [units?_digits number, ih]
    rfl

theorem units?_eq_some {us : List Nat} (h : units? cs = some (us, rest)) :
    ∃ ds, SpellsUnits ds us ∧ cs = ds ++ '"' :: rest := by
  induction cs using units?.induct generalizing us with
  | case1 => cases h
  | case2 tail =>
    cases h
    exact ⟨[], .nil, rfl⟩
  | case3 a b c d tail ih =>
    rw [units?] at h
    simp only [Option.bind_eq_bind, Option.bind_eq_some_iff] at h
    obtain ⟨u, number, ⟨us', rest'⟩, later, same⟩ := h
    cases same
    obtain ⟨ds, spelled, split⟩ := ih later
    refine ⟨'\\' :: 'u' :: a :: b :: c :: d :: ds, .digits number spelled, ?_⟩
    rw [split]
    rfl
  | case4 letter tail notHex ih =>
    rw [units?] at h
    · simp only [Option.bind_eq_bind, Option.bind_eq_some_iff] at h
      obtain ⟨c, known, ⟨us', rest'⟩, later, same⟩ := h
      cases same
      have entry : (letter, c) ∈ shortEscapes := mem_of_lookup known
      obtain ⟨ds, spelled, split⟩ := ih later
      refine ⟨'\\' :: letter :: ds, .short entry spelled, ?_⟩
      rw [split]
      rfl
    · exact notHex
  | case5 c tail notQuote notHex notShort bad =>
    rw [units?, if_pos bad] at h
    · cases h
    all_goals assumption
  | case6 c tail notQuote notHex notShort good ih =>
    rw [units?, if_neg good] at h
    · rw [not_or, Nat.not_lt] at good
      obtain ⟨⟨us', rest'⟩, later, same⟩ := Option.map_eq_some_iff.mp h
      cases same
      obtain ⟨ds, spelled, split⟩ := ih later
      refine ⟨c :: ds, .raw notQuote good.1 good.2 spelled, ?_⟩
      rw [split]
      rfl
    all_goals assumption

/-- Behind its opening quote a string is read to its end. -/
theorem string?_append (h : SpellsString ds text) :
    ∃ body, ds = '"' :: body ∧ ∀ rest, string? (body ++ rest) = some (text, rest) := by
  cases h with
  | quoted spelled =>
    refine ⟨_, rfl, fun rest => ?_⟩
    rw [List.append_assoc, List.singleton_append, string?, units?_append spelled]
    rfl

theorem string?_eq_some (h : string? cs = some (text, rest)) :
    ∃ ds, SpellsString ds text ∧ '"' :: cs = ds ++ rest := by
  obtain ⟨⟨us, rest'⟩, units, same⟩ := Option.map_eq_some_iff.mp h
  cases same
  obtain ⟨ds, spelled, split⟩ := units?_eq_some units
  refine ⟨'"' :: (ds ++ ['"']), .quoted spelled, ?_⟩
  rw [split, List.cons_append, List.append_assoc, List.singleton_append]

/-- The three forms of a character: a short escape, four digits, or itself. -/
theorem escaped_cases (c : Char) :
    (∃ letter, (c, letter) ∈ writtenEscapes ∧ escaped c = ['\\', letter]) ∨
    (c.toNat < 0x20 ∧ escaped c =
      ['\\', 'u', '0', '0', Nat.digitChar (c.toNat / 16), Nat.digitChar (c.toNat % 16)]) ∨
    (c ≠ '"' ∧ c ≠ '\\' ∧ 0x20 ≤ c.toNat ∧ escaped c = [c]) := by
  unfold escaped
  cases found : writtenEscapes.lookup c with
  | some letter =>
    exact .inl ⟨letter, mem_of_lookup found, rfl⟩
  | none =>
    dsimp only
    split
    · next control => exact .inr (.inl ⟨control, rfl⟩)
    · next raw =>
      refine .inr (.inr ⟨?_, ?_, Nat.le_of_not_lt raw, rfl⟩)
      · rintro rfl
        cases found
      · rintro rfl
        cases found

theorem short_readable : ∀ entry ∈ writtenEscapes, (entry.2, entry.1) ∈ shortEscapes := by decide

theorem unit?_digits : ∀ n < 0x20,
    unit? '0' '0' (Nat.digitChar (n / 16)) (Nat.digitChar (n % 16)) = some n := by
  decide

theorem spellsUnits_escaped (c : Char) {us : List Nat} (later : SpellsUnits cs us) :
    SpellsUnits (escaped c ++ cs) (c.toNat :: us) := by
  rcases escaped_cases c with ⟨letter, entry, form⟩ | ⟨control, form⟩ |
    ⟨notQuote, notEscape, visible, form⟩
  · rw [form]
    exact .short (short_readable _ entry) later
  · rw [form]
    exact .digits (unit?_digits _ control) later
  · rw [form]
    exact .raw notQuote notEscape visible later

theorem spellsUnits_flatMap_escaped (text : List Char) :
    SpellsUnits (text.flatMap escaped) (text.map Char.toNat) := by
  induction text with
  | nil => exact .nil
  | cons c text ih => exact spellsUnits_escaped c ih

theorem not_surrogate (c : Char) : (isHighSurrogate c.toNat || isLowSurrogate c.toNat) = false := by
  have scalar : c.toNat < 0xD800 ∨ 0xDFFF < c.toNat ∧ c.toNat < 0x110000 := c.valid
  simp only [isHighSurrogate, isLowSurrogate, Bool.or_eq_false_iff, Bool.and_eq_false_iff,
    decide_eq_false_iff_not]
  omega

theorem ofUnits?_toNat (text : List Char) : ofUnits? (text.map Char.toNat) = some text := by
  induction text with
  | nil => rfl
  | cons c text ih =>
    have whole := not_surrogate c
    cases text with
    | nil =>
      rw [List.map_cons, List.map_nil, ofUnits?, whole, Char.ofNat_toNat]
      rfl
    | cons d text =>
      obtain ⟨high, low⟩ := Bool.or_eq_false_iff.mp whole
      simp only [List.map_cons] at ih ⊢
      rw [ofUnits?, high, low, ih]
      simp [Char.ofNat_toNat]

/-- A written literal spells the text that was written. -/
theorem spellsString_literal (text : Option String) : SpellsString (literal text) text := by
  cases text with
  | none =>
    have alone : unit? 'd' '8' '0' '0' = some 0xD800 := rfl
    exact .quoted (.digits alone .nil)
  | some s =>
    have spelled := SpellsString.quoted (spellsUnits_flatMap_escaped s.toList)
    rw [ofUnits?_toNat, Option.map_some, String.ofList_toList] at spelled
    exact spelled

/-- No control character stands here as it is. -/
def Visible (cs : List Char) : Prop := ∀ c ∈ cs, 0x20 ≤ c.toNat

instance (cs : List Char) : Decidable (Visible cs) := List.decidableBAll _ cs

theorem Visible.append {cs ds : List Char} (first : Visible cs) (second : Visible ds) :
    Visible (cs ++ ds) := by
  intro c among
  rcases List.mem_append.mp among with among | among
  · exact first c among
  · exact second c among

theorem visible_escaped (c : Char) : Visible (escaped c) := by
  have letters : ∀ entry ∈ writtenEscapes, Visible ['\\', entry.2] := by decide
  have digits : ∀ n < 0x20,
      Visible ['\\', 'u', '0', '0', Nat.digitChar (n / 16), Nat.digitChar (n % 16)] := by decide
  rcases escaped_cases c with ⟨letter, entry, form⟩ | ⟨control, form⟩ | ⟨-, -, visible, form⟩
  · rw [form]
    exact letters _ entry
  · rw [form]
    exact digits _ control
  · rw [form]
    intro d same
    rw [List.mem_singleton.mp same]
    exact visible

theorem visible_literal (text : Option String) : Visible (literal text) := by
  cases text with
  | none => decide
  | some s =>
    have quote : Visible ['"'] := by decide
    have body : Visible (s.toList.flatMap escaped) := by
      intro d among
      obtain ⟨c, -, written⟩ := List.mem_flatMap.mp among
      exact visible_escaped c d written
    exact (quote.append body).append quote

end SqlConverter.Json
