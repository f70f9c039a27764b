import SqlConverter.Proofs.Json.Literal
import SqlConverter.Proofs.Json.Numeral

namespace SqlConverter.Json

variable {fuel : Nat} {blank cs ds rest tail : List Char} {v : Value} {vs : List Value}
  {key text : Option String} {ms : List (Option String × Value)}

theorem Document.of_skipSpace (start : skipSpace cs = ds ++ rest) (h : Spells ds v) :
    ∃ piece, Document piece v ∧ cs = piece ++ skipSpace rest := by
  obtain ⟨before, lead, first⟩ := exists_blank cs
  obtain ⟨after, trail, second⟩ := exists_blank rest
  refine ⟨before ++ (ds ++ after), .padded lead h trail, ?_⟩
  rw [List.append_assoc, List.append_assoc, ← second, ← start, ← first]

theorem SpellsMember.of_skipSpace {name after : List Char} (start : skipSpace cs = name ++ after)
    (named : SpellsString name key) (colon : skipSpace after = ':' :: tail)
    {piece : List Char} (h : Document piece v) (split : tail = piece ++ rest) :
    ∃ member, SpellsMember member (key, v) ∧ cs = member ++ rest := by
  obtain ⟨before, lead, first⟩ := exists_blank cs
  obtain ⟨between, trail, second⟩ := exists_blank after
  refine ⟨before ++ (name ++ (between ++ ':' :: piece)), .keyed lead named trail h, ?_⟩
  simp only [List.append_assoc, List.cons_append]
  rw [← split, ← colon, ← second, ← start, ← first]

theorem afterWord?_eq_some {word : List Char} (h : afterWord? word cs = some rest) :
    cs = word ++ rest := by
  unfold afterWord? at h
  split at h
  · next starts =>
    cases h
    obtain ⟨tail, rfl⟩ := List.isPrefixOf_iff_prefix.mp starts
    rw [List.drop_left]
  · cases h

-- Each reader hands its fuel, less one, to those it calls.
mutual

theorem value?_sound : ∀ (fuel : Nat) (cs : List Char) (v : Value) (rest : List Char),
    value? fuel cs = some (v, rest) → ∃ ds, Spells ds v ∧ skipSpace cs = ds ++ rest
  | 0, cs, v, rest, h => by cases h
  | fuel + 1, cs, v, rest, h => by
    rw [value?] at h
    split at h
    · next tail start =>
      obtain ⟨⟨text, rest'⟩, read, same⟩ := Option.map_eq_some_iff.mp h
      cases same
      obtain ⟨ds, spelled, split⟩ := string?_eq_some read
      exact ⟨ds, .string spelled, start.trans split⟩
    · next tail start =>
      split at h
      · next inner closed =>
        cases h
        obtain ⟨blank, blanks, split⟩ := exists_blank tail
        refine ⟨'[' :: (blank ++ [']']), .noItems blanks, ?_⟩
        rw [start, split, closed]
        simp
      · obtain ⟨⟨vs, rest'⟩, read, same⟩ := Option.map_eq_some_iff.mp h
        cases same
        obtain ⟨ds, spelled, split⟩ := items?_sound fuel tail vs _ read
        refine ⟨'[' :: (ds ++ [']']), .items spelled, ?_⟩
        rw [start, split]
        simp
    · next tail start =>
      split at h
      · next inner closed =>
        cases h
        obtain ⟨blank, blanks, split⟩ := exists_blank tail
        refine ⟨'{' :: (blank ++ ['}']), .noMembers blanks, ?_⟩
        rw [start, split, closed]
        simp
      · obtain ⟨⟨ms, rest'⟩, read, same⟩ := Option.map_eq_some_iff.mp h
        cases same
        obtain ⟨ds, spelled, split⟩ := members?_sound fuel tail ms _ read
        refine ⟨'{' :: (ds ++ ['}']), .members spelled, ?_⟩
        rw [start, split]
        simp
    · next tail start =>
      obtain ⟨rest', read, same⟩ := Option.map_eq_some_iff.mp h
      cases same
      exact ⟨_, .null, by rw [start, afterWord?_eq_some read]; rfl⟩
    · next tail start =>
      obtain ⟨rest', read, same⟩ := Option.map_eq_some_iff.mp h
      cases same
      exact ⟨_, .true, by rw [start, afterWord?_eq_some read]; rfl⟩
    · next tail start =>
      obtain ⟨rest', read, same⟩ := Option.map_eq_some_iff.mp h
      cases same
      exact ⟨_, .false, by rw [start, afterWord?_eq_some read]; rfl⟩
    · obtain ⟨rest', read, same⟩ := Option.map_eq_some_iff.mp h
      cases same
      obtain ⟨ds, numeral, split⟩ := afterNumber?_eq_some read
      exact ⟨ds, .number numeral, split⟩

theorem items?_sound : ∀ (fuel : Nat) (cs : List Char) (vs : List Value) (rest : List Char),
    items? fuel cs = some (vs, rest) → ∃ ds, SpellsItems ds vs ∧ cs = ds ++ ']' :: rest
  | 0, cs, vs, rest, h => by cases h
  | fuel + 1, cs, vs, rest, h => by
    rw [items?, Option.bind_eq_bind, Option.bind_eq_some_iff] at h
    obtain ⟨⟨v, mid⟩, first, h⟩ := h
    obtain ⟨ds, spelled, start⟩ := value?_sound fuel cs v mid first
    obtain ⟨piece, doc, split⟩ := Document.of_skipSpace start spelled
    dsimp only at h
    split at h
    · next tail comma =>
      obtain ⟨⟨vs', rest'⟩, read, same⟩ := Option.map_eq_some_iff.mp h
      cases same
      obtain ⟨others, later, splits⟩ := items?_sound fuel tail vs' _ read
      refine ⟨piece ++ ',' :: others, .more doc later, ?_⟩
      rw [split, comma, splits, List.append_assoc, List.cons_append]
    · next tail closed =>
      cases h
      exact ⟨piece, .last doc, split.trans (by rw [closed])⟩
    · cases h

theorem members?_sound : ∀ (fuel : Nat) (cs : List Char) (ms : List (Option String × Value))
    (rest : List Char), members? fuel cs = some (ms, rest) →
      ∃ ds, SpellsMembers ds ms ∧ cs = ds ++ '}' :: rest
  | 0, cs, ms, rest, h => by cases h
  | fuel + 1, cs, ms, rest, h => by
    rw [members?] at h
    split at h
    · next tail start =>
      rw [Option.bind_eq_bind, Option.bind_eq_some_iff] at h
      obtain ⟨⟨key, after⟩, named, h⟩ := h
      obtain ⟨name, spells, splitName⟩ := string?_eq_some named
      dsimp only at h
      split at h
      · next inner colon =>
        rw [Option.bind_eq_bind, Option.bind_eq_some_iff] at h
        obtain ⟨⟨v, mid⟩, first, h⟩ := h
        obtain ⟨ds, spelled, startValue⟩ := value?_sound fuel inner v mid first
        obtain ⟨piece, doc, split⟩ := Document.of_skipSpace startValue spelled
        obtain ⟨member, whole, splitMember⟩ :=
          SpellsMember.of_skipSpace (start.trans splitName) spells colon doc split
        dsimp only at h
        split at h
        · next later comma =>
          obtain ⟨⟨ms', rest'⟩, read, same⟩ := Option.map_eq_some_iff.mp h
          cases same
          obtain ⟨others, spelledLater, splits⟩ := members?_sound fuel later ms' _ read
          refine ⟨member ++ ',' :: others, .more whole spelledLater, ?_⟩
          rw [splitMember, comma, splits, List.append_assoc, List.cons_append]
        · next later closed =>
          cases h
          exact ⟨member, .last whole, splitMember.trans (by rw [closed])⟩
        · cases h
      · cases h
    · cases h

end

theorem value?_append (h : blank.all isSpace = true) (fuel : Nat) (cs : List Char) :
    value? fuel (blank ++ cs) = value? fuel cs := by
  cases fuel with
  | zero => rfl
  | succ fuel => rw [value?, value?, skipSpace_append h]

theorem value?_number {c : Char} (leads : c = '-' ∨ c.isDigit = true)
    (h : afterNumber? (c :: cs) = some rest) :
    value? (fuel + 1) (c :: cs) = some (.number, rest) := by
  have other : isSpace c = false ∧ c ≠ '"' ∧ c ≠ '[' ∧ c ≠ '{' ∧ c ≠ 'n' ∧ c ≠ 't' ∧ c ≠ 'f' := by
    rcases leads with rfl | digit
    · decide
    · refine ⟨not_space_of_digit digit, ?_, ?_, ?_, ?_, ?_, ?_⟩
      all_goals
        rintro rfl
        cases digit
  obtain ⟨notSpace, notQuote, notBracket, notBrace, notN, notT, notF⟩ := other
  rw [value?, skipSpace_cons notSpace]
  split
  all_goals first
    | (next same => cases same; contradiction)
    | (rw [h]; rfl)

theorem value?_string (h : string? cs = some (text, rest)) :
    value? (fuel + 1) ('"' :: cs) = some (.string text, rest) := by
  rw [value?, skipSpace_cons rfl]
  simp [h]

theorem value?_array (opened : (skipSpace cs).head? ≠ some ']')
    (h : items? fuel cs = some (vs, rest)) :
    value? (fuel + 1) ('[' :: cs) = some (.array vs, rest) := by
  rw [value?, skipSpace_cons rfl]
  cases next : skipSpace cs with
  | nil => simp [next, h]
  | cons c tail =>
    have other : c ≠ ']' := by
      rintro rfl
      exact opened (by rw [next]; rfl)
    simp [next, h, other]

theorem value?_object (opened : (skipSpace cs).head? ≠ some '}')
    (h : members? fuel cs = some (ms, rest)) :
    value? (fuel + 1) ('{' :: cs) = some (.object ms, rest) := by
  rw [value?, skipSpace_cons rfl]
  cases next : skipSpace cs with
  | nil => simp [next, h]
  | cons c tail =>
    have other : c ≠ '}' := by
      rintro rfl
      exact opened (by rw [next]; rfl)
    simp [next, h, other]

theorem items?_last (hb : blank.all isSpace = true)
    (h : value? fuel cs = some (v, blank ++ ']' :: rest)) :
    items? (fuel + 1) cs = some ([v], rest) := by
  rw [items?, h]
  simp [skipSpace_append hb, skipSpace_cons (c := ']') rfl]

theorem items?_more (hb : blank.all isSpace = true)
    (h : value? fuel cs = some (v, blank ++ ',' :: tail))
    (more : items? fuel tail = some (vs, rest)) :
    items? (fuel + 1) cs = some (v :: vs, rest) := by
  rw [items?, h]
  simp [skipSpace_append hb, skipSpace_cons (c := ',') rfl, more]

theorem members?_last {before name between after : List Char} (lead : before.all isSpace = true)
    (named : SpellsString name key) (trail : between.all isSpace = true)
    (hb : after.all isSpace = true) (h : value? fuel cs = some (v, after ++ '}' :: rest)) :
    members? (fuel + 1) (before ++ (name ++ (between ++ ':' :: cs))) = some ([(key, v)], rest) := by
  obtain ⟨body, written, read⟩ := string?_append named
  rw [members?, skipSpace_append lead, written, List.cons_append, skipSpace_cons rfl]
  simp [read, skipSpace_append trail, skipSpace_cons (c := ':') rfl, h, skipSpace_append hb,
    skipSpace_cons (c := '}') rfl]

theorem members?_more {before name between after : List Char} (lead : before.all isSpace = true)
    (named : SpellsString name key) (trail : between.all isSpace = true)
    (hb : after.all isSpace = true) (h : value? fuel cs = some (v, after ++ ',' :: tail))
    (more : members? fuel tail = some (ms, rest)) :
    members? (fuel + 1) (before ++ (name ++ (between ++ ':' :: cs))) =
      some ((key, v) :: ms, rest) := by
  obtain ⟨body, written, read⟩ := string?_append named
  rw [members?, skipSpace_append lead, written, List.cons_append, skipSpace_cons rfl]
  simp [read, skipSpace_append trail, skipSpace_cons (c := ':') rfl, h, skipSpace_append hb,
    skipSpace_cons (c := ',') rfl, more]

/-- No value starts like the end of a list. -/
theorem spells_head (h : Spells ds v) :
    ∃ c tail, ds = c :: tail ∧ isSpace c = false ∧ c ≠ ']' := by
  cases h with
  | number numeral =>
    obtain ⟨c, tail, rfl, leads⟩ := numeral_head numeral
    refine ⟨c, tail, rfl, ?_⟩
    rcases leads with rfl | digit
    · decide
    · refine ⟨not_space_of_digit digit, ?_⟩
      rintro rfl
      cases digit
  | string spelled =>
    obtain ⟨body, rfl, -⟩ := string?_append spelled
    exact ⟨_, _, rfl, rfl, by decide⟩
  | _ => exact ⟨_, _, rfl, rfl, by decide⟩

theorem exists_fuel (h : Spells ds v) (enough : 2 * ds.length ≤ fuel) : ∃ k, fuel = k + 1 := by
  obtain ⟨c, tail, rfl, -⟩ := spells_head h
  rw [List.length_cons] at enough
  exact ⟨fuel - 1, by omega⟩

theorem not_closed_array (h : SpellsItems ds vs) (rest : List Char) :
    (skipSpace (ds ++ rest)).head? ≠ some ']' := by
  have started {piece : List Char} {v : Value} (doc : Document piece v) (rest : List Char) :
      (skipSpace (piece ++ rest)).head? ≠ some ']' := by
    obtain ⟨lead, spelled, trail⟩ := doc
    obtain ⟨c, tail, rfl, notSpace, other⟩ := spells_head spelled
    rw [List.append_assoc, skipSpace_append lead, List.cons_append, List.cons_append,
      skipSpace_cons notSpace]
    simpa using other
  cases h with
  | last doc => exact started doc rest
  | more doc later =>
    rw [List.append_assoc]
    exact started doc _

theorem not_closed_object (h : SpellsMembers ds ms) (rest : List Char) :
    (skipSpace (ds ++ rest)).head? ≠ some '}' := by
  have started {piece : List Char} {m : Option String × Value} (member : SpellsMember piece m)
      (rest : List Char) : (skipSpace (piece ++ rest)).head? ≠ some '}' := by
    obtain ⟨lead, named, trail, doc⟩ := member
    obtain ⟨body, rfl, -⟩ := string?_append named
    rw [List.append_assoc, skipSpace_append lead, List.cons_append, List.cons_append,
      skipSpace_cons rfl]
    simp
  cases h with
  | last member => exact started member rest
  | more member later =>
    rw [List.append_assoc]
    exact started member _

-- The reader spends one unit of fuel on each value and one on each item or member, and each of
-- them takes a character of its own: what is left of twice the length is enough for the parts.
mutual

theorem value?_complete : ∀ {ds : List Char} {v : Value}, Spells ds v →
    ∀ (fuel : Nat) (rest : List Char), 2 * ds.length ≤ fuel → (v = .number → EndsNumber rest) →
      value? fuel (ds ++ rest) = some (v, rest)
  | _, _, h, 0, rest, enough, _ => by
    obtain ⟨k, absurdly⟩ := exists_fuel h enough
    cases absurdly
  | _, _, .null, fuel + 1, rest, _, _ => rfl
  | _, _, .true, fuel + 1, rest, _, _ => rfl
  | _, _, .false, fuel + 1, rest, _, _ => rfl
  | _, _, .number numeral, fuel + 1, rest, _, ends => by
    have number := afterNumber?_append numeral (ends rfl)
    obtain ⟨c, tail, rfl, leads⟩ := numeral_head numeral
    exact value?_number leads number
  | _, _, .string spelled, fuel + 1, rest, _, _ => by
    obtain ⟨body, rfl, read⟩ := string?_append spelled
    exact value?_string (read rest)
  | _, _, .noItems blanks, fuel + 1, rest, _, _ => by
    rw [List.cons_append, List.append_assoc, value?, skipSpace_cons rfl]
    simp [skipSpace_append blanks, skipSpace_cons (c := ']') rfl]
  | _, _, .noMembers blanks, fuel + 1, rest, _, _ => by
    rw [List.cons_append, List.append_assoc, value?, skipSpace_cons rfl]
    simp [skipSpace_append blanks, skipSpace_cons (c := '}') rfl]
  | _, _, .items h, fuel + 1, rest, enough, _ => by
    rw [List.length_cons, List.length_append] at enough
    obtain ⟨fuel, rfl⟩ : ∃ k, fuel = k + 1 := ⟨fuel - 1, by omega⟩
    rw [List.cons_append, List.append_assoc]
    exact value?_array (not_closed_array h _) (items?_complete h fuel rest (by omega))
  | _, _, .members h, fuel + 1, rest, enough, _ => by
    rw [List.length_cons, List.length_append] at enough
    obtain ⟨fuel, rfl⟩ : ∃ k, fuel = k + 1 := ⟨fuel - 1, by omega⟩
    rw [List.cons_append, List.append_assoc]
    exact value?_object (not_closed_object h _) (members?_complete h fuel rest (by omega))

theorem document_complete : ∀ {ds : List Char} {v : Value}, Document ds v →
    ∀ (fuel : Nat) (rest : List Char), 2 * ds.length ≤ fuel → (v = .number → EndsNumber rest) →
      ∃ after, after.all isSpace = true ∧ value? fuel (ds ++ rest) = some (v, after ++ rest)
  | _, _, @Document.padded _ _ after _ lead h trail, fuel, rest, enough, ends => by
    rw [List.length_append, List.length_append] at enough
    refine ⟨after, trail, ?_⟩
    rw [List.append_assoc, List.append_assoc, value?_append lead]
    exact value?_complete h fuel _ (by omega) fun number => endsNumber_append trail (ends number)

theorem items?_complete : ∀ {ds : List Char} {vs : List Value}, SpellsItems ds vs →
    ∀ (fuel : Nat) (rest : List Char), 2 * ds.length ≤ fuel →
      items? (fuel + 1) (ds ++ ']' :: rest) = some (vs, rest)
  | _, _, .last h, fuel, rest, enough => by
    obtain ⟨after, blanks, read⟩ := document_complete h fuel (']' :: rest) enough
      fun _ => endsNumber_cons (by decide) rest
    exact items?_last blanks read
  | _, _, @SpellsItems.more _ others _ _ h later, fuel, rest, enough => by
    rw [List.length_append, List.length_cons] at enough
    obtain ⟨fuel, rfl⟩ : ∃ k, fuel = k + 1 := ⟨fuel - 1, by omega⟩
    obtain ⟨after, blanks, read⟩ := document_complete h (fuel + 1) (',' :: (others ++ ']' :: rest))
      (by omega) fun _ => endsNumber_cons (by decide) _
    rw [List.append_assoc, List.cons_append]
    exact items?_more blanks read (items?_complete later fuel rest (by omega))

theorem members?_complete : ∀ {ds : List Char} {ms : List (Option String × Value)},
    SpellsMembers ds ms → ∀ (fuel : Nat) (rest : List Char), 2 * ds.length ≤ fuel →
      members? (fuel + 1) (ds ++ '}' :: rest) = some (ms, rest)
  | _, _, .last (.keyed lead named trail h), fuel, rest, enough => by
    simp only [List.length_append, List.length_cons] at enough
    obtain ⟨after, blanks, read⟩ := document_complete h fuel ('}' :: rest) (by omega)
      fun _ => endsNumber_cons (by decide) rest
    simp only [List.append_assoc, List.cons_append]
    exact members?_last lead named trail blanks read
  | _, _, @SpellsMembers.more _ others _ _ (.keyed lead named trail h) later, fuel, rest,
      enough => by
    simp only [List.length_append, List.length_cons] at enough
    obtain ⟨fuel, rfl⟩ : ∃ k, fuel = k + 1 := ⟨fuel - 1, by omega⟩
    obtain ⟨after, blanks, read⟩ := document_complete h (fuel + 1) (',' :: (others ++ '}' :: rest))
      (by omega) fun _ => endsNumber_cons (by decide) _
    simp only [List.append_assoc, List.cons_append]
    exact members?_more lead named trail blanks read
      (members?_complete later fuel rest (by omega))

end

theorem two_mul_le_fuelFor (ds rest : List Char) : 2 * ds.length ≤ fuelFor (ds ++ rest) := by
  rw [fuelFor, List.length_append]
  omega

/-- A text is read as a value exactly if it spells that value. -/
theorem read?_eq_some_iff {text : String} : read? text = some v ↔ Document text.toList v := by
  constructor
  · intro h
    rw [read?, Option.bind_eq_bind, Option.bind_eq_some_iff] at h
    obtain ⟨⟨v', rest⟩, first, h⟩ := h
    dsimp only at h
    split at h
    · next ended =>
      cases h
      obtain ⟨ds, spelled, start⟩ := value?_sound _ _ _ _ first
      obtain ⟨piece, doc, split⟩ := Document.of_skipSpace start spelled
      rw [List.isEmpty_iff.mp ended, List.append_nil] at split
      rwa [split]
    · cases h
  · intro doc
    have enough := two_mul_le_fuelFor text.toList []
    obtain ⟨after, blanks, read⟩ := document_complete doc _ [] enough fun _ => endsNumber_nil
    rw [List.append_nil, List.append_nil] at read
    rw [read?, read]
    simp [skipSpace_eq_nil_iff.mpr blanks]

/-- Nothing but blanks may follow a value; a number could go on in what follows it. -/
theorem read?_append_eq_none {text tail : String} (doc : Document text.toList v)
    (notNumber : v ≠ .number) (more : tail.toList.all isSpace = false) :
    read? (text ++ tail) = none := by
  have enough := two_mul_le_fuelFor text.toList tail.toList
  obtain ⟨after, blanks, read⟩ := document_complete doc _ tail.toList enough
    fun number => absurd number notNumber
  have left : skipSpace tail.toList ≠ [] := by
    rw [Ne, skipSpace_eq_nil_iff, more]
    decide
  rw [read?, String.toList_append, read]
  simp [skipSpace_append blanks, left]

end SqlConverter.Json
