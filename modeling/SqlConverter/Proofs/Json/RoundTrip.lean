import SqlConverter.Proofs.Json.Reading

namespace SqlConverter.Json

variable {style : Style}

/-- Nothing but blanks is put between things. -/
structure Style.Blank (style : Style) : Prop where
  newline : ∀ depth, (style.newline depth).all isSpace = true
  gap : style.gap.all isSpace = true

theorem compact_blank : Style.compact.Blank := ⟨fun _ => rfl, rfl⟩

theorem indented_blank : Style.indented.Blank := by
  refine ⟨fun depth => ?_, rfl⟩
  simp only [Style.indented, List.all_cons, List.all_replicate]
  cases 2 * depth <;> rfl

theorem numeral_zero : Numeral ['0'] := .parts (.inl rfl) .zero .absent .absent

mutual

theorem spells_write (hs : style.Blank) : ∀ (v : Value) (depth : Nat),
    Spells (v.write style depth) v
  | .null, _ => .null
  | .bool true, _ => .true
  | .bool false, _ => .false
  | .number, _ => .number numeral_zero
  | .string text, _ => .string (spellsString_literal text)
  | .array [], _ => .noItems blank_nil
  | .array (v :: vs), depth => by
    have first := spells_write hs v (depth + 1)
    have all := spellsItems_write hs vs (depth + 1) v _ _ (hs.newline (depth + 1))
      (hs.newline depth) first
    rw [Value.write]
    simpa only [List.append_assoc, List.cons_append] using Spells.items all
  | .object [], _ => .noMembers blank_nil
  | .object ((key, v) :: ms), depth => by
    have first := spells_write hs v (depth + 1)
    have all := spellsMembers_write hs ms (depth + 1) key v _ _ (hs.newline (depth + 1))
      (hs.newline depth) first
    rw [Value.write]
    simpa only [List.append_assoc, List.cons_append] using Spells.members all

theorem spellsItems_write (hs : style.Blank) : ∀ (vs : List Value) (depth : Nat) (v : Value)
    {cs : List Char} (lead trail : List Char), lead.all isSpace = true →
      trail.all isSpace = true → Spells cs v →
      SpellsItems (lead ++ (cs ++ (writeItems style depth vs ++ trail))) (v :: vs)
  | [], depth, v, cs, lead, trail, hl, ht, first => .last (.padded hl first ht)
  | w :: vs, depth, v, cs, lead, trail, hl, ht, first => by
    have second := spells_write hs w depth
    have others := spellsItems_write hs vs depth w _ trail (hs.newline depth) ht second
    have doc := Document.padded hl first blank_nil
    simpa only [writeItems, List.append_assoc, List.cons_append, List.nil_append] using
      SpellsItems.more doc others

theorem spellsMembers_write (hs : style.Blank) : ∀ (ms : List (Option String × Value))
    (depth : Nat) (key : Option String) (v : Value) {cs : List Char} (lead trail : List Char),
      lead.all isSpace = true → trail.all isSpace = true → Spells cs v →
      SpellsMembers (lead ++ (literal key ++ ':' :: (style.gap ++
        (cs ++ (writeMembers style depth ms ++ trail))))) ((key, v) :: ms)
  | [], depth, key, v, cs, lead, trail, hl, ht, first =>
    .last (.keyed hl (spellsString_literal key) blank_nil (.padded hs.gap first ht))
  | (key', w) :: ms, depth, key, v, cs, lead, trail, hl, ht, first => by
    have second := spells_write hs w depth
    have others := spellsMembers_write hs ms depth key' w _ trail (hs.newline depth) ht second
    have doc := Document.padded hs.gap first blank_nil
    have member := SpellsMember.keyed hl (spellsString_literal key) blank_nil doc
    simpa only [writeMembers, List.append_assoc, List.cons_append, List.nil_append] using
      SpellsMembers.more member others

end

/-- Written in any style of blanks, on one line or on many, a value is what is read, whatever blanks
follow it. -/
theorem read?_write (hs : style.Blank) (v : Value) (depth : Nat) (blank : List Char)
    (hb : blank.all isSpace = true) :
    read? (.ofList (v.write style depth ++ blank)) = some v := by
  rw [read?_eq_some_iff, String.toList_ofList]
  exact Document.padded blank_nil (spells_write hs v depth) hb

theorem read?_compact (v : Value) : read? v.compact = some v := by
  have := read?_write compact_blank v 0 [] rfl
  rwa [List.append_nil] at this

theorem read?_indented_line (v : Value) : read? (v.indented ++ "\n") = some v := by
  have := read?_write indented_blank v 0 ['\n'] rfl
  rwa [String.ofList_append] at this

mutual

theorem visible_write : ∀ (v : Value) (depth : Nat), Visible (v.write .compact depth)
  | .null, _ => by
    rw [Value.write]
    decide
  | .bool b, _ => by
    cases b <;> rw [Value.write] <;> decide
  | .number, _ => by
    rw [Value.write]
    decide
  | .string text, _ => visible_literal text
  | .array [], _ => by
    rw [Value.write]
    decide
  | .array (v :: vs), depth => by
    have opened : Visible ['['] := by decide
    have between : Visible [] := by decide
    have closed : Visible [']'] := by decide
    have first := opened.append (visible_write v (depth + 1))
    have others := first.append (visible_writeItems vs (depth + 1))
    rw [Value.write]
    exact (others.append between).append closed
  | .object [], _ => by
    rw [Value.write]
    decide
  | .object ((key, v) :: ms), depth => by
    have opened : Visible ['{'] := by decide
    have colon : Visible [':'] := by decide
    have between : Visible [] := by decide
    have closed : Visible ['}'] := by decide
    have named := (opened.append (visible_literal key)).append colon
    have first := named.append (visible_write v (depth + 1))
    have others := first.append (visible_writeMembers ms (depth + 1))
    rw [Value.write]
    exact (others.append between).append closed

theorem visible_writeItems : ∀ (vs : List Value) (depth : Nat),
    Visible (writeItems .compact depth vs)
  | [], _ => by
    rw [writeItems]
    decide
  | v :: vs, depth => by
    have comma : Visible [','] := by decide
    have first := comma.append (visible_write v depth)
    rw [writeItems]
    exact first.append (visible_writeItems vs depth)

theorem visible_writeMembers : ∀ (ms : List (Option String × Value)) (depth : Nat),
    Visible (writeMembers .compact depth ms)
  | [], _ => by
    rw [writeMembers]
    decide
  | (key, v) :: ms, depth => by
    have comma : Visible [','] := by decide
    have colon : Visible [':'] := by decide
    have named := (comma.append (visible_literal key)).append colon
    have first := named.append (visible_write v depth)
    rw [writeMembers]
    exact first.append (visible_writeMembers ms depth)

end

end SqlConverter.Json
