import SqlConverter.Proofs.Statement.Single

namespace SqlConverter.StatementResult

open Text (Tight allBlank dropEndWhile isBlank)

/-- A statement is its body and a run of semicolons, with blanks around both. -/
def Stripped (statement sql : String) : Prop :=
  ∃ before count after, allBlank before ∧ allBlank after ∧
    statement.toList = before ++ (sql.toList ++ List.replicate count ';') ++ after ∧
    Tight (sql.toList ++ List.replicate count ';') ∧ sql.toList.getLast? ≠ some ';'

theorem body_not_terminated (statement : String) :
    (body statement).toList.getLast? ≠ some ';' := by
  intro h
  rw [toList_body] at h
  exact absurd (Text.getLast?_dropEndWhile h) (by decide)

theorem exists_run (cs : List Char) :
    ∃ count, cs = dropEndWhile isSemicolon cs ++ List.replicate count ';' := by
  obtain ⟨run, semicolons, split⟩ := Text.exists_dropped isSemicolon cs
  have alike : run = List.replicate run.length ';' := by
    apply List.eq_replicate_of_mem
    intro c hc
    simpa [isSemicolon] using List.all_eq_true.mp semicolons c hc
  exact ⟨run.length, alike ▸ split⟩

theorem stripped_body (statement : String) : Stripped statement (body statement) := by
  obtain ⟨before, after, hb, ha, padded⟩ := Text.exists_padding statement.toList
  obtain ⟨count, run⟩ := exists_run (Text.trim statement.toList)
  rw [← toList_body] at run
  refine ⟨before, count, after, hb, ha, ?_, ?_, body_not_terminated statement⟩
  · rw [← run]
    exact padded
  · rw [← run]
    exact Text.tight_trim _

theorem Stripped.eq_body {statement sql : String} (h : Stripped statement sql) :
    sql = body statement := by
  obtain ⟨before, count, after, hb, ha, whole, tight, last⟩ := h
  have semicolons : (List.replicate count ';').all isSemicolon := by simp [isSemicolon]
  have kept : dropEndWhile isSemicolon sql.toList = sql.toList := by
    apply Text.dropEndWhile_eq_self
    intro c hc
    rw [isSemicolon, beq_eq_false_iff_ne]
    rintro rfl
    exact last hc
  rw [← String.toList_inj, toList_body, whole, Text.trim_padded hb ha, Text.trim_eq_self tight,
    Text.dropEndWhile_append_of_all semicolons, kept]

theorem stripped_iff {statement sql : String} :
    Stripped statement sql ↔ sql = body statement :=
  ⟨Stripped.eq_body, fun h => h ▸ stripped_body statement⟩

/-- Only the terminator of a result is taken off again. -/
theorem body_terminated_body (statement : String) :
    body (terminated (body statement)) = body statement := by
  refine (Stripped.eq_body ⟨[], 1, [], rfl, rfl, ?_, ?_, body_not_terminated statement⟩).symm
  · simp
  · simpa using tight_terminated_body statement

theorem body_eq_empty {statement : String} (blank : Text.isBlankText (body statement)) :
    body statement = "" := by
  cases h : (body statement).toList with
  | nil => exact String.toList_eq_nil_iff.mp h
  | cons c rest =>
    have first : isBlank c = false := isBlank_head_body statement (by simp [h])
    rw [Text.isBlankText, allBlank, h, List.all_cons, first] at blank
    cases blank

/-- A character that no statement is made of. -/
def isFiller (c : Char) : Bool := isBlank c || isSemicolon c

/-- Nothing but blanks and semicolons. -/
def holdsNothing (text : String) : Bool := text.toList.all isFiller

/-- The semicolons at the end of a statement stand together: wherever two of them have only blanks
between them, and only blanks and semicolons behind them, there is nothing between them. -/
def TerminatorsTogether (statement : String) : Prop :=
  ∀ front gap rest, statement.toList = front ++ ';' :: (gap ++ ';' :: rest) →
    allBlank gap → rest.all isFiller → gap = []

/-- There is something to read, and no semicolon behind it, the blanks at the end aside. -/
structure FullyStripped (sql : String) : Prop where
  filled : holdsNothing sql = false
  bare : (dropEndWhile isBlank sql.toList).getLast? ≠ some ';'

theorem all_dropEndWhile {p q : Char → Bool} {cs : List Char} (h : cs.all q) :
    (dropEndWhile p cs).all q := by
  have kept : dropEndWhile p cs <+: cs := List.rdropWhile_prefix p cs
  rw [List.all_eq_true] at h ⊢
  exact fun c hc => h c (kept.subset hc)

theorem all_isFiller_of_blank {cs : List Char} (blank : allBlank cs) : cs.all isFiller := by
  rw [allBlank, List.all_eq_true] at blank
  rw [List.all_eq_true]
  intro c hc
  rw [isFiller, blank c hc, Bool.true_or]

/-- What is taken off a statement holds nothing. -/
theorem Stripped.holdsNothing_eq {statement sql : String} (h : Stripped statement sql) :
    holdsNothing sql = holdsNothing statement := by
  obtain ⟨before, count, after, hb, ha, whole, -, -⟩ := h
  have semicolons : (List.replicate count ';').all isFiller := by simp [isFiller, isSemicolon]
  simp only [holdsNothing, whole, List.all_append, all_isFiller_of_blank hb,
    all_isFiller_of_blank ha, semicolons, Bool.true_and, Bool.and_true]

theorem holdsNothing_body (statement : String) :
    holdsNothing (body statement) = holdsNothing statement :=
  (stripped_body statement).holdsNothing_eq

/-- The last character of a text of fillers that is not blank is a semicolon. -/
theorem getLast?_of_fillers {cs : List Char} (fillers : cs.all isFiller)
    (visible : ¬ cs.all isBlank) : (dropEndWhile isBlank cs).getLast? = some ';' := by
  have filled : dropEndWhile isBlank cs ≠ [] := by
    rw [Ne, Text.dropEndWhile_eq_nil_iff]
    exact visible
  have last := List.getLast_mem_getLast? filled
  have seen := Text.getLast?_dropEndWhile last
  have semicolon := List.all_eq_true.mp (all_dropEndWhile fillers) _ (List.getLast_mem filled)
  rw [isFiller, seen, Bool.false_or, isSemicolon, beq_iff_eq] at semicolon
  rw [semicolon] at last
  exact last

theorem getLast?_before_fillers (front : List Char) {rest : List Char} (h : rest.all isFiller) :
    (dropEndWhile isBlank (front ++ ';' :: rest)).getLast? = some ';' := by
  have visible : ¬ (';' :: rest).all isBlank := by simp [show isBlank ';' = false by decide]
  have fillers : (';' :: rest).all isFiller := by
    rw [List.all_cons, h]
    rfl
  have last := getLast?_of_fillers fillers visible
  rw [Text.dropEndWhile_append_of_not_all visible, List.getLast?_append, last]
  rfl

/-- The run of semicolons that is taken off ends at a gap, and the one ahead of it stays. -/
theorem getLast?_body_of_gap {statement : String} {front gap rest : List Char}
    (whole : statement.toList = front ++ ';' :: (gap ++ ';' :: rest)) (blank : allBlank gap)
    (fillers : rest.all isFiller) (apart : gap ≠ []) :
    (dropEndWhile isBlank (body statement).toList).getLast? = some ';' := by
  have visible : isBlank ';' = false := by decide
  have opened : statement.toList.dropWhile isBlank =
      front.dropWhile isBlank ++ ';' :: (gap ++ ';' :: rest) := by
    rw [whole, List.dropWhile_append]
    split
    · next empty => simp [List.isEmpty_iff.mp empty, visible]
    · rfl
  have trimmed : Text.trim statement.toList =
      front.dropWhile isBlank ++ [';'] ++ (gap ++ dropEndWhile isBlank (';' :: rest)) := by
    have ends : ¬ (';' :: rest).all isBlank := by simp [visible]
    rw [Text.trim, opened, ← Text.dropEndWhile_append_of_not_all ends gap,
      ← Text.dropEndWhile_append_of_not_all _ (front.dropWhile isBlank ++ [';'])]
    · simp
    · simp [visible]
  have stops : ¬ (gap ++ dropEndWhile isBlank (';' :: rest)).all isSemicolon := by
    obtain ⟨c, others, rfl⟩ := List.exists_cons_of_ne_nil apart
    rw [allBlank, List.all_cons, Bool.and_eq_true] at blank
    intro all
    rw [List.cons_append, List.all_cons, Bool.and_eq_true, isSemicolon, beq_iff_eq] at all
    rw [all.1, visible] at blank
    cases blank.1
  rw [toList_body, trimmed, Text.dropEndWhile_append_of_not_all stops, List.append_assoc]
  apply getLast?_before_fillers
  apply all_dropEndWhile
  rw [List.all_append, all_isFiller_of_blank blank, Bool.true_and]
  apply all_dropEndWhile
  rw [List.all_cons, fillers]
  rfl

/-- A semicolon at the end of a body is cut off by a gap from those that were taken off. -/
theorem exists_gap_of_getLast? {statement : String}
    (last : (dropEndWhile isBlank (body statement).toList).getLast? = some ';') :
    ∃ front gap rest, statement.toList = front ++ ';' :: (gap ++ ';' :: rest) ∧ allBlank gap ∧
      rest.all isFiller ∧ gap ≠ [] := by
  obtain ⟨before, count, after, hb, ha, whole, tight, bare⟩ := stripped_body statement
  obtain ⟨front, ended⟩ := List.getLast?_eq_some_iff.mp last
  obtain ⟨gap, blank, split⟩ := Text.exists_dropped isBlank (body statement).toList
  rw [ended] at split
  rw [split] at whole tight bare
  have apart : gap ≠ [] := by
    rintro rfl
    simp at bare
  cases count with
  | zero =>
    -- Without a run behind the body, the gap would have been trimmed.
    rw [List.replicate_zero, List.append_nil] at tight
    have behind := List.getLast_mem_getLast? apart
    rw [← List.getLast?_append_of_ne_nil _ apart] at behind
    have seen := tight.2 _ behind
    rw [List.all_eq_true.mp blank _ (List.getLast_mem apart)] at seen
    cases seen
  | succ count =>
    refine ⟨before ++ front, gap, List.replicate count ';' ++ after, ?_, blank, ?_, apart⟩
    · simp [whole, List.replicate_succ]
    · simp [List.all_append, all_isFiller_of_blank ha, isFiller, isSemicolon]

theorem terminatorsTogether_iff {statement : String} :
    TerminatorsTogether statement ↔
      (dropEndWhile isBlank (body statement).toList).getLast? ≠ some ';' := by
  constructor
  · intro together last
    obtain ⟨front, gap, rest, whole, blank, fillers, apart⟩ := exists_gap_of_getLast? last
    exact apart (together front gap rest whole blank fillers)
  · intro last front gap rest whole blank fillers
    by_contra apart
    exact last (getLast?_body_of_gap whole blank fillers apart)

theorem fullyStripped_body_iff {statement : String}
    (visible : Text.isBlankText (body statement) = false) :
    FullyStripped (body statement) ↔ TerminatorsTogether statement := by
  rw [terminatorsTogether_iff]
  constructor
  · exact FullyStripped.bare
  · intro bare
    refine ⟨?_, bare⟩
    rw [Bool.eq_false_iff]
    intro fillers
    exact bare (getLast?_of_fillers fillers (by simpa [Text.isBlankText, allBlank] using visible))

theorem terminatorsTogether_of_blank {statement : String}
    (blank : Text.isBlankText (body statement)) : TerminatorsTogether statement := by
  rw [terminatorsTogether_iff, body_eq_empty blank]
  decide

/-- What is put to the transpiler has something to read and no semicolon as its last character. It
has no semicolon before the blanks at its end either just if the semicolons at the end of the
statement stand together; and just then a statement of blanks and semicolons is put to nobody. -/
theorem calls_fully_stripped_iff (t : Transpiler) (statement dialect : String)
    (script : Script) :
    (∀ call ∈ ((ofStatement statement dialect).run t script).calls, ∃ sql,
      call = .transpile sql dialect Dialect.target ∧ Text.isBlankText sql = false ∧
        sql.toList.getLast? ≠ some ';') ∧
    ((∀ call ∈ ((ofStatement statement dialect).run t script).calls, ∃ sql,
      call = .transpile sql dialect Dialect.target ∧ FullyStripped sql) ↔
        TerminatorsTogether statement) ∧
    (holdsNothing statement →
      ((ofStatement statement dialect).run t script = ⟨unconverted ";", [], script⟩ ↔
        TerminatorsTogether statement)) := by
  rw [run_ofStatement]
  cases blank : Text.isBlankText (body statement) with
  | true =>
    have together := terminatorsTogether_of_blank blank
    simp [callFor?, blank, together, single_of_blank t dialect blank]
  | false =>
    have stripped := fullyStripped_body_iff blank
    refine ⟨?_, ?_, ?_⟩
    · simpa [callFor?, blank] using body_not_terminated statement
    · simpa [callFor?, blank] using stripped
    · intro nothing
      rw [← holdsNothing_body] at nothing
      have apart : ¬ TerminatorsTogether statement := by
        rw [← stripped]
        rintro ⟨filled, -⟩
        rw [filled] at nothing
        cases nothing
      simp [callFor?, blank, apart]

/-- Answers every text in capitals. -/
def capitals : Transpiler where
  parse := fun text dialect => .ok ⟨.other, text, dialect⟩
  transpile := fun text _ _ => .ok (.ofList (Text.upper text.toList))

/-- A statement whose semicolons stand together, one that is nothing else, and one with a gap. -/
theorem calls_fully_stripped_iff_samples :
    TerminatorsTogether "select 1 ;;\n" ∧
    (holdsNothing "\t;;\n" = true ∧ TerminatorsTogether "\t;;\n") ∧
    ¬ TerminatorsTogether "select 1; ;" := by
  obtain ⟨-, filled, -⟩ := calls_fully_stripped_iff capitals "select 1 ;;\n" "tsql" (.of [])
  obtain ⟨-, -, nothing⟩ := calls_fully_stripped_iff capitals "\t;;\n" "tsql" (.of [])
  obtain ⟨-, gap, -⟩ := calls_fully_stripped_iff capitals "select 1; ;" "tsql" (.of [])
  refine ⟨filled.mp ?_, ⟨by decide, (nothing (by decide)).mp rfl⟩, ?_⟩
  · intro call among
    have asked : call = .transpile "select 1 " "tsql" Dialect.target := List.mem_singleton.mp among
    exact ⟨"select 1 ", asked, by decide, by decide⟩
  · rw [← gap]
    intro stripped
    obtain ⟨sql, asked, -, bare⟩ := stripped (.transpile "select 1; " "tsql" Dialect.target)
      (List.mem_singleton.mpr rfl)
    cases asked
    exact bare (by decide)

/-- A gap between two semicolons keeps the first. It is transpiled with the statement, or by itself
as if it were one. -/
theorem gap_keeps_terminator :
    (∀ t script, ((ofStatement "select 1; ;" "tsql").run t script).calls =
        [.transpile "select 1; " "tsql" Dialect.target]) ∧
      ¬ FullyStripped "select 1; " ∧
      holdsNothing "; ;" = true ∧
      ∀ t script, ((ofStatement "; ;" "tsql").run t script).calls =
        [.transpile "; " "tsql" Dialect.target] := by
  refine ⟨?_, ?_, by decide, ?_⟩
  · intro t script
    rfl
  · rintro ⟨-, bare⟩
    exact bare (by decide)
  · intro t script
    rfl

end SqlConverter.StatementResult
