import SqlConverter.Proofs.Statement.Batch
import SqlConverter.Proofs.Text.Trimming

namespace SqlConverter.StatementResult

open Text (Tight)

/-- What becomes of a statement by itself. -/
def single (t : Transpiler) (dialect statement : String) : StatementResult :=
  ((ofStatement statement dialect).run t (.of [])).value

/-- The call for a statement, if it has a body. -/
def callFor? (dialect statement : String) : Option Call :=
  if Text.isBlankText (body statement) then none
  else some (.transpile (body statement) dialect Dialect.target)

theorem single_of_blank {statement : String} (t : Transpiler) (dialect : String)
    (blank : Text.isBlankText (body statement) = true) :
    single t dialect statement = unconverted ";" := by
  rw [single, ofStatement_of_blank dialect blank]
  rfl

theorem single_of_body {statement : String} (t : Transpiler) (dialect : String)
    (blank : Text.isBlankText (body statement) = false) :
    single t dialect statement =
      ofAnswer (body statement) (t.transpile (body statement) dialect Dialect.target) := by
  rw [single, ofStatement_of_body dialect blank]
  rfl

theorem run_ofStatement (t : Transpiler) (dialect statement : String)
    (script : Script) :
    (ofStatement statement dialect).run t script =
      ⟨single t dialect statement, (callFor? dialect statement).toList, script⟩ := by
  cases blank : Text.isBlankText (body statement) with
  | true =>
    rw [single_of_blank t dialect blank, ofStatement_of_blank dialect blank, callFor?,
      if_pos blank]
    rfl
  | false =>
    rw [single_of_body t dialect blank, ofStatement_of_body dialect blank, callFor?,
      if_neg (by simp [blank])]
    rfl

theorem run_ofBatch (t : Transpiler) (dialect : String) (batch : List String)
    (script : Script) :
    (ofBatch dialect batch).run t script =
      ⟨batch.map (single t dialect), batch.filterMap (callFor? dialect), script⟩ := by
  induction batch with
  | nil => rfl
  | cons statement rest ih =>
    simp only [ofBatch, Dialogue.run_bind, run_ofStatement, ih, Dialogue.run_pure]
    cases h : callFor? dialect statement <;> simp [h]

theorem value_ofStatement (t : Transpiler) (dialect statement : String)
    (script : Script) :
    ((ofStatement statement dialect).run t script).value = single t dialect statement := by
  rw [run_ofStatement]

theorem value_ofBatch (t : Transpiler) (dialect : String) (batch : List String)
    (script : Script) :
    ((ofBatch dialect batch).run t script).value = batch.map (single t dialect) := by
  rw [run_ofBatch]

/-- An answer that leaves a statement as it was. -/
def keepsOriginal : Except TranspileError String → Bool
  | .ok sql => Text.isBlankText sql
  | .error _ => true

theorem isConverted_single (t : Transpiler) (dialect statement : String) :
    (single t dialect statement).isConverted =
      !(Text.isBlankText (body statement) ||
        keepsOriginal (t.transpile (body statement) dialect Dialect.target)) := by
  cases blank : Text.isBlankText (body statement) with
  | true =>
    rw [single_of_blank t dialect blank]
    rfl
  | false =>
    rw [single_of_body t dialect blank]
    cases t.transpile (body statement) dialect Dialect.target with
    | error e => rfl
    | ok sql => cases h : Text.isBlankText sql <;> simp [ofAnswer, keepsOriginal, isConverted, h]

/-- A statement is converted if it has a body and the transpiler answers it with some text. -/
theorem single_eq_converted_iff {t : Transpiler} {dialect statement text : String} :
    single t dialect statement = converted text ↔
      Text.isBlankText (body statement) = false ∧ ∃ answer,
        t.transpile (body statement) dialect Dialect.target = .ok answer ∧
          Text.isBlankText answer = false ∧ text = terminated (body answer) := by
  cases blank : Text.isBlankText (body statement) with
  | true => simp [single_of_blank t dialect blank]
  | false =>
    rw [single_of_body t dialect blank]
    cases t.transpile (body statement) dialect Dialect.target with
    | error e => simp [ofAnswer]
    | ok sql =>
      cases h : Text.isBlankText sql with
      | true => simp [ofAnswer, h]
      | false => simpa [ofAnswer, h] using eq_comm

theorem body_empty : body "" = "" := rfl

/-- A statement that is kept ends as one that is converted does, in one semicolon behind a body. -/
theorem exists_text_ofAnswer (statement : String) (answer : Except TranspileError String) :
    ∃ source, (ofAnswer (body statement) answer).text = terminated (body source) := by
  cases answer with
  | error e => exact ⟨statement, rfl⟩
  | ok sql =>
    rw [ofAnswer]
    split
    · exact ⟨statement, rfl⟩
    · exact ⟨sql, rfl⟩

/-- Every result is the body of some statement with one semicolon behind it. -/
theorem exists_text_single (t : Transpiler) (dialect statement : String) :
    ∃ source, (single t dialect statement).text = terminated (body source) := by
  cases blank : Text.isBlankText (body statement) with
  | true =>
    rw [single_of_blank t dialect blank]
    exact ⟨"", by rw [body_empty]; rfl⟩
  | false =>
    rw [single_of_body t dialect blank]
    exact exists_text_ofAnswer statement _

/-- Whoever answers, so it is with every result of a batch. -/
theorem Converts.exists_text {dialect : String} {batch : List String}
    {turns : List Dialogue.Turn} {results : List StatementResult}
    (h : Converts dialect batch turns results) :
    ∀ result ∈ results, ∃ source, result.text = terminated (body source) := by
  induction h with
  | nil => exact fun result none => absurd none List.not_mem_nil
  | empty _ _ ih =>
    intro result among
    rcases List.mem_cons.mp among with rfl | among
    · exact ⟨"", by rw [body_empty]; rfl⟩
    · exact ih result among
  | asked _ _ ih =>
    intro result among
    rcases List.mem_cons.mp among with rfl | among
    · exact exists_text_ofAnswer _ _
    · exact ih result among

theorem toList_body (statement : String) :
    (body statement).toList = Text.dropEndWhile isSemicolon (Text.trim statement.toList) :=
  String.toList_ofList

theorem isBlank_head_body (statement : String) {c : Char}
    (h : c ∈ (body statement).toList.head?) : Text.isBlank c = false := by
  rw [toList_body] at h
  exact Text.head?_trim (Text.head?_dropEndWhile h)

@[simp] theorem toList_terminated (sql : String) :
    (terminated sql).toList = sql.toList ++ [';'] := by
  simp [terminated]

theorem tight_terminated_body (source : String) :
    Tight (terminated (body source)).toList := by
  rw [toList_terminated]
  constructor
  · intro c hc
    cases h : (body source).toList with
    | nil =>
      have hsemi : c = ';' := by simpa [h, eq_comm] using hc
      subst hsemi
      decide
    | cons d ds =>
      have hd : d = c := by simpa [h] using hc
      subst hd
      exact isBlank_head_body source (by simp [h])
  · intro c hc
    have hsemi : c = ';' := by simpa [eq_comm] using hc
    subst hsemi
    decide

theorem terminated_ne_nil (sql : String) : (terminated sql).toList ≠ [] := by
  simp

theorem tight_intercalate (texts : List String)
    (h : ∀ text ∈ texts, Tight text.toList ∧ text.toList ≠ []) :
    Tight ("\n".intercalate texts).toList ∧
      (texts ≠ [] → ("\n".intercalate texts).toList ≠ []) := by
  induction texts with
  | nil => exact ⟨by simp [Tight], fun h => absurd rfl h⟩
  | cons text rest ih =>
    have first := h text (by simp)
    have others := ih fun other ho => h other (by simp [ho])
    by_cases last : rest = []
    · subst last
      simpa using first
    · rw [String.intercalate_cons_of_ne_nil last, String.toList_append, String.toList_append]
      refine ⟨Text.tight_append _ first.1 others.1 first.2 (others.2 last), ?_⟩
      simp [first.2]

theorem trimmed_joined {results : List StatementResult}
    (h : ∀ result ∈ results, ∃ source, result.text = terminated (body source)) :
    Text.trimmed (joined results) = joined results := by
  have tight : Tight (joined results).toList := by
    apply (tight_intercalate _ _).1
    intro text among
    obtain ⟨result, hr, rfl⟩ := List.mem_map.mp among
    obtain ⟨source, hs⟩ := h result hr
    rw [hs]
    exact ⟨tight_terminated_body source, terminated_ne_nil _⟩
  rw [Text.trimmed, Text.trim_eq_self tight, String.ofList_toList]

theorem trimmed_joined_single (t : Transpiler) (dialect : String) (batch : List String) :
    Text.trimmed (joined (batch.map (single t dialect))) =
      joined (batch.map (single t dialect)) := by
  apply trimmed_joined
  intro result among
  obtain ⟨statement, -, rfl⟩ := List.mem_map.mp among
  exact exists_text_single t dialect statement

end SqlConverter.StatementResult
