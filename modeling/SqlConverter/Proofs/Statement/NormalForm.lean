import SqlConverter.Proofs.Statement.Terminator

namespace SqlConverter.StatementResult

open Text (Tight)

/-- No blanks at either end, and one semicolon, not two, at the back. -/
structure NormalForm (text : String) : Prop where
  tight : Tight text.toList
  ended : ∃ sql, text = terminated sql ∧ sql.toList.getLast? ≠ some ';'

theorem normalForm_single (t : Transpiler) (dialect statement : String) :
    NormalForm (single t dialect statement).text := by
  obtain ⟨source, h⟩ := exists_text_single t dialect statement
  rw [h]
  exact ⟨tight_terminated_body source, body source, rfl, body_not_terminated source⟩

/-- A statement with a body is left as it was just for an answer that keeps it. -/
theorem single_eq_unconverted_iff {t : Transpiler} {dialect statement : String}
    (filled : Text.isBlankText (body statement) = false) :
    single t dialect statement = unconverted (terminated (body statement)) ↔
      keepsOriginal (t.transpile (body statement) dialect Dialect.target) := by
  rw [single_of_body t dialect filled]
  cases t.transpile (body statement) dialect Dialect.target with
  | error e => simp [ofAnswer, keepsOriginal]
  | ok sql => cases h : Text.isBlankText sql <;> simp [ofAnswer, keepsOriginal, h]

/-- A statement always becomes a text in normal form, and no reply of the assistant is used up. Its
body is put to the transpiler once, if there is one. With a refusal or a blank answer it stays as it
was but for the blanks around it and the semicolons at its end; it is converted just if the answer
is not blank, and then to the answer without its own blanks and semicolons. -/
theorem run_ofStatement_normal_form (t : Transpiler) (statement dialect : String)
    (script : Script) :
    ∃ result calls sql,
      (ofStatement statement dialect).run t script = ⟨result, calls, script⟩ ∧
      NormalForm result.text ∧ Stripped statement sql ∧
      calls = (if Text.isBlankText sql then [] else [.transpile sql dialect Dialect.target]) ∧
      (Text.isBlankText sql = true → result = unconverted ";") ∧
      (Text.isBlankText sql = false →
        (result = unconverted (terminated sql) ↔
          keepsOriginal (t.transpile sql dialect Dialect.target))) ∧
      ∀ text, result = converted text ↔
        Text.isBlankText sql = false ∧ ∃ answer out,
          t.transpile sql dialect Dialect.target = .ok answer ∧
            Text.isBlankText answer = false ∧ Stripped answer out ∧ text = terminated out := by
  refine ⟨single t dialect statement, (callFor? dialect statement).toList, body statement,
    run_ofStatement t dialect statement script, normalForm_single t dialect statement,
    stripped_body statement, ?_, single_of_blank t dialect, single_eq_unconverted_iff, ?_⟩
  · rw [callFor?]
    split <;> rfl
  · intro text
    simp only [single_eq_converted_iff, stripped_iff, exists_and_left, exists_eq_left]

/-- Answers with blanks and semicolons of its own, unless asked for something broken. -/
def untidy : Transpiler where
  parse := fun text dialect => .ok ⟨.other, text, dialect⟩
  transpile := fun text _ _ =>
    if text = "broken " then .error .empty else .ok "\u00a0SELECT 1 ; ;;\n"

/-- A statement that is kept with the blank ahead of its semicolons, one that is converted, and one
without a body. -/
theorem run_ofStatement_normal_form_untidy :
    (Stripped "\u3000broken ;;\n" "broken " ∧
      ((ofStatement "\u3000broken ;;\n" "tsql").run untidy (.of [])).value =
        unconverted "broken ;") ∧
    ((ofStatement "select 1" "tsql").run untidy (.of [])).value = converted "SELECT 1 ; ;" ∧
    ((ofStatement " ;; " "tsql").run untidy (.of [])).value = unconverted ";" := by
  obtain ⟨_, _, sql, keptRun, -, kept, -, -, keeps, -⟩ :=
    run_ofStatement_normal_form untidy "\u3000broken ;;\n" "tsql" (.of [])
  obtain ⟨_, _, asked, convertedRun, -, whole, -, -, -, converts⟩ :=
    run_ofStatement_normal_form untidy "select 1" "tsql" (.of [])
  obtain ⟨_, _, rest, emptyRun, -, bare, -, empty, -, -⟩ :=
    run_ofStatement_normal_form untidy " ;; " "tsql" (.of [])
  have broken : sql = "broken " := kept.eq_body.trans (by decide)
  have all : asked = "select 1" := whole.eq_body.trans (by decide)
  have nothing : rest = "" := bare.eq_body.trans (by decide)
  subst broken all nothing
  rw [keptRun, convertedRun, emptyRun]
  refine ⟨⟨kept, (keeps (by decide)).mpr rfl⟩, (converts _).mpr ⟨by decide, ?_⟩,
    empty (by decide)⟩
  exact ⟨_, "SELECT 1 ; ", rfl, by decide, stripped_iff.mpr (by decide), rfl⟩

theorem holdsNothing_terminated (sql : String) :
    holdsNothing (terminated sql) = holdsNothing sql := by
  have semicolon : isFiller ';' = true := by decide
  simp [holdsNothing, semicolon]

theorem holdsNothing_of_blank {text : String} (blank : Text.isBlankText text) :
    holdsNothing text :=
  all_isFiller_of_blank blank

/-- A converted statement holds what its answer holds. -/
theorem holdsNothing_of_converted {t : Transpiler} {dialect statement text : String}
    (h : single t dialect statement = converted text) :
    ∃ answer, t.transpile (body statement) dialect Dialect.target = .ok answer ∧
      Text.isBlankText answer = false ∧ holdsNothing text = holdsNothing answer := by
  obtain ⟨-, answer, answered, visible, rfl⟩ := single_eq_converted_iff.mp h
  exact ⟨answer, answered, visible, by rw [holdsNothing_terminated, holdsNothing_body]⟩

/-- A statement that holds something is converted to a text that holds what the answer for it held.
Of the answers only the blank ones keep the statement as it was; those of semicolons hold nothing
either and are what it takes to convert a statement to nothing. -/
theorem converted_holds_what_is_answered (t : Transpiler) (dialect : String)
    (script : Script) {statement : String}
    (something : holdsNothing (body statement) = false) :
    ∃ result,
      (ofStatement statement dialect).run t script =
        ⟨result, [.transpile (body statement) dialect Dialect.target], script⟩ ∧
      (∀ text, result = converted text → ∃ answer,
        t.transpile (body statement) dialect Dialect.target = .ok answer ∧
          holdsNothing text = holdsNothing answer) ∧
      (∀ answer, t.transpile (body statement) dialect Dialect.target = .ok answer →
        (result = unconverted (terminated (body statement)) ↔ Text.isBlankText answer = true)) ∧
      ((∃ text, result = converted text ∧ holdsNothing text = true) ↔ ∃ answer,
        t.transpile (body statement) dialect Dialect.target = .ok answer ∧
          Text.isBlankText answer = false ∧ holdsNothing answer = true) := by
  have filled : Text.isBlankText (body statement) = false := by
    rw [Bool.eq_false_iff] at something ⊢
    exact fun blank => something (holdsNothing_of_blank blank)
  refine ⟨single t dialect statement, ?_, ?_, ?_, ?_, ?_⟩
  · rw [run_ofStatement, callFor?, if_neg (by simp [filled])]
    rfl
  · intro text h
    obtain ⟨answer, answered, -, same⟩ := holdsNothing_of_converted h
    exact ⟨answer, answered, same⟩
  · intro answer answered
    rw [single_eq_unconverted_iff filled, answered]
    rfl
  · rintro ⟨text, h, nothing⟩
    obtain ⟨answer, answered, visible, same⟩ := holdsNothing_of_converted h
    exact ⟨answer, answered, visible, same ▸ nothing⟩
  · rintro ⟨answer, answered, visible, nothing⟩
    refine ⟨_, single_eq_converted_iff.mpr ⟨filled, answer, answered, visible, rfl⟩, ?_⟩
    rw [holdsNothing_terminated, holdsNothing_body]
    exact nothing

/-- Answers a statement with one that holds nothing, and a query with blanks. -/
def evasive : Transpiler where
  parse := fun text dialect => .ok ⟨.other, text, dialect⟩
  transpile := fun text _ _ => .ok (if text = "select 1" then " \n" else " ; ;")

theorem converted_holds_what_is_answered_evasive :
    holdsNothing (body "select 1;") = false ∧
      ((ofStatement "select 1;" "tsql").run evasive (.of [])).value = unconverted "select 1;" := by
  have something : holdsNothing (body "select 1;") = false := by decide
  obtain ⟨result, run, -, kept, -⟩ :=
    converted_holds_what_is_answered evasive "tsql" (.of []) something
  rw [run]
  exact ⟨something, (kept " \n" rfl).mpr (by decide)⟩

/-- An answer of semicolons is not blank, so it converts a statement to nothing. -/
theorem semicolons_convert_to_nothing :
    holdsNothing (body "delete from t") = false ∧
      evasive.transpile "delete from t" "tsql" Dialect.target = .ok " ; ;" ∧
      holdsNothing " ; ;" = true ∧
      ((ofStatement "delete from t" "tsql").run evasive (.of [])).value = converted "; ;" ∧
      holdsNothing "; ;" = true := by
  refine ⟨by decide, rfl, by decide, ?_, by decide⟩
  rfl

end SqlConverter.StatementResult
