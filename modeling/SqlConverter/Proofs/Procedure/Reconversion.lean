import SqlConverter.Proofs.Procedure.Lines
import SqlConverter.Proofs.Statement.NormalForm

namespace SqlConverter.StatementResult

open Procedure (statementLines StatementLine fence)

variable {t : Transpiler} {dialect statement text : String}

/-- A transpiler that answers its own answers with themselves, their terminators aside. -/
def StandsByAnswers (t : Transpiler) (dialect : String) : Prop :=
  ∀ sql answer, t.transpile sql dialect Dialect.target = .ok answer →
    t.transpile (body answer) dialect Dialect.target = .ok answer

/-- Only the body of a statement matters. -/
theorem single_congr {other : String} (t : Transpiler) (dialect : String)
    (same : body other = body statement) :
    single t dialect other = single t dialect statement := by
  have whole : ofStatement other dialect = ofStatement statement dialect := by
    rw [ofStatement, ofStatement, same]
  rw [single, single, whole]

theorem single_terminated_body (t : Transpiler) (dialect statement : String) :
    single t dialect (terminated (body statement)) = single t dialect statement :=
  single_congr t dialect (body_terminated_body statement)

/-- A statement that is not converted keeps its body, also if it has none. -/
theorem single_of_kept (kept : (single t dialect statement).isConverted = false) :
    single t dialect statement = unconverted (terminated (body statement)) := by
  cases blank : Text.isBlankText (body statement) with
  | true =>
    rw [single_of_blank t dialect blank, body_eq_empty blank]
    rfl
  | false =>
    rw [single_eq_unconverted_iff blank]
    simpa [isConverted_single, blank] using kept

theorem single_of_unconverted (h : single t dialect statement = unconverted text) :
    single t dialect text = unconverted text := by
  have kept : (single t dialect statement).isConverted = false := by
    rw [h]
    rfl
  have same : text = terminated (body statement) :=
    unconverted.inj (h.symm.trans (single_of_kept kept))
  rw [same, single_terminated_body]
  exact single_of_kept kept

theorem text_single_of_converted (stands : StandsByAnswers t dialect)
    (h : single t dialect statement = converted text) : (single t dialect text).text = text := by
  obtain ⟨-, answer, answered, visible, rfl⟩ := single_eq_converted_iff.mp h
  rw [single_terminated_body]
  cases blank : Text.isBlankText (body answer) with
  | true =>
    rw [single_of_blank t dialect blank, body_eq_empty blank]
    rfl
  | false =>
    have again := single_eq_converted_iff.mpr
      ⟨blank, answer, stands _ _ answered, visible, rfl⟩
    rw [again]
    rfl

theorem statementLine_of_kept (h : StatementLine statement) :
    StatementLine (terminated (body statement)) := by
  obtain ⟨-, tight, unbroken, unfenced⟩ := h
  have start : (body statement).toList <+: statement.toList := by
    rw [toList_body, Text.trim_eq_self tight]
    exact List.rdropWhile_prefix isSemicolon _
  refine ⟨terminated_ne_nil _, tight_terminated_body statement, ?_, ?_⟩
  · rw [toList_terminated]
    intro broken
    rcases List.mem_append.mp broken with inside | behind
    · exact unbroken (start.subset inside)
    · exact absurd behind (by decide)
  · rw [toList_terminated]
    intro fenced
    rcases List.prefix_concat_iff.mp fenced with whole | inside
    · have last := congrArg List.getLast? whole
      simp [fence] at last
    · exact unfenced (inside.trans start)

/-- A reply whose statements are all left as they were. -/
def AllKept (t : Transpiler) (dialect reply : String) : Prop :=
  ∀ statement ∈ statementLines reply,
    keepsOriginal (t.transpile (body statement) dialect Dialect.target)

theorem AllKept.single_eq {reply : String} (kept : AllKept t dialect reply)
    (among : statement ∈ statementLines reply) :
    single t dialect statement = unconverted (terminated (body statement)) := by
  apply single_of_kept
  rw [isConverted_single, kept statement among, Bool.or_true]
  rfl

theorem AllKept.texts_eq {reply : String} (kept : AllKept t dialect reply) :
    ((statementLines reply).map (single t dialect)).map StatementResult.text =
      (statementLines reply).map fun statement => terminated (body statement) := by
  rw [List.map_map]
  apply List.map_congr_left
  intro statement among
  rw [Function.comp_apply, kept.single_eq among]
  rfl

/-- Conversion leaves its results alone. A statement left as it was is left as it is; one that was
converted keeps its text, if the transpiler stands by its answers. Where all statements of a reply
were left as they were, the lines of the joined results are the texts of the results, one for each
statement, and to convert them again gives the same results. -/
theorem reconversion_is_stable (t : Transpiler) (dialect : String) (script : Script) :
    (∀ statement text,
      ((ofStatement statement dialect).run t script).value = unconverted text →
        ((ofStatement text dialect).run t script).value = unconverted text) ∧
    (StandsByAnswers t dialect → ∀ statement text,
      ((ofStatement statement dialect).run t script).value = converted text →
        ((ofStatement text dialect).run t script).value.text = text) ∧
    ∀ reply, AllKept t dialect reply → ∃ results,
      ((ofBatch dialect (statementLines reply)).run t script).value = results ∧
      results.length = (statementLines reply).length ∧
      statementLines (joined results) = results.map StatementResult.text ∧
      ((ofBatch dialect (results.map StatementResult.text)).run t script).value = results := by
  refine ⟨?_, ?_, ?_⟩
  · intro statement text h
    rw [value_ofStatement] at h ⊢
    exact single_of_unconverted h
  · intro stands statement text h
    rw [value_ofStatement] at h ⊢
    exact text_single_of_converted stands h
  · intro reply kept
    refine ⟨(statementLines reply).map (single t dialect), value_ofBatch .., List.length_map _,
      ?_, ?_⟩
    · rw [joined, kept.texts_eq]
      apply Procedure.statementLines_intercalate
      intro text among
      obtain ⟨statement, line, rfl⟩ := List.mem_map.mp among
      exact statementLine_of_kept (Procedure.statementLine_of_mem line)
    · rw [value_ofBatch, kept.texts_eq, List.map_map]
      apply List.map_congr_left
      intro statement _
      rw [Function.comp_apply, single_terminated_body]

/-- Knows one statement, in the spelling of its answer too. -/
def knowing : Transpiler where
  parse := fun text dialect => .ok ⟨.other, text, dialect⟩
  transpile := fun text _ _ =>
    if text = "select 1" ∨ text = "SELECT 1 " then .ok "SELECT 1 ;" else .error .empty

theorem knowing_standsByAnswers : StandsByAnswers knowing "tsql" := by
  intro sql answer answered
  have known : answer = "SELECT 1 ;" := by
    simp only [knowing] at answered
    split at answered
    · cases answered
      rfl
    · cases answered
  subst known
  decide

/-- A converted statement, and a reply with a fence, a gap between semicolons and backquotes. -/
theorem reconversion_is_stable_samples :
    (StandsByAnswers knowing "tsql" ∧
      ((ofStatement "select 1" "tsql").run knowing (.of [])).value = converted "SELECT 1 ;" ∧
      ((ofStatement "SELECT 1 ;" "tsql").run knowing (.of [])).value.text = "SELECT 1 ;") ∧
    AllKept knowing "tsql" "```\n bad ;;\n; ;\n``;\n```" ∧
    statementLines (joined [unconverted "bad ;", unconverted "; ;", unconverted "``;"]) =
      ["bad ;", "; ;", "``;"] := by
  obtain ⟨-, converts, keeps⟩ := reconversion_is_stable knowing "tsql" (.of [])
  have first : ((ofStatement "select 1" "tsql").run knowing (.of [])).value =
      converted "SELECT 1 ;" := by rfl
  have kept : AllKept knowing "tsql" "```\n bad ;;\n; ;\n``;\n```" := by
    have read : statementLines "```\n bad ;;\n; ;\n``;\n```" = ["bad ;;", "; ;", "``;"] := by rfl
    rw [AllKept, read]
    decide
  obtain ⟨results, run, -, lines, -⟩ := keeps _ kept
  have same : results = [unconverted "bad ;", unconverted "; ;", unconverted "``;"] := by
    rw [← run]
    rfl
  subst same
  have again := converts knowing_standsByAnswers _ _ first
  exact ⟨⟨knowing_standsByAnswers, first, again⟩, kept, lines⟩

end SqlConverter.StatementResult
