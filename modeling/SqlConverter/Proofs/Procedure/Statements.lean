import SqlConverter.Proofs.Conversion.Run
import SqlConverter.Proofs.Procedure.Lines

namespace SqlConverter.Procedure

open StatementResult (single joined keepsOriginal)

variable {t : Transpiler} {config : Config} {sql dialect name : String} {unit : SqlUnit}

/-- The entries of a report, one for each statement. -/
def entries (t : Transpiler) (dialect : String) (batch : List String) : List ConvertedStatement :=
  batch.map fun statement => ⟨statement, single t dialect statement⟩

theorem zipWith_map_single (t : Transpiler) (dialect : String) (batch : List String) :
    List.zipWith ConvertedStatement.mk batch (batch.map (single t dialect)) =
      entries t dialect batch := by
  rw [List.zipWith_map_right, List.zipWith_self]
  rfl

theorem joined_entries (t : Transpiler) (dialect : String) (batch : List String) :
    "\n".intercalate ((entries t dialect batch).map fun s => s.result.text) =
      joined (batch.map (single t dialect)) := by
  simp [entries, joined, Function.comp_def]

theorem unconverted_entries (t : Transpiler) (dialect : String) (batch : List String) :
    (entries t dialect batch).filter (fun s => !s.result.isConverted) =
      (entries t dialect batch).filter fun s =>
        Text.isBlankText (StatementResult.body s.statement) ||
          keepsOriginal
            (t.transpile (StatementResult.body s.statement) dialect Dialect.target) := by
  apply List.filter_congr
  intro s hs
  obtain ⟨statement, -, rfl⟩ := List.mem_map.mp hs
  rw [StatementResult.isConverted_single, Bool.not_not]

theorem frame_joined_single (t : Transpiler) (dialect : String) (batch : List String) :
    frame (joined (batch.map (single t dialect))) =
      "DELIMITER //\n" ++ joined (batch.map (single t dialect)) ++ "\n//\nDELIMITER ;" := by
  rw [frame, StatementResult.trimmed_joined_single]
  rfl

/-- The run of a procedure whose extraction succeeded ends as its last stage does; what leads there
is the same under all configurations. -/
theorem run_report_of_extracted {script : Script} {reply : String}
    (accepted : Converter.Accepted sql dialect name)
    (parsed : t.parse (Text.trimmed sql) name = .ok unit)
    (procedure : unit.handling = .procedure) (extracted : script.next = .ok reply) :
    ∃ before, ∀ config : Config,
      (Converter.report config sql dialect).run.run t script =
        ((Converter.assembly config.reassembly unit (statementLines reply)
          ((statementLines reply).map (single t unit.dialect))).run t script.tail).after
            before := by
  refine ⟨.parse (Text.trimmed sql) name :: .complete (Prompt.extractionMessages unit.text) ::
    (statementLines reply).filterMap (StatementResult.callFor? unit.dialect), fun config => ?_⟩
  rw [Converter.run_report_of_parsed script accepted parsed, if_pos procedure,
    Converter.run_convertProcedure_of_ok config.reassembly unit extracted]
  rfl

theorem extracted_of_succeeds {script : Script} {r : Report}
    (accepted : Converter.Accepted sql dialect name)
    (parsed : t.parse (Text.trimmed sql) name = .ok unit)
    (procedure : unit.handling = .procedure)
    (succeeds : ((Converter.report config sql dialect).run.run t script).value = .ok r) :
    ∃ reply, script.next = .ok reply := by
  cases extracted : script.next with
  | ok reply => exact ⟨reply, rfl⟩
  | error e =>
    rw [Converter.run_report_of_parsed script accepted parsed, if_pos procedure,
      Converter.run_convertProcedure_of_error config.reassembly unit extracted] at succeeds
    cases succeeds

theorem eq_procedureReport_of_assembly {strategy : Strategy} {batch : List String}
    {results : List StatementResult} {script : Script} {r : Report}
    (h : ((Converter.assembly strategy unit batch results).run t script).value = .ok r) :
    r = Converter.procedureReport unit batch results r.output := by
  cases strategy with
  | delimited =>
    cases h
    rfl
  | assistant =>
    rw [Converter.assembly, Dialogue.run_ask] at h
    cases reply : script.next with
    | error e => simp [Dialogue.answer, reply, Converter.concluded, Dialogue.Run.after] at h
    | ok text =>
      simp only [Dialogue.answer, reply, Converter.concluded, Dialogue.Run.after,
        Dialogue.run_done, Except.ok.injEq] at h
      subst h
      rfl

/-- No statement of a procedure is lost, doubled or moved. The report has an entry for each line of
the reply that is neither empty nor a fence, with what the line gets by itself; the texts of the
entries, one to a line, are what the assistant is given to build around, behind the procedure, or
all that stands in the frame; and the entries left as they were are those that the transpiler
refused or answered with nothing, or that have no body. -/
theorem report_keeps_statements {script : Script} {r : Report}
    (accepted : Converter.Accepted sql dialect name)
    (parsed : t.parse (Text.trimmed sql) name = .ok unit)
    (procedure : unit.handling = .procedure)
    (succeeds : ((Converter.report config sql dialect).run.run t script).value = .ok r) :
    ∃ reply, script.next = .ok reply ∧
      (r.statements =
        ((((reply.toList.splitOn '\n').map Text.trim).filter fun line =>
          line ≠ [] ∧ ¬ fence <+: line).map String.ofList).map fun line =>
            ⟨line, ((StatementResult.ofStatement line unit.dialect).run t (.of [])).value⟩) ∧
      (config.reassembly = .assistant →
        ((Converter.report config sql dialect).run.run t script).calls.getLast? =
          some (.complete [⟨.system, Prompt.conversionSystem⟩,
            ⟨.user, Prompt.reassemblyOpening ++ unit.text ++ "\n\nOUTPUT_PROCEDURE:\n" ++
              ("\nUse these SingleStore statements for the procedure body, " ++
                "unchanged and in this order:\n") ++
              "\n".intercalate (r.statements.map fun s => s.result.text) ++ "\n"⟩])) ∧
      (config.reassembly = .delimited →
        r.output = "DELIMITER //\n" ++
          "\n".intercalate (r.statements.map fun s => s.result.text) ++
            "\n//\nDELIMITER ;") ∧
      r.unconverted = r.statements.filter fun s =>
        Text.isBlankText (StatementResult.body s.statement) ||
          match t.transpile (StatementResult.body s.statement) unit.dialect Dialect.target with
          | .ok answer => Text.isBlankText answer
          | .error _ => true := by
  obtain ⟨reply, extracted⟩ := extracted_of_succeeds accepted parsed procedure succeeds
  obtain ⟨before, run⟩ := run_report_of_extracted accepted parsed procedure extracted
  rw [run config] at succeeds ⊢
  have report := eq_procedureReport_of_assembly succeeds
  have statements : r.statements = entries t unit.dialect (statementLines reply) := by
    rw [report]
    exact zipWith_map_single t unit.dialect (statementLines reply)
  refine ⟨reply, extracted, ?_, ?_, ?_, ?_⟩
  · rw [statements, ← statementLines_eq]
    rfl
  · intro assistant
    rw [statements, joined_entries, assistant]
    exact List.getLast?_concat
  · intro delimited
    rw [delimited] at succeeds
    cases succeeds
    rw [statements, joined_entries]
    exact frame_joined_single t unit.dialect (statementLines reply)
  · rw [Report.unconverted, statements]
    exact unconverted_entries t unit.dialect (statementLines reply)

/-- A transpiler that takes every text for a procedure and refuses one statement. -/
def refusingOne : Transpiler where
  parse := fun text dialect => .ok ⟨.create "procedure", text, dialect⟩
  transpile := fun text _ _ => if text = "bad" then .error .empty else .ok text

/-- A reply with a fence, a blank line, a lone semicolon and a statement that is refused, to be
framed; and one with that statement alone, to be put together by the assistant. -/
theorem report_keeps_statements_refused :
    ((Converter.report { reassembly := .delimited } "create procedure p" "mssql").run.run
      refusingOne (.of [.ok "```sql\r\nselect 1\r\n\n ; \nbad;\n```"])).value =
        .ok ⟨"tsql", .procedure, [⟨"select 1", .converted "select 1;"⟩,
          ⟨";", .unconverted ";"⟩, ⟨"bad;", .unconverted "bad;"⟩],
          "DELIMITER //\nselect 1;\n;\nbad;\n//\nDELIMITER ;"⟩ ∧
    "DELIMITER //\nselect 1;\n;\nbad;\n//\nDELIMITER ;" =
      "DELIMITER //\n" ++ "\n".intercalate ["select 1;", ";", "bad;"] ++
        "\n//\nDELIMITER ;" ∧
    ((Converter.report Config.default "create procedure p" "mssql").run.run refusingOne
      (.of [.ok "bad;", .ok "done"])).calls.getLast? =
        some (.complete [⟨.system, Prompt.conversionSystem⟩,
          ⟨.user, Prompt.reassemblyOpening ++ Text.trimmed "create procedure p" ++
            "\n\nOUTPUT_PROCEDURE:\n" ++
            ("\nUse these SingleStore statements for the procedure body, " ++
              "unchanged and in this order:\n") ++
            "\n".intercalate ["bad;"] ++ "\n"⟩]) := by
  have accepted : Converter.Accepted "create procedure p" "mssql" "tsql" := by
    constructor <;> decide
  have parsed : refusingOne.parse (Text.trimmed "create procedure p") "tsql" =
      .ok ⟨.create "procedure", Text.trimmed "create procedure p", "tsql"⟩ := rfl
  have procedure : (⟨.create "procedure", Text.trimmed "create procedure p", "tsql"⟩ :
      SqlUnit).handling = .procedure := by decide
  have framed : ((Converter.report { reassembly := .delimited } "create procedure p"
      "mssql").run.run refusingOne (.of [.ok "```sql\r\nselect 1\r\n\n ; \nbad;\n```"])).value =
        .ok ⟨"tsql", .procedure, [⟨"select 1", .converted "select 1;"⟩,
          ⟨";", .unconverted ";"⟩, ⟨"bad;", .unconverted "bad;"⟩],
          "DELIMITER //\nselect 1;\n;\nbad;\n//\nDELIMITER ;"⟩ := by rfl
  have assembled : ((Converter.report Config.default "create procedure p" "mssql").run.run
      refusingOne (.of [.ok "bad;", .ok "done"])).value =
        .ok ⟨"tsql", .procedure, [⟨"bad;", .unconverted "bad;"⟩], "done"⟩ := by rfl
  obtain ⟨-, -, -, -, delimited, -⟩ := report_keeps_statements accepted parsed procedure framed
  obtain ⟨-, -, -, assistant, -⟩ := report_keeps_statements accepted parsed procedure assembled
  exact ⟨framed, delimited rfl, assistant rfl⟩

end SqlConverter.Procedure
