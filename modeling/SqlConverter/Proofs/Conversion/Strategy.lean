import SqlConverter.Proofs.Procedure.Statements

namespace SqlConverter.Converter

variable {t : Transpiler} {config config' : Config} {sql dialect name : String} {unit : SqlUnit}
  {script script' : Script} {r r' : Report}

theorem report_congr (same : config.reassembly = config'.reassembly) (sql dialect : String) :
    report config sql dialect = report config' sql dialect := by
  rw [report, report, same]

/-- The statements that a first reply finds in a unit. -/
def statementsFound (t : Transpiler) (unit : SqlUnit) : Chat.Reply → List ConvertedStatement
  | .ok reply =>
    if unit.handling = .procedure then
      Procedure.entries t unit.dialect (Procedure.statementLines reply)
    else []
  | .error _ => []

theorem eq_of_concluded {failure : ServiceError → ConvertError} {conclude : String → Report}
    {reply : Chat.Reply} (h : concluded failure conclude reply = .ok r) :
    ∃ text text', reply = .ok text ∧ r = conclude text' := by
  cases reply with
  | error e => cases h
  | ok text => exact ⟨text, Text.trimmed text, rfl, (Except.ok.inj h).symm⟩

/-- All of a report but its output, from the unit and the first reply. -/
theorem eq_of_succeeds (accepted : Accepted sql dialect name)
    (parsed : t.parse (Text.trimmed sql) name = .ok unit)
    (succeeds : ((report config sql dialect).run.run t script).value = .ok r) :
    r = ⟨unit.dialect, unit.handling, statementsFound t unit (script.next), r.output⟩ := by
  by_cases procedure : unit.handling = .procedure
  · obtain ⟨reply, extracted⟩ :=
      Procedure.extracted_of_succeeds accepted parsed procedure succeeds
    obtain ⟨before, run⟩ :=
      Procedure.run_report_of_extracted accepted parsed procedure extracted
    -- Whichever strategy ends the run, it adds the output only.
    rw [run config] at succeeds
    have assembled := Procedure.eq_procedureReport_of_assembly succeeds
    rw [procedureReport, Procedure.zipWith_map_single] at assembled
    rw [extracted, statementsFound, if_pos procedure, procedure]
    exact assembled
  · rw [run_report_of_parsed script accepted parsed, if_neg procedure] at succeeds
    cases answer : t.transpile unit.text unit.dialect Dialect.target with
    | error e =>
      rw [run_convertStandalone_of_error script answer] at succeeds
      cases succeeds
    | ok converted =>
      rw [run_convertStandalone_of_ok script answer] at succeeds
      obtain ⟨text, output, first, rfl⟩ := eq_of_concluded succeeds
      rw [first, statementsFound, if_neg procedure]

theorem reports_agree (first : script'.next = script.next)
    (succeeds : ((report config sql dialect).run.run t script).value = .ok r)
    (succeeds' : ((report config' sql dialect).run.run t script').value = .ok r') :
    r'.sourceDialect = r.sourceDialect ∧ r'.handling = r.handling ∧
      r'.statements = r.statements := by
  obtain ⟨name, unit, accepted, parsed⟩ := parsed_of_succeeds succeeds
  rw [eq_of_succeeds accepted parsed succeeds, eq_of_succeeds accepted parsed succeeds', first]
  exact ⟨rfl, rfl, rfl⟩

theorem run_report_of_standalone (config config' : Config)
    (standalone : ((classify sql dialect).run.run t script).value ≠ .ok .procedure) :
    (report config sql dialect).run.run t script =
      (report config' sql dialect).run.run t script := by
  rcases refused_or_parsed t sql dialect with refused | ⟨name, unit, accepted, parsed⟩
  · obtain ⟨detail, calls, failed⟩ := run_parse_of_refused refused
    rw [report, report, Request.run_bind_of_error _ (failed script),
      Request.run_bind_of_error _ (failed script)]
  · rw [run_classify_of_parsed script accepted parsed] at standalone
    have other : unit.handling ≠ .procedure := fun h => standalone (congrArg Except.ok h)
    rw [run_report_of_parsed script accepted parsed, run_report_of_parsed script accepted parsed,
      if_neg other, if_neg other]

theorem run_report_of_unextracted {e : ServiceError} (config : Config)
    (accepted : Accepted sql dialect name)
    (parsed : t.parse (Text.trimmed sql) name = .ok unit)
    (procedure : unit.handling = .procedure) (failed : script.next = .error e) :
    (report config sql dialect).run.run t script =
      ⟨.error (.extraction e), [.parse (Text.trimmed sql) name,
        .complete (Prompt.extractionMessages unit.text)], script.tail⟩ := by
  rw [run_report_of_parsed script accepted parsed, if_pos procedure,
    run_convertProcedure_of_error config.reassembly unit failed]
  rfl

/-- The assistant is asked once more than under the other strategy, at the end, to put together
what is framed there. -/
theorem last_step_of_extracted {reply : String} (assistant : config.reassembly = .assistant)
    (delimited : config'.reassembly = .delimited) (accepted : Accepted sql dialect name)
    (parsed : t.parse (Text.trimmed sql) name = .ok unit)
    (procedure : unit.handling = .procedure) (extracted : script.next = .ok reply) :
    ∃ r, ((report config' sql dialect).run.run t script).value = .ok r ∧
      ((report config sql dialect).run.run t script).value =
        concluded .reassembly (fun output => { r with output := output })
          (script.tail.next) ∧
      ((report config sql dialect).run.run t script).calls =
        ((report config' sql dialect).run.run t script).calls ++
          [.complete (Prompt.reassemblyMessages unit.text
            ("\n".intercalate (r.statements.map fun s => s.result.text)))] := by
  obtain ⟨before, run⟩ := Procedure.run_report_of_extracted accepted parsed procedure extracted
  rw [run config, run config', assistant, delimited]
  refine ⟨_, rfl, rfl, ?_⟩
  rw [procedureReport, Procedure.zipWith_map_single, Procedure.joined_entries]
  simp [assembly, Dialogue.run_ask, Dialogue.Run.after]

/-- The strategy is all that a conversion reads of its configuration, and tells its last step only.
Under one strategy all configurations convert alike. A text that is not a procedure is converted
alike under both, and so is a procedure whose extraction failed. Behind an extraction the frame
cannot fail, and the assistant is asked one thing more. Reports on one text agree in all but their
output if their first replies are the same. -/
theorem report_depends_on_strategy_only (t : Transpiler) (script : Script)
    (sql dialect : String) (config config' : Config) :
    (config.reassembly = config'.reassembly →
      (report config sql dialect).run.run t script =
        (report config' sql dialect).run.run t script) ∧
    (config.reassembly = .assistant → config'.reassembly = .delimited →
      (((classify sql dialect).run.run t script).value ≠ .ok .procedure →
        (report config sql dialect).run.run t script =
          (report config' sql dialect).run.run t script) ∧
      (((classify sql dialect).run.run t script).value = .ok .procedure →
        (∀ e, script.next = .error e →
          (report config sql dialect).run.run t script =
              (report config' sql dialect).run.run t script ∧
            ((report config sql dialect).run.run t script).value = .error (.extraction e)) ∧
        ∀ reply, script.next = .ok reply → ∃ r procedure,
          ((report config' sql dialect).run.run t script).value = .ok r ∧
          ((report config sql dialect).run.run t script).value =
            concluded .reassembly (fun output => { r with output := output })
              (script.tail.next) ∧
          ((report config sql dialect).run.run t script).calls =
            ((report config' sql dialect).run.run t script).calls ++
              [.complete (Prompt.reassemblyMessages procedure
                ("\n".intercalate (r.statements.map fun s => s.result.text)))])) ∧
    ∀ script' r r', script'.next = script.next →
      ((report config sql dialect).run.run t script).value = .ok r →
      ((report config' sql dialect).run.run t script').value = .ok r' →
      r'.sourceDialect = r.sourceDialect ∧ r'.handling = r.handling ∧
        r'.statements = r.statements := by
  refine ⟨?_, ?_, ?_⟩
  · intro same
    rw [report_congr same]
  · intro assistant delimited
    refine ⟨run_report_of_standalone config config', ?_⟩
    intro classified
    obtain ⟨name, unit, accepted, parsed⟩ := parsed_of_succeeds classified
    rw [run_classify_of_parsed script accepted parsed] at classified
    have procedure : unit.handling = .procedure := Except.ok.inj classified
    constructor
    · intro e failed
      rw [run_report_of_unextracted config accepted parsed procedure failed,
        run_report_of_unextracted config' accepted parsed procedure failed]
      exact ⟨rfl, rfl⟩
    · intro reply extracted
      obtain ⟨r, last⟩ :=
        last_step_of_extracted assistant delimited accepted parsed procedure extracted
      exact ⟨r, unit.text, last⟩
  · intro script' r r' first succeeds succeeds'
    exact reports_agree first succeeds succeeds'

/-- The statement is refused and kept under both strategies; the reassembly then times out. -/
theorem report_depends_on_strategy_only_refused :
    (report Config.default "create proc p" "tsql").run.run .byHeader (.of [.ok "bad;"]) =
      (report { model := "mistral", sourceDialect := "mysql" } "create proc p" "tsql").run.run
        .byHeader (.of [.ok "bad;"]) ∧
    (report Config.default "SELECT 1" "tsql").run.run .byHeader (.of [.ok "done"]) =
      (report { reassembly := .delimited } "SELECT 1" "tsql").run.run .byHeader (.of [.ok "done"]) ∧
    (∃ r procedure,
      ((report { reassembly := .delimited } "create proc p" "tsql").run.run .byHeader
        (.of [.ok "bad;", .error (.timeout 60)])).value = .ok r ∧
      ((report Config.default "create proc p" "tsql").run.run .byHeader
        (.of [.ok "bad;", .error (.timeout 60)])).value = .error (.reassembly (.timeout 60)) ∧
      ((report Config.default "create proc p" "tsql").run.run .byHeader
        (.of [.ok "bad;", .error (.timeout 60)])).calls =
        ((report { reassembly := .delimited } "create proc p" "tsql").run.run .byHeader
          (.of [.ok "bad;", .error (.timeout 60)])).calls ++
          [.complete (Prompt.reassemblyMessages procedure
            ("\n".intercalate (r.statements.map fun s => s.result.text)))]) ∧
    ((report Config.default "create proc p" "tsql").run.run .byHeader
        (.of [.ok "bad;", .ok "done"])).value.map Report.statements =
      ((report Config.default "create proc p" "tsql").run.run .byHeader
        (.of [.ok "bad;", .ok "new"])).value.map Report.statements := by
  have first : ((report Config.default "create proc p" "tsql").run.run .byHeader
      (.of [.ok "bad;", .ok "done"])).value =
        .ok ⟨"tsql", .procedure, [⟨"bad;", .unconverted "bad;"⟩], "done"⟩ := by rfl
  have second : ((report Config.default "create proc p" "tsql").run.run .byHeader
      (.of [.ok "bad;", .ok "new"])).value =
        .ok ⟨"tsql", .procedure, [⟨"bad;", .unconverted "bad;"⟩], "new"⟩ := by rfl
  have query : ((classify "SELECT 1" "tsql").run.run .byHeader (.of [.ok "done"])).value =
      .ok .generic := by rfl
  obtain ⟨alike, -⟩ := report_depends_on_strategy_only .byHeader (.of [.ok "bad;"]) "create proc p"
    "tsql" Config.default { model := "mistral", sourceDialect := "mysql" }
  obtain ⟨-, standalone, -⟩ := report_depends_on_strategy_only .byHeader (.of [.ok "done"]) "SELECT 1"
    "tsql" Config.default { reassembly := .delimited }
  obtain ⟨-, procedure, -⟩ := report_depends_on_strategy_only .byHeader
    (.of [.ok "bad;", .error (.timeout 60)]) "create proc p" "tsql" Config.default
    { reassembly := .delimited }
  obtain ⟨-, -, agree⟩ := report_depends_on_strategy_only .byHeader (.of [.ok "bad;", .ok "done"])
    "create proc p" "tsql" Config.default Config.default
  obtain ⟨-, last⟩ := (procedure rfl rfl).2 rfl
  refine ⟨alike rfl, (standalone rfl rfl).1 ?_, last "bad;" rfl, ?_⟩
  · rw [query]
    decide
  · rw [first, second]
    exact congrArg Except.ok (agree (.of [.ok "bad;", .ok "new"]) _ _ rfl first second).2.2.symm

end SqlConverter.Converter
