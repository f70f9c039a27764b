import SqlConverter.Proofs.Conversion.Strategy

namespace SqlConverter.Converter

variable {t : Transpiler} {config : Config} {sql dialect name : String} {unit : SqlUnit}
  {script : Script} {r : Report}

/-- What is not parsed fails in one way for all operations that begin with the parser. -/
theorem run_of_refused (refused : Refused t sql dialect) (config : Config)
    (script : Script) :
    ∃ detail calls,
      (classify sql dialect).run.run t script = ⟨.error (.invalidInput detail), calls, script⟩ ∧
      (transpile sql dialect).run.run t script = ⟨.error (.invalidInput detail), calls, script⟩ ∧
      (report config sql dialect).run.run t script =
        ⟨.error (.invalidInput detail), calls, script⟩ := by
  obtain ⟨detail, calls, failed⟩ := run_parse_of_refused refused
  refine ⟨detail, calls, ?_, ?_, ?_⟩
  · rw [classify, Request.run_bind_of_error _ (failed script)]
  · rw [transpile, Request.run_bind_of_error _ (failed script)]
  · rw [report, Request.run_bind_of_error _ (failed script)]

/-- Either way in, a refusal of the transpiler is the end. -/
theorem run_of_untranspiled {e : TranspileError} (config : Config) (script : Script)
    (accepted : Accepted sql dialect name)
    (parsed : t.parse (Text.trimmed sql) name = .ok unit)
    (standalone : unit.handling ≠ .procedure)
    (refused : t.transpile unit.text unit.dialect Dialect.target = .error e) :
    (transpile sql dialect).run.run t script =
      ⟨.error (.transpile e), [.parse (Text.trimmed sql) name,
        .transpile unit.text unit.dialect Dialect.target], script⟩ ∧
    (report config sql dialect).run.run t script =
      ⟨.error (.transpile e), [.parse (Text.trimmed sql) name,
        .transpile unit.text unit.dialect Dialect.target], script⟩ := by
  constructor
  · rw [run_transpile_of_parsed script accepted parsed, run_transpileUnit, refused]
    rfl
  · rw [run_report_of_parsed script accepted parsed, if_neg standalone,
      run_convertStandalone_of_error script refused]
    rfl

theorem run_of_transpiled {converted : String} (config : Config) (script : Script)
    (accepted : Accepted sql dialect name)
    (parsed : t.parse (Text.trimmed sql) name = .ok unit)
    (standalone : unit.handling ≠ .procedure)
    (transpiled : t.transpile unit.text unit.dialect Dialect.target = .ok converted) :
    (transpile sql dialect).run.run t script =
      ⟨.ok converted, [.parse (Text.trimmed sql) name,
        .transpile unit.text unit.dialect Dialect.target], script⟩ ∧
    (report config sql dialect).run.run t script =
      ⟨concluded .validation (fun text => ⟨unit.dialect, unit.handling, [], text⟩)
          (script.next),
        [.parse (Text.trimmed sql) name, .transpile unit.text unit.dialect Dialect.target,
          .complete (Prompt.validationMessages unit.handling converted)], script.tail⟩ := by
  constructor
  · rw [run_transpile_of_parsed script accepted parsed, run_transpileUnit, transpiled]
    rfl
  · rw [run_report_of_parsed script accepted parsed, if_neg standalone,
      run_convertStandalone_of_ok script transpiled]
    rfl

/-- A text that is not a procedure is refused for one cause alone and in a conversion; if it is not,
the assistant is asked about the text that the transpiler gives alone. -/
theorem standalone_agrees (config : Config) (script : Script)
    (accepted : Accepted sql dialect name)
    (parsed : t.parse (Text.trimmed sql) name = .ok unit)
    (standalone : unit.handling ≠ .procedure) :
    (∀ e, ((transpile sql dialect).run.run t script).value = .error e ↔
      ∃ cause, e = .transpile cause ∧
        ((report config sql dialect).run.run t script).value = .error e) ∧
    (∀ e, ((transpile sql dialect).run.run t script).value = .error e →
      ((report config sql dialect).run.run t script).calls =
          ((transpile sql dialect).run.run t script).calls ∧
        ((report config sql dialect).run.run t script).calls.countP Call.isComplete = 0) ∧
    ∀ text, ((transpile sql dialect).run.run t script).value = .ok text →
      ((report config sql dialect).run.run t script).calls.filter Call.isComplete =
        [.complete [⟨.system, Prompt.conversionSystem⟩,
          ⟨.user, Prompt.validation unit.handling text⟩]] := by
  cases answer : t.transpile unit.text unit.dialect Dialect.target with
  | error cause =>
    obtain ⟨alone, whole⟩ := run_of_untranspiled config script accepted parsed standalone answer
    rw [alone, whole]
    refine ⟨?_, ?_, ?_⟩
    · intro e
      constructor
      · intro h
        obtain rfl := Except.error.inj h
        exact ⟨cause, rfl, rfl⟩
      · rintro ⟨-, -, h⟩
        obtain rfl := Except.error.inj h
        rfl
    · intro e _
      exact ⟨rfl, rfl⟩
    · intro text h
      cases h
  | ok converted =>
    obtain ⟨alone, whole⟩ := run_of_transpiled config script accepted parsed standalone answer
    rw [alone, whole]
    refine ⟨?_, ?_, ?_⟩
    · intro e
      constructor
      · intro h
        cases h
      · rintro ⟨cause, rfl, h⟩
        dsimp only at h
        cases reply : script.next <;> rw [reply] at h <;> cases h
    · intro e h
      cases h
    · intro text h
      obtain rfl := Except.ok.inj h
      rfl

/-- All ways into a converter agree. What is blank, in an unknown dialect or not parsed fails in
one way; a report tells the class that the classification tells; a text that is not a procedure is
refused by the transpiler alone and in a conversion for the same cause, or else the assistant is
asked about its class and its transpiled text, and about nothing else; and the other ways in are
the conversion of the same text, under the dialect or the configuration that they stand for. -/
theorem entry_points_agree (config : Config) (t : Transpiler) (script : Script)
    (sql dialect : String) :
    (Refused t sql dialect → ∃ detail calls,
      (classify sql dialect).run.run t script = ⟨.error (.invalidInput detail), calls, script⟩ ∧
      (transpile sql dialect).run.run t script = ⟨.error (.invalidInput detail), calls, script⟩ ∧
      (report config sql dialect).run.run t script =
        ⟨.error (.invalidInput detail), calls, script⟩) ∧
    (∀ r, ((report config sql dialect).run.run t script).value = .ok r →
      ((classify sql dialect).run.run t script).value = .ok r.handling) ∧
    (∀ c, ((classify sql dialect).run.run t script).value = .ok c → c ≠ .procedure →
      (∀ e, ((transpile sql dialect).run.run t script).value = .error e ↔
        ∃ cause, e = .transpile cause ∧
          ((report config sql dialect).run.run t script).value = .error e) ∧
      (∀ e, ((transpile sql dialect).run.run t script).value = .error e →
        ((report config sql dialect).run.run t script).calls =
            ((transpile sql dialect).run.run t script).calls ∧
          ((report config sql dialect).run.run t script).calls.countP Call.isComplete = 0) ∧
      ∀ text, ((transpile sql dialect).run.run t script).value = .ok text →
        ((report config sql dialect).run.run t script).calls.filter Call.isComplete =
          [.complete [⟨.system, Prompt.conversionSystem⟩, ⟨.user, Prompt.validation c text⟩]]) ∧
    (convert config sql dialect).run.run t script =
      ⟨((report config sql dialect).run.run t script).value.map Report.output,
        ((report config sql dialect).run.run t script).calls,
        ((report config sql dialect).run.run t script).unread⟩ ∧
    convertToTarget config sql = convert config sql config.sourceDialect ∧
    SqlConverter.convertToTarget sql (some dialect) = convert Config.default sql dialect ∧
    SqlConverter.convertToTarget sql none = convertToTarget Config.default sql := by
  refine ⟨?_, ?_, ?_, ?_, rfl, rfl, rfl⟩
  · intro refused
    exact run_of_refused refused config script
  · intro r succeeds
    obtain ⟨name, unit, accepted, parsed⟩ := parsed_of_succeeds succeeds
    rw [run_classify_of_parsed script accepted parsed, eq_of_succeeds accepted parsed succeeds]
  · intro c classified standalone
    obtain ⟨name, unit, accepted, parsed⟩ := parsed_of_succeeds classified
    rw [run_classify_of_parsed script accepted parsed] at classified
    obtain rfl := Except.ok.inj classified
    exact standalone_agrees config script accepted parsed standalone
  · rw [convert_eq_map, Request.run_map]

theorem entry_points_agree_samples :
    (∃ detail calls,
      (classify "SELECT 1" "latin").run.run .byHeader (.of []) =
        ⟨.error (.invalidInput detail), calls, .of []⟩ ∧
      (transpile "SELECT 1" "latin").run.run .byHeader (.of []) =
        ⟨.error (.invalidInput detail), calls, .of []⟩ ∧
      (report Config.default "SELECT 1" "latin").run.run .byHeader (.of []) =
        ⟨.error (.invalidInput detail), calls, .of []⟩) ∧
    ((classify "create proc p" "mssql").run.run .byHeader (.of [.ok "bad;", .ok "done"])).value =
      .ok .procedure ∧
    ((report Config.default "bad" "tsql").run.run .byHeader (.of [])).value =
      .error (.transpile .empty) ∧
    ((report Config.default " SELECT 1 " "pg").run.run .byHeader (.of [])).calls.filter
        Call.isComplete =
      [.complete [⟨.system, Prompt.conversionSystem⟩,
        ⟨.user, Prompt.validation .generic "SELECT 1"⟩]] := by
  have assembled : ((report Config.default "create proc p" "mssql").run.run .byHeader
      (.of [.ok "bad;", .ok "done"])).value =
        .ok ⟨"tsql", .procedure, [⟨"bad;", .unconverted "bad;"⟩], "done"⟩ := by rfl
  obtain ⟨refused, -⟩ := entry_points_agree Config.default .byHeader (.of []) "SELECT 1" "latin"
  obtain ⟨-, handling, -⟩ :=
    entry_points_agree Config.default .byHeader (.of [.ok "bad;", .ok "done"]) "create proc p" "mssql"
  obtain ⟨-, -, bad, -⟩ := entry_points_agree Config.default .byHeader (.of []) "bad" "tsql"
  obtain ⟨-, -, query, -⟩ := entry_points_agree Config.default .byHeader (.of []) " SELECT 1 " "pg"
  obtain ⟨causes, -, -⟩ := bad .generic rfl (by decide)
  obtain ⟨cause, -, fails⟩ := (causes (.transpile .empty)).mp rfl
  obtain ⟨-, -, asked⟩ := query .generic rfl (by decide)
  exact ⟨refused (.inr (.inl (by decide))), handling _ assembled, fails, asked _ rfl⟩

end SqlConverter.Converter
