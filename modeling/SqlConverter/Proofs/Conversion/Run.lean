import SqlConverter.Proofs.Conversion.Stages
import SqlConverter.Proofs.Statement.Single

namespace SqlConverter

open Dialogue (Run)

variable {α β : Type} {t : Transpiler}

/-- A run with calls before its own. -/
def Dialogue.Run.after (first : List Call) (r : Run α) : Run α := { r with calls := first ++ r.calls }

theorem Dialogue.Run.after_after (first second : List Call) (r : Run α) :
    (r.after second).after first = r.after (first ++ second) := by
  simp [Run.after, List.append_assoc]

@[simp] theorem Dialogue.run_done (a : α) (script : Script) :
    (Dialogue.done a).run t script = ⟨a, [], script⟩ := rfl

theorem Dialogue.run_ask (call : Call) (next : call.Answer → Dialogue α)
    (script : Script) :
    (Dialogue.ask call next).run t script =
      ((next (answer t script call).1).run t (answer t script call).2).after [call] := rfl

namespace Request

variable {x : Request α} {calls : List Call} {script rest : Script}

theorem run_map (f : α → β) (x : Request α) (script : Script) :
    (f <$> x).run.run t script =
      ⟨(x.run.run t script).value.map f, (x.run.run t script).calls,
        (x.run.run t script).unread⟩ := by
  rw [ExceptT.run_map, Dialogue.run_map]

theorem run_bind_of_error {e : ConvertError} (f : α → Request β)
    (first : x.run.run t script = ⟨.error e, calls, rest⟩) :
    (x >>= f).run.run t script = ⟨.error e, calls, rest⟩ := by
  rw [Request.run_bind, Dialogue.run_bind]
  simp [first]

theorem run_bind_of_ok {a : α} (f : α → Request β)
    (first : x.run.run t script = ⟨.ok a, calls, rest⟩) :
    (x >>= f).run.run t script = ((f a).run.run t rest).after calls := by
  rw [Request.run_bind, Dialogue.run_bind]
  simp [first, Dialogue.Run.after]

end Request

namespace Converter

variable {config : Config} {sql dialect name : String} {unit : SqlUnit}

theorem run_parse_of_parsed (script : Script) (accepted : Accepted sql dialect name)
    (parsed : t.parse (Text.trimmed sql) name = .ok unit) :
    (parse sql dialect).run.run t script =
      ⟨.ok unit, [.parse (Text.trimmed sql) name], script⟩ := by
  rw [parse_run_of_accepted accepted, Dialogue.run_ask]
  simp [Dialogue.answer, parsed, Dialogue.Run.after]

/-- A text that no operation takes beyond the parser. -/
def Refused (t : Transpiler) (sql dialect : String) : Prop :=
  Text.isBlankText sql = true ∨ Dialect.resolve dialect = none ∨
    ∃ name e, Dialect.resolve dialect = some name ∧ t.parse (Text.trimmed sql) name = .error e

theorem refused_or_parsed (t : Transpiler) (sql dialect : String) :
    Refused t sql dialect ∨
      ∃ name unit, Accepted sql dialect name ∧ t.parse (Text.trimmed sql) name = .ok unit := by
  rcases refused_or_accepted sql dialect with blank | ⟨-, unknown⟩ | ⟨name, accepted⟩
  · exact .inl (.inl blank)
  · exact .inl (.inr (.inl unknown))
  · cases answer : t.parse (Text.trimmed sql) name with
    | ok unit => exact .inr ⟨name, unit, accepted, answer⟩
    | error e => exact .inl (.inr (.inr ⟨name, e, accepted.2, answer⟩))

/-- A refusal costs no reply. -/
theorem run_parse_of_refused (refused : Refused t sql dialect) :
    ∃ detail calls, ∀ script, (parse sql dialect).run.run t script =
      ⟨.error (.invalidInput detail), calls, script⟩ := by
  rcases refused_or_accepted sql dialect with blank | ⟨filled, unknown⟩ | ⟨name, accepted⟩
  · rw [parse_run_of_blank dialect blank]
    exact ⟨_, _, fun script => rfl⟩
  · rw [parse_run_of_unknown filled unknown]
    exact ⟨_, _, fun script => rfl⟩
  · rcases refused with blank | unknown | ⟨other, e, resolved, unparsed⟩
    · exact absurd (blank.symm.trans accepted.1) (by decide)
    · cases unknown.symm.trans accepted.2
    · obtain rfl := accepted.unique ⟨accepted.1, resolved⟩
      refine ⟨"cannot parse as " ++ name ++ ": " ++ e.message,
        [.parse (Text.trimmed sql) name], fun script => ?_⟩
      rw [parse_run_of_accepted accepted, Dialogue.run_ask]
      simp only [Dialogue.answer, unparsed]
      rfl

/-- Nothing that begins with the parser succeeds on a text that is not parsed. -/
theorem parsed_of_succeeds {f : SqlUnit → Request α} {a : α} {script : Script}
    (succeeds : ((parse sql dialect >>= f).run.run t script).value = .ok a) :
    ∃ name unit, Accepted sql dialect name ∧ t.parse (Text.trimmed sql) name = .ok unit := by
  rcases refused_or_parsed t sql dialect with refused | parsed
  · obtain ⟨detail, calls, failed⟩ := run_parse_of_refused refused
    rw [Request.run_bind_of_error f (failed script)] at succeeds
    cases succeeds
  · exact parsed

theorem run_classify_of_parsed (script : Script) (accepted : Accepted sql dialect name)
    (parsed : t.parse (Text.trimmed sql) name = .ok unit) :
    (classify sql dialect).run.run t script =
      ⟨.ok unit.handling, [.parse (Text.trimmed sql) name], script⟩ := by
  rw [classify, Request.run_bind_of_ok _ (run_parse_of_parsed script accepted parsed)]
  rfl

theorem run_transpile_of_parsed (script : Script) (accepted : Accepted sql dialect name)
    (parsed : t.parse (Text.trimmed sql) name = .ok unit) :
    (transpile sql dialect).run.run t script =
      ((transpileUnit unit).run.run t script).after [.parse (Text.trimmed sql) name] := by
  rw [transpile, Request.run_bind_of_ok _ (run_parse_of_parsed script accepted parsed)]

/-- The run of an accepted text that can be parsed. -/
theorem run_report_of_parsed (script : Script) (accepted : Accepted sql dialect name)
    (parsed : t.parse (Text.trimmed sql) name = .ok unit) :
    (report config sql dialect).run.run t script =
      ((if unit.handling = .procedure then (convertProcedure config.reassembly unit).run
        else (convertStandalone unit).run).run t script).after
          [.parse (Text.trimmed sql) name] := by
  rw [report_run, parse_run_of_accepted accepted, Dialogue.ask_bind, Dialogue.run_ask]
  simp only [Dialogue.answer, parsed, Dialogue.done_bind]

theorem run_transpileUnit (unit : SqlUnit) (script : Script) :
    (transpileUnit unit).run.run t script =
      ⟨(t.transpile unit.text unit.dialect Dialect.target).mapError .transpile,
        [.transpile unit.text unit.dialect Dialect.target], script⟩ := by
  rw [transpileUnit_run, Dialogue.run_ask]
  cases answer : t.transpile unit.text unit.dialect Dialect.target <;>
    simp [Dialogue.answer, answer, Dialogue.Run.after, Except.mapError]

/-- A text is transpiled if it is accepted and parsed, and the transpiler takes its unit. -/
theorem value_transpile_eq_ok_iff {script : Script} {out : String} :
    ((transpile sql dialect).run.run t script).value = .ok out ↔
      ∃ name unit, Accepted sql dialect name ∧ t.parse (Text.trimmed sql) name = .ok unit ∧
        t.transpile unit.text unit.dialect Dialect.target = .ok out := by
  constructor
  · intro h
    obtain ⟨name, unit, accepted, parsed⟩ := parsed_of_succeeds h
    rw [run_transpile_of_parsed script accepted parsed, run_transpileUnit] at h
    refine ⟨name, unit, accepted, parsed, ?_⟩
    cases answer : t.transpile unit.text unit.dialect Dialect.target with
    | error e => simp [answer, Except.mapError, Dialogue.Run.after] at h
    | ok sql => simpa [answer, Except.mapError, Dialogue.Run.after] using h
  · rintro ⟨name, unit, accepted, parsed, answer⟩
    rw [run_transpile_of_parsed script accepted parsed, run_transpileUnit, answer]
    rfl

theorem run_convertStandalone_of_error {e : TranspileError} (script : Script)
    (refused : t.transpile unit.text unit.dialect Dialect.target = .error e) :
    (convertStandalone unit).run.run t script =
      ⟨.error (.transpile e), [.transpile unit.text unit.dialect Dialect.target], script⟩ := by
  rw [convertStandalone_run, Dialogue.run_ask]
  simp only [Dialogue.answer, refused]
  rfl

theorem run_convertStandalone_of_ok {converted : String} (script : Script)
    (transpiled : t.transpile unit.text unit.dialect Dialect.target = .ok converted) :
    (convertStandalone unit).run.run t script =
      ⟨concluded .validation (fun text => ⟨unit.dialect, unit.handling, [], text⟩)
          (script.next),
        [.transpile unit.text unit.dialect Dialect.target,
          .complete (Prompt.validationMessages unit.handling converted)], script.tail⟩ := by
  rw [convertStandalone_run, Dialogue.run_ask]
  simp only [Dialogue.answer, transpiled]
  rfl

/-- The assistant is asked to look over what the transpiler answered, and nothing else. -/
theorem validation_mem_calls_iff {content : String} (script : Script)
    (accepted : Accepted sql dialect name)
    (parsed : t.parse (Text.trimmed sql) name = .ok unit)
    (standalone : unit.handling ≠ .procedure) :
    .complete [⟨.system, Prompt.conversionSystem⟩, ⟨.user, content⟩] ∈
        ((report config sql dialect).run.run t script).calls ↔
      ∃ converted, t.transpile unit.text unit.dialect Dialect.target = .ok converted ∧
        content = Prompt.validation unit.handling converted := by
  rw [run_report_of_parsed script accepted parsed, if_neg standalone]
  cases answer : t.transpile unit.text unit.dialect Dialect.target with
  | error e =>
    rw [run_convertStandalone_of_error script answer]
    simp [Dialogue.Run.after]
  | ok converted =>
    rw [run_convertStandalone_of_ok script answer]
    simp [Dialogue.Run.after, Prompt.validationMessages]

theorem run_convertProcedure_of_error {script : Script} {e : ServiceError}
    (strategy : Strategy) (unit : SqlUnit) (failed : script.next = .error e) :
    (convertProcedure strategy unit).run.run t script =
      ⟨.error (.extraction e), [.complete (Prompt.extractionMessages unit.text)],
        script.tail⟩ := by
  rw [convertProcedure_run, Dialogue.run_ask]
  simp only [Dialogue.answer, failed]
  rfl

theorem run_convertProcedure_of_ok {script : Script} {reply : String}
    (strategy : Strategy) (unit : SqlUnit) (extracted : script.next = .ok reply) :
    (convertProcedure strategy unit).run.run t script =
      ((assembly strategy unit (Procedure.statementLines reply)
        ((Procedure.statementLines reply).map (StatementResult.single t unit.dialect))).run t
          script.tail).after
        (.complete (Prompt.extractionMessages unit.text) ::
          (Procedure.statementLines reply).filterMap
            (StatementResult.callFor? unit.dialect)) := by
  rw [convertProcedure_run, Dialogue.run_ask]
  simp only [Dialogue.answer, extracted, Dialogue.run_bind, StatementResult.run_ofBatch]
  rfl

end Converter

end SqlConverter
