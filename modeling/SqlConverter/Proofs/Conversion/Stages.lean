import SqlConverter.Converter
import SqlConverter.Proofs.Statement.Batch
import SqlConverter.Proofs.Dialogue.Script

namespace SqlConverter

open Dialogue (Transcript Turn)

variable {α β : Type}

/-- Takes a text for what its first words say, and refuses one statement. -/
def Transpiler.byHeader : Transpiler where
  parse := fun text dialect =>
    .ok ⟨if ProcedureHeader.opens text then .create "procedure" else .other, text, dialect⟩
  transpile := fun text _ _ => if text = "bad" then .error .empty else .ok text

theorem Request.run_bind (x : Request α) (f : α → Request β) :
    (x >>= f).run = x.run >>= fun
      | .ok a => (f a).run
      | .error e => Dialogue.done (.error e) := by
  rw [ExceptT.run_bind]
  refine congrArg (x.run >>= ·) (funext fun result => ?_)
  cases result <;> rfl

/-- A conversation that cannot fail, inside a request. -/
theorem Request.run_lift_bind (d : Dialogue α) (f : α → Request β) :
    ((d : Request α) >>= f).run = d >>= fun a => (f a).run := by
  rw [ExceptT.run_bind]
  simp

theorem Request.silent_bind {x : Request α} {f : α → Request β} (hx : x.run.Silent)
    (hf : ∀ a, (f a).run.Silent) : (x >>= f).run.Silent := by
  rw [Request.run_bind]
  apply Dialogue.silent_bind hx
  intro result
  cases result with
  | ok a => exact hf a
  | error e => trivial

theorem Request.silent_map (f : α → β) {x : Request α} (hx : x.run.Silent) :
    (f <$> x).run.Silent := by
  rw [← bind_pure_comp]
  exact Request.silent_bind hx fun a => trivial

namespace Converter

/-- A text that is not blank, and the name its dialect stands for. -/
def Accepted (sql dialect name : String) : Prop :=
  Text.isBlankText sql = false ∧ Dialect.resolve dialect = some name

theorem Accepted.unique {sql dialect name name' : String} (h : Accepted sql dialect name)
    (h' : Accepted sql dialect name') : name = name' :=
  Option.some.inj (h.2.symm.trans h'.2)

theorem refused_or_accepted (sql dialect : String) :
    Text.isBlankText sql = true ∨
      (Text.isBlankText sql = false ∧ Dialect.resolve dialect = none) ∨
      ∃ name, Accepted sql dialect name := by
  cases blank : Text.isBlankText sql with
  | true => exact .inl rfl
  | false =>
    cases resolved : Dialect.resolve dialect with
    | none => exact .inr (.inl ⟨rfl, rfl⟩)
    | some name => exact .inr (.inr ⟨name, blank, resolved⟩)

theorem parse_run_of_blank {sql : String} (dialect : String)
    (blank : Text.isBlankText sql = true) :
    (parse sql dialect).run = .done (.error (.invalidInput "input is empty")) := by
  rw [parse, if_pos blank]
  rfl

theorem parse_run_of_unknown {sql dialect : String} (blank : Text.isBlankText sql = false)
    (unknown : Dialect.resolve dialect = none) :
    (parse sql dialect).run =
      .done (.error (.invalidInput ("unknown source dialect '" ++ dialect ++ "'"))) := by
  rw [parse, if_neg (by simp [blank]), unknown]
  rfl

theorem parse_run_of_accepted {sql dialect name : String} (h : Accepted sql dialect name) :
    (parse sql dialect).run = .ask (.parse (Text.trimmed sql) name) fun
      | .ok unit => .done (.ok unit)
      | .error e =>
        .done (.error (.invalidInput ("cannot parse as " ++ name ++ ": " ++ e.message))) := by
  rw [parse, if_neg (by simp [h.1]), h.2]
  apply Dialogue.ask_congr
  intro answer
  cases answer <;> rfl

theorem transpileUnit_run (unit : SqlUnit) :
    (transpileUnit unit).run = .ask (.transpile unit.text unit.dialect Dialect.target) fun
      | .ok sql => .done (.ok sql)
      | .error e => .done (.error (.transpile e)) := by
  apply Dialogue.ask_congr
  intro answer
  cases answer <;> rfl

theorem parse_silent (sql dialect : String) : (parse sql dialect).run.Silent := by
  rcases refused_or_accepted sql dialect with blank | ⟨filled, unknown⟩ | ⟨name, accepted⟩
  · rw [parse_run_of_blank dialect blank]
    trivial
  · rw [parse_run_of_unknown filled unknown]
    trivial
  · rw [parse_run_of_accepted accepted]
    refine ⟨rfl, fun answer => ?_⟩
    cases answer <;> trivial

theorem transpileUnit_silent (unit : SqlUnit) : (transpileUnit unit).run.Silent := by
  rw [transpileUnit_run]
  refine ⟨rfl, fun answer => ?_⟩
  cases answer <;> trivial

theorem classify_silent (sql dialect : String) : (classify sql dialect).run.Silent :=
  Request.silent_bind (parse_silent sql dialect) fun _ => trivial

theorem transpile_silent (sql dialect : String) : (transpile sql dialect).run.Silent :=
  Request.silent_bind (parse_silent sql dialect) transpileUnit_silent

theorem validate_run (c : HandlingClass) (sql : String) :
    (validate c sql).run = .ask (.complete (Prompt.validationMessages c sql)) fun
      | .ok reply => .done (.ok (Text.trimmed reply))
      | .error e => .done (.error (.validation e)) := by
  apply Dialogue.ask_congr
  intro reply
  cases reply <;> rfl

theorem decompose_run (procedure : String) :
    (Procedure.decompose procedure).run =
      .ask (.complete (Prompt.extractionMessages procedure)) fun
      | .ok reply => .done (.ok (Procedure.statementLines reply))
      | .error e => .done (.error (.extraction e)) := by
  apply Dialogue.ask_congr
  intro reply
  cases reply <;> rfl

theorem reassemble_run (procedure converted : String) :
    (Procedure.reassemble procedure converted).run =
      .ask (.complete (Prompt.reassemblyMessages procedure converted)) fun
      | .ok reply => .done (.ok (Text.trimmed reply))
      | .error e => .done (.error (.reassembly e)) := by
  apply Dialogue.ask_congr
  intro reply
  cases reply <;> rfl

/-- What the last reply of a conversion makes of it. -/
def concluded (failure : ServiceError → ConvertError) (conclude : String → Report) :
    Chat.Reply → Except ConvertError Report
  | .ok reply => .ok (conclude (Text.trimmed reply))
  | .error e => .error (failure e)

theorem convertStandalone_run (unit : SqlUnit) :
    (convertStandalone unit).run = .ask (.transpile unit.text unit.dialect Dialect.target) fun
      | .error e => .done (.error (.transpile e))
      | .ok sql => .ask (.complete (Prompt.validationMessages unit.handling sql)) fun reply =>
        .done (concluded .validation (fun text => ⟨unit.dialect, unit.handling, [], text⟩)
          reply) := by
  rw [convertStandalone, Request.run_bind, transpileUnit_run, Dialogue.ask_bind]
  apply Dialogue.ask_congr
  intro answer
  cases answer with
  | error e => rfl
  | ok sql =>
    rw [Dialogue.done_bind]
    dsimp only
    rw [Request.run_bind, validate_run, Dialogue.ask_bind]
    apply Dialogue.ask_congr
    intro reply
    cases reply <;> rfl

/-- A report on a procedure whose statements became these results. -/
def procedureReport (unit : SqlUnit) (batch : List String) (results : List StatementResult)
    (output : String) : Report :=
  ⟨unit.dialect, .procedure, List.zipWith ConvertedStatement.mk batch results, output⟩

/-- The last stage of a procedure, behind its statements. -/
def assembly (strategy : Strategy) (unit : SqlUnit) (batch : List String)
    (results : List StatementResult) : Dialogue (Except ConvertError Report) :=
  match strategy with
  | .assistant =>
    .ask (.complete (Prompt.reassemblyMessages unit.text (StatementResult.joined results)))
      fun reply => .done (concluded .reassembly (procedureReport unit batch results) reply)
  | .delimited =>
    .done (.ok (procedureReport unit batch results
      (Procedure.frame (StatementResult.joined results))))

theorem assemble_run (strategy : Strategy) (unit : SqlUnit) (batch : List String)
    (results : List StatementResult) :
    (do
      let output ← assemble strategy unit.text (StatementResult.joined results)
      return procedureReport unit batch results output : Request Report).run =
      assembly strategy unit batch results := by
  cases strategy with
  | assistant =>
    rw [assemble, Request.run_bind, reassemble_run, Dialogue.ask_bind]
    apply Dialogue.ask_congr
    intro reply
    cases reply <;> rfl
  | delimited => rfl

theorem convertProcedure_run (strategy : Strategy) (unit : SqlUnit) :
    (convertProcedure strategy unit).run =
      .ask (.complete (Prompt.extractionMessages unit.text)) fun
      | .error e => .done (.error (.extraction e))
      | .ok reply =>
        StatementResult.ofBatch unit.dialect (Procedure.statementLines reply) >>=
          assembly strategy unit (Procedure.statementLines reply) := by
  rw [convertProcedure, Request.run_bind, decompose_run, Dialogue.ask_bind]
  apply Dialogue.ask_congr
  intro reply
  cases reply with
  | error e => rfl
  | ok reply =>
    rw [Dialogue.done_bind]
    dsimp only
    rw [Request.run_lift_bind]
    exact congrArg _ (funext fun results => assemble_run strategy unit _ results)

/-- A whole conversion: the unit of an accepted text goes one of two ways. -/
theorem report_run (config : Config) (sql dialect : String) :
    (report config sql dialect).run = (parse sql dialect).run >>= fun
      | .ok unit =>
        if unit.handling = .procedure then (convertProcedure config.reassembly unit).run
        else (convertStandalone unit).run
      | .error e => .done (.error e) := by
  rw [report, Request.run_bind]
  refine congrArg ((parse sql dialect).run >>= ·) (funext fun parsed => ?_)
  cases parsed with
  | error e => rfl
  | ok unit => cases h : unit.handling <;> simp [h]

theorem convert_eq_map (config : Config) (sql dialect : String) :
    convert config sql dialect = Report.output <$> report config sql dialect :=
  bind_pure_comp _ _

end Converter

end SqlConverter
