import SqlConverter.Proofs.Engine.FirstStatement

namespace SqlConverter.Engine

open Sql (Expression)

variable {engine : Engine} {name read text : String}

/-- A statement that creates a procedure, or is kept as it stands and begins like one. -/
inductive CreatesProcedure : Expression → Prop
  | created : CreatesProcedure (.create .procedure)
  | kept {text : String} (header : ProcedureHeader.opens text = true) :
      CreatesProcedure (.command text)

/-- The other statements that create something, drop it, change it or empty it. -/
def definitions : List Expression :=
  [.create .table, .create .view, .create .index, .create .schema, .create .database,
   .create .function, .create .sequence, .create .trigger, .create .type,
   .drop .table, .alter .table, .drop .index, .alter .index, .drop .view, .alter .view, .truncate,
   .drop .schema, .drop .namespace_, .drop .database, .drop .function, .drop .procedure,
   .drop .sequence, .alter .sequence, .drop .trigger, .drop .type]

theorem shapeOf_command (text : String) :
    shapeOf (.command text) =
      if ProcedureHeader.opens text then .create "PROCEDURE" else .other := rfl

theorem handling_eq_procedure_iff {first : Expression} :
    (shapeOf first).handling = .procedure ↔ CreatesProcedure first := by
  constructor
  · intro h
    cases first with
    | create kind =>
      cases kind with
      | procedure => exact .created
      | _ => exact absurd h (by decide)
    | command text =>
      rw [shapeOf_command] at h
      split at h
      · next header => exact .kept header
      · cases h
    | alter kind => cases kind <;> exact absurd h (by decide)
    | _ => exact absurd h (by simp [shapeOf, Shape.handling])
  · intro h
    cases h with
    | created => decide
    | kept header =>
      rw [shapeOf_command, if_pos header]
      decide

theorem handling_eq_insert_iff {first : Expression} :
    (shapeOf first).handling = .insert ↔ first = .insert := by
  constructor
  · intro h
    cases first with
    | insert => rfl
    | create kind => cases kind <;> exact absurd h (by decide)
    | alter kind => cases kind <;> exact absurd h (by decide)
    | command text =>
      rw [shapeOf_command] at h
      split at h <;> exact absurd h (by decide)
    | _ => exact absurd h (by simp [shapeOf, Shape.handling])
  · rintro rfl
    rfl

theorem handling_eq_ddl_iff {first : Expression} :
    (shapeOf first).handling = .ddl ↔ first ∈ definitions := by
  cases first with
  | create kind => cases kind <;> decide
  | drop kind => cases kind <;> decide
  | alter kind => cases kind <;> decide
  | truncate => decide
  | insert => decide
  | other => decide
  | command text =>
    rw [shapeOf_command]
    cases ProcedureHeader.opens text <;> simp [definitions] <;> decide

theorem handling_eq_generic_iff {first : Expression} :
    (shapeOf first).handling = .generic ↔
      ¬ CreatesProcedure first ∧ first ≠ .insert ∧ first ∉ definitions := by
  rw [← handling_eq_procedure_iff, Ne, ← handling_eq_insert_iff, ← handling_eq_ddl_iff]
  cases (shapeOf first).handling <;> simp

/-- A name of a dialect that the engine knows. -/
structure Known (engine : Engine) (name read : String) : Prop where
  resolved : Dialect.resolve name = some read
  known : engine.knows read = true

theorem parse_of_known (known : Known engine name read) (text : String) :
    engine.transpiler.parse text name =
      match engine.parse text read with
      | .ok (first :: _) => .ok ⟨shapeOf first, text, name⟩
      | .ok [] => .error .empty
      | .error e =>
        if ProcedureHeader.opens text then .ok ⟨.create "PROCEDURE", text, name⟩
        else .error (.parse e.display) := by
  have dialect : engine.dialect? name = .ok read := by
    rw [dialect?, known.resolved]
    exact if_pos known.known
  change engine.parseUnit text name = _
  rw [parseUnit, dialect]
  rfl

/-- The class of a text, if it is parsed. -/
def class? (engine : Engine) (text name : String) : Except TranspileError HandlingClass :=
  (engine.transpiler.parse text name).map SqlUnit.handling

theorem class?_eq_ok_iff (known : Known engine name read) {c : HandlingClass} :
    class? engine text name = .ok c ↔
      (∃ first rest, engine.parse text read = .ok (first :: rest) ∧
        (shapeOf first).handling = c) ∨
      c = .procedure ∧ ProcedureHeader.opens text = true ∧
        ∃ e, engine.parse text read = .error e := by
  have header : Shape.handling (.create "PROCEDURE") = .procedure := by decide
  rw [class?, parse_of_known known]
  cases engine.parse text read with
  | error e =>
    cases opens : ProcedureHeader.opens text with
    | true => simp [Except.map, SqlUnit.handling, header, eq_comm]
    | false => simp [Except.map]
  | ok statements =>
    cases statements with
    | nil => simp [Except.map]
    | cons first rest => simp [Except.map, SqlUnit.handling]

theorem parse_eq_parse_error_iff (known : Known engine name read) {detail : String} :
    engine.transpiler.parse text name = .error (.parse detail) ↔
      ProcedureHeader.opens text = false ∧
        ∃ e, engine.parse text read = .error e ∧ detail = e.display := by
  rw [parse_of_known known]
  cases engine.parse text read with
  | error e => cases ProcedureHeader.opens text <;> simp [eq_comm]
  | ok statements => cases statements <;> simp

theorem parse_eq_empty_error_iff (known : Known engine name read) :
    engine.transpiler.parse text name = .error .empty ↔ engine.parse text read = .ok [] := by
  rw [parse_of_known known]
  cases engine.parse text read with
  | error e => cases ProcedureHeader.opens text <;> simp
  | ok statements => cases statements <;> simp

theorem parse_congr {other : Engine} {first : Expression} {rest rest' : List Expression}
    (known : Known engine name read) (known' : Known other name read)
    (found : engine.parse text read = .ok (first :: rest))
    (found' : other.parse text read = .ok (first :: rest')) :
    other.transpiler.parse text name = engine.transpiler.parse text name := by
  rw [parse_of_known known, parse_of_known known', found, found']

/-- The first statement that the engine finds decides how a text is handled: as a procedure if it
creates one, as an insertion or a definition if it is one, and else as a query. A text in which the
engine finds nothing is refused for that. A text that it cannot read is a procedure if it has the
header of one, whatever follows, and else refused with the engine's message; nothing else is
refused. A unit keeps its text and the name of its dialect as they were given, and statements behind
the first do not change it. -/
theorem class_told_by_first_statement (text : String) (known : Known engine name read) :
    (class? engine text name = .ok .procedure ↔
      (∃ first rest, engine.parse text read = .ok (first :: rest) ∧ CreatesProcedure first) ∨
      ProcedureHeader.opens text = true ∧ ∃ e, engine.parse text read = .error e) ∧
    (class? engine text name = .ok .insert ↔
      ∃ rest, engine.parse text read = .ok (.insert :: rest)) ∧
    (class? engine text name = .ok .ddl ↔
      ∃ first rest, engine.parse text read = .ok (first :: rest) ∧ first ∈ definitions) ∧
    (class? engine text name = .ok .generic ↔
      ∃ first rest, engine.parse text read = .ok (first :: rest) ∧
        ¬ CreatesProcedure first ∧ first ≠ .insert ∧ first ∉ definitions) ∧
    (∀ detail, engine.transpiler.parse text name = .error (.parse detail) ↔
      ProcedureHeader.opens text = false ∧
        ∃ e, engine.parse text read = .error e ∧ detail = e.display) ∧
    (engine.transpiler.parse text name = .error .empty ↔ engine.parse text read = .ok []) ∧
    (∀ e, engine.transpiler.parse text name = .error e →
      e = .empty ∨ ∃ detail, e = .parse detail) ∧
    (∀ unit, engine.transpiler.parse text name = .ok unit →
      unit.text = text ∧ unit.dialect = name) ∧
    (ProcedureHeader.opens text = true →
      ∀ detail, engine.transpiler.parse text name ≠ .error (.parse detail)) ∧
    ∀ (other : Engine) (first : Expression) (rest rest' : List Expression),
      Known other name read → engine.parse text read = .ok (first :: rest) →
      other.parse text read = .ok (first :: rest') →
      other.transpiler.parse text name = engine.transpiler.parse text name := by
  refine ⟨?_, ?_, ?_, ?_, ?_, parse_eq_empty_error_iff known, ?_, ?_, ?_, ?_⟩
  · simp only [class?_eq_ok_iff known, handling_eq_procedure_iff, true_and]
  · simp only [class?_eq_ok_iff known, handling_eq_insert_iff, reduceCtorEq, false_and, or_false,
      exists_and_right, exists_eq_right]
  · simp only [class?_eq_ok_iff known, handling_eq_ddl_iff, reduceCtorEq, false_and, or_false]
  · simp only [class?_eq_ok_iff known, handling_eq_generic_iff, reduceCtorEq, false_and, or_false]
  · intro detail
    exact parse_eq_parse_error_iff known
  · intro e failed
    rw [parse_of_known known] at failed
    split at failed
    · cases failed
    · cases failed
      exact .inl rfl
    · split at failed
      · cases failed
      · cases failed
        exact .inr ⟨_, rfl⟩
  · intro unit parsed
    exact eq_of_parse parsed
  · intro header detail failed
    obtain ⟨plain, -⟩ := (parse_eq_parse_error_iff known).mp failed
    rw [header] at plain
    cases plain
  · intro other first rest rest' known' found found'
    exact parse_congr known known' found found'

/-- A procedure with a text that is never closed, a definition ahead of an insertion, and neither. -/
theorem class_told_by_first_statement_samples :
    class? Sql.engine "create or alter proc p as select 'x" " MSSQL" = .ok .procedure ∧
    class? Sql.engine "drop procedure p; insert into t values (1)" "pg" = .ok .ddl ∧
    Sql.engine.transpiler.parse "selec (" "pg" = .error (.parse Sql.unreadable.display) := by
  have tsql : Known Sql.engine " MSSQL" "tsql" := by constructor <;> decide
  have postgres : Known Sql.engine "pg" "postgres" := by constructor <;> decide
  obtain ⟨procedure, -⟩ :=
    class_told_by_first_statement "create or alter proc p as select 'x" tsql
  obtain ⟨-, -, ddl, -⟩ :=
    class_told_by_first_statement "drop procedure p; insert into t values (1)" postgres
  obtain ⟨-, -, -, -, refused, -⟩ := class_told_by_first_statement "selec (" postgres
  refine ⟨procedure.mpr (.inr ⟨by decide, Sql.unreadable, by rfl⟩),
    ddl.mpr ⟨.drop .procedure, [.insert], by rfl, by decide⟩,
    (refused _).mpr ⟨by decide, Sql.unreadable, by rfl, rfl⟩⟩

end SqlConverter.Engine
