import SqlConverter.Report
import SqlConverter.Proofs.Chat.Decoding
import SqlConverter.Proofs.CommandLine.Outcome

namespace SqlConverter

open Json (Document Value)
open Chat (textOf?)

/-- The class of that name. -/
def HandlingClass.ofName? (name : String) : Option HandlingClass :=
  [procedure, insert, ddl, generic].find? (·.name == name)

/-- The result of that status with that text. -/
def StatementResult.ofStatus? (status sql : String) : Option StatementResult :=
  [converted sql, unconverted sql].find? (·.status == status)

def StatementResult.ofValue? (v : Value) : Option StatementResult := do
  match ← Json.fields? ["status", "sql"] v with
  | [status, sql] => StatementResult.ofStatus? (← textOf? status) (← textOf? sql)
  | _ => none

def ConvertedStatement.ofValue? (v : Value) : Option ConvertedStatement := do
  match ← Json.fields? ["original", "result"] v with
  | [original, result] => return ⟨← textOf? original, ← StatementResult.ofValue? result⟩
  | _ => none

def statementsOf? : Value → Option (List ConvertedStatement)
  | .array items => items.mapM ConvertedStatement.ofValue?
  | _ => none

def Report.ofValue? (v : Value) : Option Report := do
  match ← Json.fields? ["source_dialect", "class", "statements", "output"] v with
  | [dialect, handling, statements, output] =>
    return {
      sourceDialect := ← textOf? dialect
      handling := ← HandlingClass.ofName? (← textOf? handling)
      statements := ← statementsOf? statements
      output := ← textOf? output }
  | _ => none

/-- The report in a text that is one JSON document. -/
def Report.read? (text : String) : Option Report := Json.read? text >>= Report.ofValue?

theorem HandlingClass.ofName?_name (h : HandlingClass) : HandlingClass.ofName? h.name = some h := by
  cases h <;> decide

theorem StatementResult.ofStatus?_status (r : StatementResult) :
    StatementResult.ofStatus? r.status r.text = some r := by
  cases r <;> rfl

theorem StatementResult.ofValue?_toValue (r : StatementResult) :
    StatementResult.ofValue? r.toValue = some r := by
  have distinct : ["status", "sql"].Nodup := by decide
  have fields : Json.fields? ["status", "sql"] r.toValue =
      some [.text r.status, .text r.text] :=
    Json.fields?_of_nodup distinct
  rw [StatementResult.ofValue?, fields]
  exact r.ofStatus?_status

theorem ConvertedStatement.ofValue?_toValue (s : ConvertedStatement) :
    ConvertedStatement.ofValue? s.toValue = some s := by
  have distinct : ["original", "result"].Nodup := by decide
  have fields : Json.fields? ["original", "result"] s.toValue =
      some [.text s.statement, s.result.toValue] :=
    Json.fields?_of_nodup distinct
  rw [ConvertedStatement.ofValue?, fields]
  simp only [Option.bind_eq_bind, Option.bind_some, s.result.ofValue?_toValue]
  rfl

theorem statementsOf?_toValue (statements : List ConvertedStatement) :
    statementsOf? (.array (statements.map ConvertedStatement.toValue)) = some statements := by
  rw [statementsOf?, mapM_map_eq_some ConvertedStatement.ofValue?_toValue, List.map_id']

theorem Report.ofValue?_toValue (r : Report) : Report.ofValue? r.toValue = some r := by
  have distinct : ["source_dialect", "class", "statements", "output"].Nodup := by decide
  have fields : Json.fields? ["source_dialect", "class", "statements", "output"] r.toValue =
      some [.text r.sourceDialect, .text r.handling.name,
        .array (r.statements.map ConvertedStatement.toValue), .text r.output] :=
    Json.fields?_of_nodup distinct
  have dialect : textOf? (.text r.sourceDialect) = some r.sourceDialect := rfl
  have named : textOf? (.text r.handling.name) = some r.handling.name := rfl
  have output : textOf? (.text r.output) = some r.output := rfl
  rw [Report.ofValue?, fields]
  simp only [Option.bind_eq_bind, Option.bind_some, dialect, named, output,
    r.handling.ofName?_name, statementsOf?_toValue]
  rfl

namespace CommandLine

theorem reportOutput_json (r : Report) : reportOutput .json r = r.toValue.indented ++ "\n" := rfl

theorem document_reportOutput (r : Report) (v : Value) :
    Document (reportOutput .json r).toList v ↔ v = r.toValue := by
  rw [← Json.read?_eq_some_iff, reportOutput_json, Json.read?_indented_line, Option.some.injEq]
  exact eq_comm

theorem read?_reportOutput (r : Report) : Report.read? (reportOutput .json r) = some r := by
  rw [Report.read?, reportOutput_json, Json.read?_indented_line]
  exact r.ofValue?_toValue

theorem reportOutput_injective : Function.Injective (reportOutput .json) := by
  intro r r' same
  have read := read?_reportOutput r
  rw [same, read?_reportOutput r'] at read
  exact (Option.some.inj read).symm

variable {readers : Readers} {s : Surroundings} {words : List String} {a : Arguments} {c : Config}

/-- A report in JSON is all that an invocation has on its output. -/
theorem invoke_report (parsed : readers.arguments s.environment words = .ok a)
    (resolved : resolveConfig readers.toml s a = .ok c) (asked : a.command = none)
    (json : a.format = .json) {σ : Type} (t : Transpiler)
    (send : Chat.Client → List Chat.Message → StateM σ Chat.Reply)
    (memory : σ) {memory' : σ} {text : String} {r : Report} (input : Input s a (.ok (some text)))
    (call : settled t send c (Converter.report c text (a.dialect.getD c.sourceDialect)) memory =
      (.ok r, memory')) :
    invoke readers t send s words memory =
      (⟨0, reportOutput .json r, verboseLines a c⟩, memory') := by
  rw [invoke_of_resolved parsed resolved]
  exact (Performed.reported asked input call json).run_eq

/-- What is printed of a report in JSON is one document, with just one value, and the report is
read from it whole. So no two reports print the same, not even where a text was kept in the one and
converted in the other. An invocation that asks for it has this on its output and nothing more,
whenever the library comes to a report. -/
theorem printed_report_lossless :
    (∀ r : Report, (∀ v, Document (reportOutput .json r).toList v ↔ v = r.toValue) ∧
      Report.read? (reportOutput .json r) = some r) ∧
    (∀ r r' : Report, reportOutput .json r = reportOutput .json r' ↔ r = r') ∧
    (∀ (r : Report) (before after : List ConvertedStatement) (original sql : String),
      reportOutput .json
          { r with statements := before ++ ⟨original, .converted sql⟩ :: after } ≠
        reportOutput .json
          { r with statements := before ++ ⟨original, .unconverted sql⟩ :: after }) ∧
    ∀ {σ : Type} (readers : Readers) (t : Transpiler)
      (send : Chat.Client → List Chat.Message → StateM σ Chat.Reply)
      {s : Surroundings} {words : List String} {a : Arguments} {c : Config} {memory memory' : σ}
      {text : String} {r : Report},
      readers.arguments s.environment words = .ok a → resolveConfig readers.toml s a = .ok c →
      a.command = none → a.format = .json → Input s a (.ok (some text)) →
      settled t send c (Converter.report c text (a.dialect.getD c.sourceDialect)) memory =
        (.ok r, memory') →
      invoke readers t send s words memory =
          (⟨0, reportOutput .json r, verboseLines a c⟩, memory') ∧
        Report.read? (invoke readers t send s words memory).1.stdout = some r := by
  refine ⟨fun r => ⟨document_reportOutput r, read?_reportOutput r⟩,
    fun _ _ => reportOutput_injective.eq_iff, ?_, ?_⟩
  · intro r before after original sql same
    have statements := congrArg Report.statements (reportOutput_injective same)
    have result := List.append_cancel_left statements
    simp only [List.cons.injEq, ConvertedStatement.mk.injEq, reduceCtorEq, and_false,
      false_and] at result
  · intro σ readers t send s words a c memory memory' text r parsed resolved asked json input call
    have printed := invoke_report parsed resolved asked json t send memory input call
    refine ⟨printed, ?_⟩
    rw [printed]
    exact read?_reportOutput r

/-- One statement of two is kept. -/
def keptFirstReport : Report where
  sourceDialect := "tsql"
  handling := .procedure
  statements := [⟨"bad;", .unconverted "bad;"⟩, ⟨"select 1", .converted "select 1;"⟩]
  output := "DELIMITER //\nbad;\nselect 1;\n//\nDELIMITER ;"

theorem printed_report_lossless_piped :
    let invoked := invoke own .byHeader scriptedService piped
      ["--delimited", "--dialect", "MSSQL", "--format", "json"] (.of [.ok "bad;\nselect 1"])
    invoked.1.status = 0 ∧ Report.read? invoked.1.stdout = some keptFirstReport := by
  let a : Arguments := { delimited := true, dialect := "MSSQL", format := .json }
  let c : Config := { reassembly := .delimited }
  have parsed : own.arguments piped.environment
      ["--delimited", "--dialect", "MSSQL", "--format", "json"] = .ok a := rfl
  have resolved : resolveConfig own.toml piped a = .ok c := rfl
  have input : Input piped a (.ok (some "create proc p")) := .stream rfl rfl rfl rfl
  have call : settled .byHeader scriptedService c (Converter.report c "create proc p" "MSSQL")
      (.of [.ok "bad;\nselect 1"]) = (.ok keptFirstReport, .of []) := rfl
  obtain ⟨-, -, -, printed⟩ := printed_report_lossless
  obtain ⟨run, read⟩ := printed own .byHeader scriptedService parsed resolved rfl rfl input call
  refine ⟨?_, read⟩
  rw [run]

end CommandLine

end SqlConverter
