import SqlConverter.Procedure
import SqlConverter.Config.Basic

namespace SqlConverter

structure ConvertedStatement where
  statement : String
  result : StatementResult
  deriving DecidableEq, Repr, Inhabited

/-- All that a conversion produced; `statements` is empty unless the text was a procedure. -/
structure Report where
  sourceDialect : String
  handling : HandlingClass
  statements : List ConvertedStatement
  output : String
  deriving DecidableEq, Repr, Inhabited

def Report.unconverted (report : Report) : List ConvertedStatement :=
  report.statements.filter fun s => !s.result.isConverted

namespace Converter

/-- Parses a text under the resolved name of its dialect. -/
def parse (sql dialect : String) : Request SqlUnit :=
  if Text.isBlankText sql then throw (.invalidInput "input is empty")
  else match Dialect.resolve dialect with
    | none => throw (.invalidInput ("unknown source dialect '" ++ dialect ++ "'"))
    | some name => do
      match ← (Dialogue.parse (Text.trimmed sql) name : Dialogue _) with
      | .ok unit => pure unit
      | .error e => throw (.invalidInput ("cannot parse as " ++ name ++ ": " ++ e.message))

def classify (sql dialect : String) : Request HandlingClass := do
  return (← parse sql dialect).handling

def transpileUnit (unit : SqlUnit) : Request String := do
  match ← (Dialogue.transpile unit.text unit.dialect Dialect.target : Dialogue _) with
  | .ok sql => pure sql
  | .error e => throw (.transpile e)

/-- Transpiles without asking the assistant. -/
def transpile (sql dialect : String) : Request String := do
  transpileUnit (← parse sql dialect)

/-- Asks the assistant to look over a transpiled statement. -/
def validate (c : HandlingClass) (sql : String) : Request String := do
  match ← (Dialogue.complete (Prompt.validationMessages c sql) : Dialogue Chat.Reply) with
  | .ok reply => pure (Text.trimmed reply)
  | .error e => throw (.validation e)

def assemble (strategy : Strategy) (procedure converted : String) : Request String :=
  match strategy with
  | .assistant => Procedure.reassemble procedure converted
  | .delimited => pure (Procedure.frame converted)

def convertProcedure (strategy : Strategy) (unit : SqlUnit) : Request Report := do
  let batch ← Procedure.decompose unit.text
  let results ← (StatementResult.ofBatch unit.dialect batch : Dialogue _)
  let output ← assemble strategy unit.text (StatementResult.joined results)
  return ⟨unit.dialect, .procedure, List.zipWith ConvertedStatement.mk batch results, output⟩

def convertStandalone (unit : SqlUnit) : Request Report := do
  let sql ← transpileUnit unit
  let output ← validate unit.handling sql
  return ⟨unit.dialect, unit.handling, [], output⟩

/-- Converts a text and keeps what was found on the way. -/
def report (config : Config) (sql dialect : String) : Request Report := do
  let unit ← parse sql dialect
  match unit.handling with
  | .procedure => convertProcedure config.reassembly unit
  | _ => convertStandalone unit

def convert (config : Config) (sql dialect : String) : Request String := do
  return (← report config sql dialect).output

def convertToTarget (config : Config) (sql : String) : Request String :=
  convert config sql config.sourceDialect

end Converter

def convertToTarget (sql : String) (dialect : Option String) : Request String :=
  Converter.convert Config.default sql (dialect.getD Dialect.defaultSource)

end SqlConverter
