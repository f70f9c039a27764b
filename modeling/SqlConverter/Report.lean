import SqlConverter.Converter
import SqlConverter.Json.Value

namespace SqlConverter

open Json (Value)

def StatementResult.status : StatementResult → String
  | converted _ => "converted"
  | unconverted _ => "unconverted"

def StatementResult.toValue (r : StatementResult) : Value :=
  .record [("status", .text r.status), ("sql", .text r.text)]

def ConvertedStatement.toValue (s : ConvertedStatement) : Value :=
  .record [("original", .text s.statement), ("result", s.result.toValue)]

def Report.toValue (r : Report) : Value :=
  .record
    [("source_dialect", .text r.sourceDialect), ("class", .text r.handling.name),
     ("statements", .array (r.statements.map ConvertedStatement.toValue)),
     ("output", .text r.output)]

end SqlConverter
