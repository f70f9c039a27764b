import SqlConverter.Converter

namespace SqlConverter

inductive Operation
  | convert (sql dialect : String)
  | report (sql dialect : String)
  | classify (sql dialect : String)
  | transpile (sql dialect : String)
  | convertToTarget (sql : String)
  | sourceDialects
  | config
  deriving DecidableEq, Repr, Inhabited

inductive Operation.Result
  | text (sql : String)
  | report (report : Report)
  | handling (handling : HandlingClass)
  | dialects (names : List String)
  | config (config : Config)
  deriving DecidableEq, Repr, Inhabited

/-- An operation as a request, under a configuration and a list of dialects that can be read. -/
def Operation.request (c : Config) (readable : List String) : Operation → Request Result
  | convert sql dialect => Result.text <$> Converter.convert c sql dialect
  | report sql dialect => Result.report <$> Converter.report c sql dialect
  | classify sql dialect => Result.handling <$> Converter.classify sql dialect
  | transpile sql dialect => Result.text <$> Converter.transpile sql dialect
  | convertToTarget sql => Result.text <$> Converter.convertToTarget c sql
  | sourceDialects => pure (.dialects readable)
  | config => pure (.config c)

def Operation.run (c : Config) (t : Transpiler) (script : Script) (op : Operation) :
    Dialogue.Run (Except ConvertError Result) :=
  (op.request c t.readable).run.run t script

/-- Operations that share a script. -/
def Session.run (c : Config) (t : Transpiler) :
    Script → List Operation → List (Dialogue.Run (Except ConvertError Operation.Result))
  | _, [] => []
  | script, op :: rest =>
    let r := op.run c t script
    r :: Session.run c t r.unread rest

end SqlConverter
