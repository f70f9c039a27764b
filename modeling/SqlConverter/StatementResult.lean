import SqlConverter.Dialogue

namespace SqlConverter

inductive StatementResult
  | converted (sql : String)
  | unconverted (sql : String)
  deriving DecidableEq, Repr, Inhabited

namespace StatementResult

def text : StatementResult → String
  | converted sql => sql
  | unconverted sql => sql

def isConverted : StatementResult → Bool
  | converted _ => true
  | unconverted _ => false

def isSemicolon (c : Char) : Bool := c == ';'

/-- A statement without the blanks around it and then without the semicolons at its end. -/
def body (statement : String) : String :=
  .ofList (Text.dropEndWhile isSemicolon (Text.trim statement.toList))

def terminated (sql : String) : String := sql ++ ";"

/-- What becomes of a body, given the transpiler's answer for it. -/
def ofAnswer (kept : String) : Except TranspileError String → StatementResult
  | .ok sql =>
    if Text.isBlankText sql then unconverted (terminated kept)
    else converted (terminated (body sql))
  | .error _ => unconverted (terminated kept)

/-- Converts one statement; a statement with a blank body is never put to the transpiler. -/
def ofStatement (statement dialect : String) : Dialogue StatementResult :=
  if Text.isBlankText (body statement) then pure (unconverted ";")
  else do
    let answer ← Dialogue.transpile (body statement) dialect Dialect.target
    pure (ofAnswer (body statement) answer)

/-- Converts statements one after the other. -/
def ofBatch (dialect : String) : List String → Dialogue (List StatementResult)
  | [] => pure []
  | statement :: rest => do
    let first ← ofStatement statement dialect
    let others ← ofBatch dialect rest
    pure (first :: others)

/-- The texts of the results, one to a line. -/
def joined (results : List StatementResult) : String :=
  "\n".intercalate (results.map text)

end StatementResult

end SqlConverter
