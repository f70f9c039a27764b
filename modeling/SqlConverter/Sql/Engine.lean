import SqlConverter.Sql.Target
import SqlConverter.Dialogue

namespace SqlConverter

open Sql (Expression ObjectKind)

/-- Why an engine fails, with its own words for it. -/
inductive EngineError
  | unsupported (feature dialect display : String)
  | other (display : String)
  deriving DecidableEq, Repr

def EngineError.display : EngineError → String
  | unsupported _ _ display => display
  | other display => display

structure Engine where
  knows : String → Bool
  parse : String → String → Except EngineError (List Expression)
  transpile : String → String → String → Except EngineError (List String)

namespace Engine

/-- Kinds whose alteration counts as a definition. -/
def alterable : List ObjectKind := [.table, .view, .index, .sequence]

def shapeOf : Expression → Shape
  | .create .namespace_ => .other
  | .create kind => .create kind.word
  | .insert => .insert
  | .drop _ => .definition
  | .alter kind => if alterable.contains kind then .definition else .other
  | .truncate => .definition
  | .command text => if ProcedureHeader.opens text then .create "PROCEDURE" else .other
  | .other => .other

/-- The name under which the engine knows a dialect. -/
def dialect? (engine : Engine) (name : String) : Except TranspileError String :=
  match Dialect.resolve name with
  | some d => if engine.knows d then .ok d else .error (.unknownDialect name)
  | none => .error (.unknownDialect name)

def parseUnit (engine : Engine) (text dialect : String) : Except TranspileError SqlUnit := do
  let read ← engine.dialect? dialect
  match engine.parse text read with
  | .ok (first :: _) => .ok ⟨shapeOf first, text, dialect⟩
  | .ok [] => .error .empty
  | .error e =>
    if ProcedureHeader.opens text then .ok ⟨.create "PROCEDURE", text, dialect⟩
    else .error (.parse e.display)

def transpileFirst (engine : Engine) (text read write : String) : Except TranspileError String := do
  let source ← engine.dialect? read
  let written ← engine.dialect? write
  match engine.transpile text source written with
  | .ok (first :: _) => .ok first
  | .ok [] => .error .empty
  | .error (.unsupported feature dialect _) =>
    .error (.unsupported (feature ++ " in " ++ dialect))
  | .error e => .error (.parse e.display)

def transpiler (engine : Engine) : Transpiler where
  parse := engine.parseUnit
  transpile := engine.transpileFirst

end Engine

namespace Sql

def unreadable : EngineError := .other "the text is not SQL"

/-- All statements of a text; a text of semicolons alone has none that can be read. -/
def read (text dialect : String) : Except EngineError (List Statement) :=
  match lexemes? dialect text with
  | none => .error unreadable
  | some ls =>
    if ls.isEmpty then .ok []
    else
      let each := statements ls
      if each.any (!·.isEmpty) then
        match each.mapM Statement.read? with
        | some ss => .ok ss
        | none => .error unreadable
      else .error unreadable

/-- The engine of this library. It knows every dialect by name; the text it writes is that of the
target, whichever dialect is asked for. -/
def engine : Engine where
  knows := Dialect.known.contains
  parse := fun text dialect => (read text dialect).map fun ss => ss.map (·.expression)
  transpile := fun text dialect _ => (read text dialect).map fun ss => ss.map (·.text)

end Sql

end SqlConverter
