import SqlConverter.Dialect

namespace SqlConverter

/-- What a statement is, as far as its handling depends on it. -/
inductive Shape
  | create (kind : String)
  | insert
  | definition
  | other
  deriving DecidableEq, Repr, Inhabited

structure SqlUnit where
  shape : Shape
  text : String
  dialect : String
  deriving DecidableEq, Repr, Inhabited

inductive HandlingClass
  | procedure
  | insert
  | ddl
  | generic
  deriving DecidableEq, Repr, Inhabited

/-- The words for a class in a request to the assistant. -/
def HandlingClass.label : HandlingClass → String
  | procedure => "stored procedure"
  | insert => "insert query"
  | ddl => "DDL query"
  | generic => "query"

def HandlingClass.name : HandlingClass → String
  | procedure => "stored_procedure"
  | insert => "insert"
  | ddl => "ddl"
  | generic => "generic"

/-- Creating a procedure comes first, whatever the case of the kind's letters. -/
def Shape.handling : Shape → HandlingClass
  | create kind =>
    if Text.sameLetters kind.toList "PROCEDURE".toList then .procedure else .ddl
  | insert => .insert
  | definition => .ddl
  | other => .generic

def SqlUnit.handling (unit : SqlUnit) : HandlingClass := unit.shape.handling

namespace ProcedureHeader

/-- The group between `CREATE` and the kind may be left out; `OR` must be followed by one of its
two verbs. -/
def kindWord? : List String → Option String
  | "CREATE" :: "OR" :: verb :: rest =>
    if verb = "ALTER" ∨ verb = "REPLACE" then rest.head? else none
  | "CREATE" :: rest => rest.head?
  | _ => none

def isKind (word : String) : Bool := word == "PROC" || word == "PROCEDURE"

/-- Whether a text starts with `CREATE [OR ALTER | OR REPLACE] PROC[EDURE]`, word by word. -/
def opens (text : String) : Bool :=
  (kindWord? ((Text.words text.toList).map fun w => .ofList (Text.upper w))).any isKind

end ProcedureHeader

end SqlConverter
