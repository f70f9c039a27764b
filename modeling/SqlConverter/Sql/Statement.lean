import SqlConverter.Sql.Tree

namespace SqlConverter.Sql

inductive ObjectKind
  | procedure
  | table
  | view
  | index
  | schema
  | namespace_
  | database
  | function
  | sequence
  | trigger
  | type
  deriving DecidableEq, Repr, Inhabited

def ObjectKind.word : ObjectKind → String
  | procedure => "PROCEDURE"
  | table => "TABLE"
  | view => "VIEW"
  | index => "INDEX"
  | schema => "SCHEMA"
  | namespace_ => "NAMESPACE"
  | database => "DATABASE"
  | function => "FUNCTION"
  | sequence => "SEQUENCE"
  | trigger => "TRIGGER"
  | type => "TYPE"

def ObjectKind.all : List ObjectKind :=
  [.procedure, .table, .view, .index, .schema, .namespace_, .database, .function, .sequence,
   .trigger, .type]

def ObjectKind.ofWord? (word : String) : Option ObjectKind := all.find? (·.word == word)

/-- What an engine says of a statement. A command is one that it keeps without looking into. -/
inductive Expression
  | create (kind : ObjectKind)
  | drop (kind : ObjectKind)
  | alter (kind : ObjectKind)
  | truncate
  | insert
  | command (text : String)
  | other
  deriving DecidableEq, Repr, Inhabited

/-- Words that may stand between `CREATE` and the kind. -/
def creationModifiers : List String := ["TEMPORARY", "UNIQUE", "MATERIALIZED"]

/-- How a statement that creates a procedure opens. -/
inductive Opening
  | procedure
  | alteredProcedure
  | plain
  deriving DecidableEq, Repr

def Opening.ofWords : List String → Opening
  | "CREATE" :: "OR" :: "ALTER" :: kind :: _ =>
    if kind = "PROC" ∨ kind = "PROCEDURE" then alteredProcedure else plain
  | "CREATE" :: "OR" :: "REPLACE" :: kind :: _ =>
    if kind = "PROC" ∨ kind = "PROCEDURE" then procedure else plain
  | "CREATE" :: kind :: _ => if kind = "PROC" ∨ kind = "PROCEDURE" then procedure else plain
  | _ => plain

/-- The words at the front of a statement, in capitals. -/
def leadingWords : List Lexeme → List String
  | [] => []
  | l :: rest =>
    match l.token.keyword? with
    | some word => word :: leadingWords rest
    | none => []

def isSemicolon (l : Lexeme) : Bool := l.token.isSymbol ";"

/-- The pieces between semicolons, empty ones left out. -/
def pieces : List Lexeme → List (List Lexeme)
  | [] => []
  | l :: rest =>
    if isSemicolon l then pieces rest
    else match rest with
      | [] => [[l]]
      | next :: _ =>
        if isSemicolon next then [l] :: pieces rest else (pieces rest).modifyHead (l :: ·)

def withoutFinalSemicolons (ls : List Lexeme) : List Lexeme :=
  (ls.reverse.dropWhile isSemicolon).reverse

def statements (ls : List Lexeme) : List (List Lexeme) :=
  let ls := ls.dropWhile isSemicolon
  match Opening.ofWords (leadingWords ls) with
  | .plain => pieces ls
  | _ => [withoutFinalSemicolons ls]

def createdKind? : List String → Option ObjectKind
  | "OR" :: "REPLACE" :: rest => createdKind? rest
  | word :: rest =>
    if word = "PROC" then some .procedure
    else match ObjectKind.ofWord? word with
      | some .namespace_ => none
      | some kind => some kind
      | none => if creationModifiers.contains word then createdKind? rest else none
  | [] => none

def droppedKind? : List String → Option ObjectKind
  | "MATERIALIZED" :: rest => droppedKind? rest
  | word :: _ => ObjectKind.ofWord? word
  | [] => none

/-- The statement behind the tables that `WITH` names. -/
def mainWord? (items : List Tree) : Option String :=
  items.findSome? fun t => t.keyword?.filter ["SELECT", "INSERT", "UPDATE", "DELETE", "MERGE"].contains

def frontWords : List Tree → List String
  | [] => []
  | t :: rest =>
    match t.keyword? with
    | some word => word :: frontWords rest
    | none => []

def expression (items : List Tree) : Expression :=
  match frontWords items with
  | "CREATE" :: rest => ((createdKind? rest).map .create).getD .other
  | "DROP" :: rest => ((droppedKind? rest).map .drop).getD .other
  | "ALTER" :: word :: _ => ((ObjectKind.ofWord? word).map .alter).getD .other
  | "TRUNCATE" :: _ => .truncate
  | "INSERT" :: _ => .insert
  | "REPLACE" :: "INTO" :: _ => .insert
  | "WITH" :: _ => if mainWord? items = some "INSERT" then .insert else .other
  | _ => .other

/-- Whether a token can follow a name at the front of a bare expression. -/
def continuesExpression : List Tree → Bool
  | [] => true
  | .group _ :: _ => true
  | .leaf (.symbol _) :: _ => true
  | _ => false

/-- A statement opens with a word that opens statements, or it is an expression by itself. -/
def isReadable (items : List Tree) : Bool :=
  match items with
  | [] => false
  | [t] => !t.isKeyword ["DROP"]
  | t :: rest =>
    match t.keyword? with
    | some word => statementOpenings.contains word || continuesExpression rest
    | none => true

/-- A statement that was read: its lexemes, and its trees unless it is kept as it stands. -/
structure Statement where
  expression : Expression
  lexemes : List Lexeme
  trees : Option (List Tree)
  deriving Inhabited

/-- Reads one statement. A procedure that may be altered is not looked into, so that its
parentheses need not pair. -/
def Statement.read? (ls : List Lexeme) : Option Statement := do
  match Opening.ofWords (leadingWords ls) with
  | .alteredProcedure => return ⟨.other, ls, none⟩
  | .procedure =>
    let _ ← trees? (ls.map (·.token))
    return ⟨.create .procedure, ls, none⟩
  | .plain =>
    let items ← trees? (ls.map (·.token))
    if isReadable items then return ⟨Sql.expression items, ls, some items⟩ else none

end SqlConverter.Sql
