import SqlConverter.Sql.Statement

namespace SqlConverter.Sql

namespace Rule

/-- One sign for "differs", and one for a change of type. -/
def signs (items : List Tree) : List Tree :=
  items.map fun t =>
    if t.isSymbol "!=" then .leaf (.symbol "<>")
    else if t.isSymbol "::" then .leaf (.symbol ":>")
    else t

def functionName (text : String) : String :=
  let name := String.ofList (Text.upper text.toList)
  (renamedFunctions.lookup name).getD name

/-- Whether a word in front of a group names a table and not a function. -/
def namesTable (definition : Bool) (before : Option Tree) : Bool :=
  before.any fun t =>
    t.isKeyword tableWords || (definition && t.isKeyword ["ON", "EXISTS", "INDEX"]) ||
      t.isKeyword ["WITH", "RECURSIVE"]

def isReserved (definition : Bool) (word : String) : Bool :=
  queryWords.contains word || (definition && definitionWords.contains word)

/-- Words behind which a routine is named, in its own letters. -/
def routineWords : List String := ["FUNCTION", "PROCEDURE", "CALL", "EXEC", "EXECUTE"]

def reservedFunctions : List String := ["LEFT", "RIGHT", "REPLACE", "IF"]

/-- Joins a function and its arguments. The name may have others and points before it. -/
def calls (definition : Bool) (before : Option Tree) : List Tree → List Tree
  | .leaf (.word text) :: .group arguments :: rest =>
    let word := String.ofList (Text.upper text.toList)
    let dotted := before.any (·.isSymbol ".")
    if word = "EXISTS" ∨ (!dotted ∧ reservedFunctions.contains word) then
      .call word arguments :: calls definition (some (.group arguments)) rest
    else if dotted ∨ isReserved definition word ∨ namesTable definition before then
      .leaf (.word text) :: .group arguments :: calls definition (some (.group arguments)) rest
    else if definition ∧ before.any (·.isKeyword routineWords) then
      .call text arguments :: calls definition (some (.group arguments)) rest
    else .call (functionName text) arguments :: calls definition (some (.group arguments)) rest
  | t :: rest => t :: calls definition (some t) rest
  | [] => []

/-- Whether a list of items is one operand without operators. -/
def isSimple (items : List Tree) : Bool :=
  items.all fun t =>
    match t with
    | .leaf (.symbol text) => text == "."
    | .leaf (.word text) => !queryWords.contains (String.ofList (Text.upper text.toList))
    | _ => true

def capitals (words : List String) (t : Tree) : Tree :=
  match t.keyword? with
  | some word => if words.contains word then .leaf (.word word) else t
  | none => t

/-- `CAST(a AS T)` as `a :> T`. -/
def casts (items : List Tree) : List Tree :=
  items.flatMap fun t =>
    match t with
    | .call "CAST" arguments =>
      let value := arguments.takeWhile fun a => !a.isKeyword ["AS"]
      let type := (arguments.dropWhile fun a => !a.isKeyword ["AS"]).drop 1
      (if isSimple value then value else [.group value]) ++
        .leaf (.symbol ":>") :: type.map (capitals typeWords)
    | _ => [t]

def unwrapped : Tree → List Tree
  | .group items => items
  | t => [t]

def isSetOperator (t : Tree) : Bool := t.isKeyword ["UNION", "EXCEPT", "INTERSECT"]

/-- Puts a limit behind a query, before the next one that is combined with it. -/
def withLimit (limit items : List Tree) : List Tree :=
  items.takeWhile (!isSetOperator ·) ++ .leaf (.word "LIMIT") :: limit ++
    items.dropWhile (!isSetOperator ·)

/-- What follows `SELECT`, with a count behind `TOP` moved to the end. -/
def limited (items : List Tree) : List Tree :=
  let modifiers := items.takeWhile (·.isKeyword ["DISTINCT", "ALL"])
  match items.drop modifiers.length with
  | top :: count :: rest =>
    if top.isKeyword ["TOP"] then modifiers ++ withLimit (unwrapped count) rest else items
  | _ => items

/-- `SELECT TOP n …` as `SELECT … LIMIT n`. -/
def topToLimit : List Tree → List Tree
  | [] => []
  | t :: rest =>
    if t.isKeyword ["SELECT"] then t :: limited (topToLimit rest) else t :: topToLimit rest

def isName : Tree → Bool
  | .leaf (.word text) => !queryWords.contains (String.ofList (Text.upper text.toList))
  | .leaf (.name _) => true
  | _ => false

/-- Whether an operand can end with an item. -/
def endsOperand : Tree → Bool
  | .leaf (.symbol _) => false
  | .leaf (.word text) =>
    let word := String.ofList (Text.upper text.toList)
    !queryWords.contains word || valueWords.contains word
  | _ => true

/-- Another name for an operand, with `AS` before it. -/
def renamings : List Tree → List Tree
  | t :: next :: rest =>
    if endsOperand t ∧ isName next then t :: .leaf (.word "AS") :: renamings (next :: rest)
    else t :: renamings (next :: rest)
  | items => items

/-- Types in capitals where they follow a name. -/
def types (before : Option Tree) : List Tree → List Tree
  | [] => []
  | t :: rest =>
    let named := before.any fun b =>
      match b with
      | .leaf (.symbol text) => text == ":>"
      | .leaf (.word _) | .leaf (.name _) | .leaf (.variable _) => true
      | _ => false
    match t with
    | .call function arguments =>
      .call function arguments :: types (some t) rest
    | _ => (if named then capitals typeWords t else t) :: types (some t) rest

/-- Reserved words in capitals, but not behind a point. -/
def reserved (words : List String) (before : Option Tree) : List Tree → List Tree
  | [] => []
  | t :: rest =>
    (if before.any (·.isSymbol ".") then t else capitals words t) :: reserved words (some t) rest

end Rule

/-- A query or a change of data, in the words of the target. -/
def adaptedQuery (items : List Tree) : List Tree :=
  let items := Tree.everywhere Rule.signs items
  let items := Tree.everywhere (Rule.calls false none) items
  let items := Tree.everywhere Rule.casts items
  let items := Tree.everywhere Rule.topToLimit items
  let items := Tree.everywhere Rule.renamings items
  Tree.everywhere (Rule.reserved queryWords none) items

/-- Any other statement: only its words are changed. -/
def adaptedDefinition (items : List Tree) : List Tree :=
  let items := Tree.everywhere Rule.signs items
  let items := Tree.everywhere (Rule.calls true none) items
  let items := Tree.everywhere (Rule.types none) items
  Tree.everywhere (Rule.reserved (queryWords ++ definitionWords) none) items

def isQuery (items : List Tree) : Bool :=
  match items with
  | t :: _ => t.isKeyword queryOpenings || (frontWords items).isEmpty
  | [] => false

def adapted (items : List Tree) : List Tree :=
  if isQuery items then adaptedQuery items else adaptedDefinition items

def quotedName (text : String) : String :=
  .ofList ('`' :: text.toList.flatMap (fun c => if c = '`' then [c, c] else [c]) ++ ['`'])

def Token.text : Token → String
  | .word text | .number text | .variable text | .symbol text => text
  | .name text => quotedName text
  | .string text => "'" ++ text ++ "'"

/-- No blank stands before a comma or around a point. -/
def hugsLeft (t : Tree) : Bool := t.isSymbol "," || t.isSymbol "."

/-- Whether a minus or plus sign at this place belongs to the number behind it. -/
def isUnary (before : Option Tree) (t : Tree) : Bool :=
  (t.isSymbol "-" || t.isSymbol "+") && !before.any Rule.endsOperand

mutual

def Tree.text : Tree → String
  | .leaf token => token.text
  | .group items => "(" ++ line none true items ++ ")"
  | .call function arguments => function ++ "(" ++ line none true arguments ++ ")"

/-- Items in a row; `tight` is set where no blank comes before the first. -/
def line (before : Option Tree) (tight : Bool) : List Tree → String
  | [] => ""
  | t :: rest =>
    (if tight || hugsLeft t then "" else " ") ++ t.text ++
      line (some t) (t.isSymbol "." || isUnary before t) rest

end

/-- Lexemes as they were written, one blank for each gap. -/
def asWritten : List Lexeme → String
  | [] => ""
  | [l] => l.source
  | l :: next :: rest => l.source ++ (if next.spaced then " " else "") ++ asWritten (next :: rest)

def Statement.text (s : Statement) : String :=
  match s.trees with
  | some items => line none true (adapted items)
  | none => asWritten s.lexemes

end SqlConverter.Sql
