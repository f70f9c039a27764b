import SqlConverter.Text.Words

namespace SqlConverter.Sql

inductive Token
  | word (text : String)
  | name (text : String)
  | string (text : String)
  | number (text : String)
  | variable (text : String)
  | symbol (text : String)
  deriving DecidableEq, Repr, Inhabited

/-- A token, its text as written, and whether a gap stood before it. -/
structure Lexeme where
  token : Token
  source : String
  spaced : Bool
  deriving DecidableEq, Repr, Inhabited

/-- What quotes a name in a dialect. -/
structure Quoting where
  brackets : Bool
  backticks : Bool
  doubleQuotes : Bool
  backslashes : Bool

def bracketDialects : List String := ["tsql", "fabric", "sqlite"]

def backtickDialects : List String :=
  ["mysql", "singlestore", "bigquery", "hive", "spark", "databricks", "doris", "starrocks", "tidb",
   "clickhouse", "drill", "sqlite"]

/-- Where double quotes, like single ones, enclose strings. -/
def doubleStringDialects : List String :=
  ["mysql", "singlestore", "bigquery", "hive", "spark", "databricks", "doris", "starrocks", "tidb"]

def Quoting.ofDialect (dialect : String) : Quoting where
  brackets := bracketDialects.contains dialect
  backticks := backtickDialects.contains dialect
  doubleQuotes := !doubleStringDialects.contains dialect
  backslashes := doubleStringDialects.contains dialect

def isWordStart (c : Char) : Bool :=
  c.isAlpha || c == '_' || c == '#' || (c.toNat ≥ 0x80 && !Text.isBlank c)

def isWordChar (c : Char) : Bool := isWordStart c || c.isDigit || c == '$'

def pairSymbols : List (Char × Char) :=
  [('<', '>'), ('!', '='), ('<', '='), ('>', '='), ('|', '|'), (':', ':'), (':', '>'), ('-', '>')]

/-- The text up to a closing quote, which is written twice to stand for itself, and what follows. -/
def enclosed? (backslashes : Bool) (close : Char) : List Char → Option (List Char × List Char)
  | [] => none
  | [c] => if c = close then some ([], []) else none
  | c :: d :: rest =>
    if c = close then
      if d = close then
        (enclosed? backslashes close rest).map fun (text, rest) => (c :: d :: text, rest)
      else some ([], d :: rest)
    else if backslashes ∧ c = '\\' then
      (enclosed? backslashes close rest).map fun (text, rest) => (c :: d :: text, rest)
    else (enclosed? backslashes close (d :: rest)).map fun (text, rest) => (c :: text, rest)

/-- A text in which a doubled quote stands for one. -/
def undoubled (close : Char) : List Char → List Char
  | c :: d :: rest =>
    if c = close ∧ d = close then c :: undoubled close rest else c :: undoubled close (d :: rest)
  | cs => cs

def afterBlockComment? : List Char → Option (List Char)
  | '*' :: '/' :: rest => some rest
  | _ :: rest => afterBlockComment? rest
  | [] => none

/-- What stands at the front of a text. -/
inductive Front
  | gap (rest : List Char)
  | token (token : Token) (rest : List Char)
  | broken

def stringFront (backslashes : Bool) (quote : Char) (rest : List Char) : Front :=
  match enclosed? backslashes quote rest with
  | some (text, rest) => .token (.string (.ofList (if quote = '\'' then text else undoubled quote text))) rest
  | none => .broken

def nameFront (close : Char) (rest : List Char) : Front :=
  match enclosed? false close rest with
  | some (text, rest) => .token (.name (.ofList (undoubled close text))) rest
  | none => .broken

def isExponent (c : Char) : Bool := c == 'e' || c == 'E'

/-- Digits, a point and more digits, and an exponent, as far as they go. -/
def numberFront (cs : List Char) : Front :=
  let whole := cs.takeWhile Char.isDigit
  let rest := cs.dropWhile Char.isDigit
  let fraction := if rest.head? = some '.' then '.' :: (rest.drop 1).takeWhile Char.isDigit else []
  let rest := rest.drop fraction.length
  let signed := (rest.drop 1).head?.any fun c => c == '+' || c == '-'
  let digits := ((rest.drop (if signed then 2 else 1)).takeWhile Char.isDigit).length
  let exponent :=
    if rest.head?.any isExponent ∧ 0 < digits then rest.take ((if signed then 2 else 1) + digits)
    else []
  .token (.number (.ofList (whole ++ fraction ++ exponent))) (rest.drop exponent.length)

def wordFront (cs : List Char) : Front :=
  .token (.word (.ofList (cs.takeWhile isWordChar))) (cs.dropWhile isWordChar)

def front (q : Quoting) : List Char → Front
  | [] => .broken
  | '-' :: '-' :: rest => .gap (rest.dropWhile (· != '\n'))
  | '/' :: '*' :: rest =>
    match afterBlockComment? rest with
    | some rest => .gap rest
    | none => .broken
  | '\'' :: rest => stringFront q.backslashes '\'' rest
  | '"' :: rest => if q.doubleQuotes then nameFront '"' rest else stringFront q.backslashes '"' rest
  | 'N' :: '\'' :: rest => stringFront q.backslashes '\'' rest
  | 'n' :: '\'' :: rest => stringFront q.backslashes '\'' rest
  | c :: rest =>
    if Text.isBlank c then .gap (rest.dropWhile Text.isBlank)
    else if c = '[' ∧ q.brackets then nameFront ']' rest
    else if c = '`' then if q.backticks then nameFront '`' rest else .broken
    else if c = '@' then
      let more := rest.takeWhile fun d => isWordChar d || d == '@'
      .token (.variable (.ofList (c :: more))) (rest.drop more.length)
    else if c.isDigit ∨ (c = '.' ∧ rest.head?.any Char.isDigit) then numberFront (c :: rest)
    else if isWordStart c then wordFront (c :: rest)
    else match rest with
      | d :: more =>
        if pairSymbols.contains (c, d) then .token (.symbol (.ofList [c, d])) more
        else .token (.symbol (.singleton c)) rest
      | [] => .token (.symbol (.singleton c)) []

/-- The tokens of a text; every step takes a character at least, so that its length is fuel
enough. -/
def scan? (q : Quoting) (fuel : Nat) (spaced : Bool) (cs : List Char) : Option (List Lexeme) :=
  match fuel with
  | 0 => none
  | fuel + 1 =>
    if cs.isEmpty then some []
    else match front q cs with
      | .broken => none
      | .gap rest => scan? q fuel true rest
      | .token token rest =>
        let written := cs.take (cs.length - rest.length)
        (scan? q fuel false rest).map (⟨token, .ofList written, spaced⟩ :: ·)

def lexemes? (dialect text : String) : Option (List Lexeme) :=
  scan? (Quoting.ofDialect dialect) (text.length + 1) false text.toList

end SqlConverter.Sql
