import SqlConverter.Sql.Token
import SqlConverter.Sql.Vocabulary

namespace SqlConverter.Sql

inductive Tree
  | leaf (token : Token)
  | group (items : List Tree)
  | call (function : String) (arguments : List Tree)
  deriving Inhabited

namespace Token

def keyword? : Token → Option String
  | word text => some (.ofList (Text.upper text.toList))
  | _ => none

def isSymbol (t : Token) (text : String) : Bool := t == symbol text

end Token

/-- The groups that are open, the innermost first, each with its items in reverse. -/
abbrev Open := List (List Tree)

def addTo (t : Tree) : Open → Open
  | items :: outer => (t :: items) :: outer
  | [] => [[t]]

/-- Reads tokens into the open groups; `none` if a parenthesis has no partner. -/
def grow? : Open → List Token → Option (List Tree)
  | [items], [] => some items.reverse
  | _, [] => none
  | groups, .symbol "(" :: rest => grow? ([] :: groups) rest
  | groups, .symbol ")" :: rest =>
    match groups with
    | items :: next :: outer => grow? ((.group items.reverse :: next) :: outer) rest
    | _ => none
  | groups, token :: rest => grow? (addTo (.leaf token) groups) rest

def trees? (tokens : List Token) : Option (List Tree) := grow? [[]] tokens

namespace Tree

def keyword? : Tree → Option String
  | leaf token => token.keyword?
  | _ => none

def isKeyword (t : Tree) (words : List String) : Bool := t.keyword?.any words.contains

def isSymbol (t : Tree) (text : String) : Bool :=
  match t with
  | leaf token => token.isSymbol text
  | _ => false

mutual

/-- Changes every list of items, the inner ones first. -/
def deep (f : List Tree → List Tree) : Tree → Tree
  | leaf token => leaf token
  | group items => group (f (deepEach f items))
  | call function arguments => call function (f (deepEach f arguments))

def deepEach (f : List Tree → List Tree) : List Tree → List Tree
  | [] => []
  | t :: rest => t.deep f :: deepEach f rest

end

/-- Changes the items of a statement and of all groups in it. -/
def everywhere (f : List Tree → List Tree) (items : List Tree) : List Tree := f (deepEach f items)

end Tree

end SqlConverter.Sql
