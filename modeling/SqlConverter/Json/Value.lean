import SqlConverter.Json.Literal

namespace SqlConverter.Json

inductive Value
  | null
  | bool (b : Bool)
  | number
  | string (text : Option String)
  | array (items : List Value)
  | object (members : List (Option String × Value))
  deriving Inhabited

def Value.text (s : String) : Value := .string (some s)

/-- An object whose keys are texts. -/
def Value.record (members : List (String × Value)) : Value :=
  .object (members.map fun (key, v) => (some key, v))

/-- A string without a text is written as a surrogate that stands alone. -/
def literal : Option String → List Char
  | some s => quoted s.toList
  | none => ['"', '\\', 'u', 'd', '8', '0', '0', '"']

/-- What is written between brackets, items and after colons. -/
structure Style where
  /-- After an opening bracket and after each comma, at a depth. -/
  newline : Nat → List Char
  /-- After a colon. -/
  gap : List Char

def Style.compact : Style := ⟨fun _ => [], []⟩

/-- Each item stands on a line of its own, two blanks further in than its bracket. -/
def Style.indented : Style := ⟨fun depth => '\n' :: List.replicate (2 * depth) ' ', [' ']⟩

mutual

def Value.write (style : Style) (depth : Nat) : Value → List Char
  | .null => ['n', 'u', 'l', 'l']
  | .bool true => ['t', 'r', 'u', 'e']
  | .bool false => ['f', 'a', 'l', 's', 'e']
  | .number => ['0']
  | .string text => literal text
  | .array [] => ['[', ']']
  | .array (v :: vs) =>
    '[' :: style.newline (depth + 1) ++ v.write style (depth + 1) ++
      writeItems style (depth + 1) vs ++ style.newline depth ++ [']']
  | .object [] => ['{', '}']
  | .object ((key, v) :: rest) =>
    '{' :: style.newline (depth + 1) ++ literal key ++ ':' :: style.gap ++
      v.write style (depth + 1) ++ writeMembers style (depth + 1) rest ++
      style.newline depth ++ ['}']

/-- The items after the first, each with its comma. -/
def writeItems (style : Style) (depth : Nat) : List Value → List Char
  | [] => []
  | v :: rest => ',' :: style.newline depth ++ v.write style depth ++ writeItems style depth rest

/-- The members after the first, each with its comma. -/
def writeMembers (style : Style) (depth : Nat) : List (Option String × Value) → List Char
  | [] => []
  | (key, v) :: rest =>
    ',' :: style.newline depth ++ literal key ++ ':' :: style.gap ++ v.write style depth ++
      writeMembers style depth rest

end

def Value.compact (v : Value) : String := .ofList (v.write .compact 0)

def Value.indented (v : Value) : String := .ofList (v.write .indented 0)

end SqlConverter.Json
