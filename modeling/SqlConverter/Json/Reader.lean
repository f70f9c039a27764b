import SqlConverter.Json.Value

namespace SqlConverter.Json

def isSpace (c : Char) : Bool := c == ' ' || c == '\t' || c == '\n' || c == '\r'

def skipSpace (cs : List Char) : List Char := cs.dropWhile isSpace

def afterDigits? : List Char → Option (List Char)
  | [] => none
  | c :: rest => if c.isDigit then some (rest.dropWhile Char.isDigit) else none

/-- One zero, or digits that do not start with it. -/
def afterInteger? : List Char → Option (List Char)
  | '0' :: rest => some rest
  | cs => afterDigits? cs

def afterFraction? : List Char → Option (List Char)
  | '.' :: rest => afterDigits? rest
  | cs => some cs

def afterSign : List Char → List Char
  | '+' :: rest => rest
  | '-' :: rest => rest
  | cs => cs

def afterExponent? : List Char → Option (List Char)
  | 'e' :: rest => afterDigits? (afterSign rest)
  | 'E' :: rest => afterDigits? (afterSign rest)
  | cs => some cs

def afterNumber? (cs : List Char) : Option (List Char) :=
  let unsigned := match cs with
    | '-' :: rest => rest
    | cs => cs
  afterInteger? unsigned >>= afterFraction? >>= afterExponent?

/-- A string whose opening quote has been read. -/
def string? (cs : List Char) : Option (Option String × List Char) :=
  (units? cs).map fun (us, rest) => ((ofUnits? us).map String.ofList, rest)

/-- Reads `cs` up to the end of a word that is known. -/
def afterWord? (word cs : List Char) : Option (List Char) :=
  if word.isPrefixOf cs then some (cs.drop word.length) else none

mutual

/-- A value, of which `fuel` bounds the readings one inside the other. -/
def value? (fuel : Nat) (cs : List Char) : Option (Value × List Char) :=
  match fuel with
  | 0 => none
  | fuel + 1 =>
    match skipSpace cs with
    | '"' :: rest => (string? rest).map fun (text, rest) => (.string text, rest)
    | '[' :: rest =>
      match skipSpace rest with
      | ']' :: rest => some (.array [], rest)
      | _ => (items? fuel rest).map fun (vs, rest) => (.array vs, rest)
    | '{' :: rest =>
      match skipSpace rest with
      | '}' :: rest => some (.object [], rest)
      | _ => (members? fuel rest).map fun (ms, rest) => (.object ms, rest)
    | 'n' :: rest => (afterWord? ['u', 'l', 'l'] rest).map (.null, ·)
    | 't' :: rest => (afterWord? ['r', 'u', 'e'] rest).map (.bool true, ·)
    | 'f' :: rest => (afterWord? ['a', 'l', 's', 'e'] rest).map (.bool false, ·)
    | cs => (afterNumber? cs).map (.number, ·)

/-- One item or more, and the bracket that closes them. -/
def items? (fuel : Nat) (cs : List Char) : Option (List Value × List Char) :=
  match fuel with
  | 0 => none
  | fuel + 1 => do
    let (v, rest) ← value? fuel cs
    match skipSpace rest with
    | ',' :: rest => (items? fuel rest).map fun (vs, rest) => (v :: vs, rest)
    | ']' :: rest => some ([v], rest)
    | _ => none

/-- One member or more, and the brace that closes them. -/
def members? (fuel : Nat) (cs : List Char) : Option (List (Option String × Value) × List Char) :=
  match fuel with
  | 0 => none
  | fuel + 1 =>
    match skipSpace cs with
    | '"' :: rest => do
      let (key, rest) ← string? rest
      match skipSpace rest with
      | ':' :: rest => do
        let (v, rest) ← value? fuel rest
        match skipSpace rest with
        | ',' :: rest => (members? fuel rest).map fun (ms, rest) => ((key, v) :: ms, rest)
        | '}' :: rest => some ([(key, v)], rest)
        | _ => none
      | _ => none
    | _ => none

end

/-- Each bracket and each comma takes a character, so that twice the length is fuel enough. -/
def fuelFor (cs : List Char) : Nat := 2 * cs.length + 2

def read? (text : String) : Option Value := do
  let (v, rest) ← value? (fuelFor text.toList) text.toList
  if (skipSpace rest).isEmpty then some v else none

def valuesAt (key : String) (members : List (Option String × Value)) : List Value :=
  (members.filter fun m => m.1 == some key).map (·.2)

/-- The value under a key that stands exactly once. -/
def only? (key : String) (members : List (Option String × Value)) : Option Value :=
  match valuesAt key members with
  | [v] => some v
  | _ => none

/-- The values under known keys, each of which stands exactly once; the keys that are not known
need only be texts. -/
def fields? (keys : List String) : Value → Option (List Value)
  | .object members =>
    if members.all (·.1.isSome) then keys.mapM (only? · members) else none
  | .array items => if items.length = keys.length then some items else none
  | _ => none

end SqlConverter.Json
