import SqlConverter.Toml.Literal
import SqlConverter.Toml.Scalar
import SqlConverter.Toml.Section
import SqlConverter.Text.Utf8

namespace SqlConverter.Toml

/-- How deep arrays and inline tables may nest, and how many parts a key may have. -/
def depthLimit : Nat := 79

def skipComment : List Char → Option (List Char)
  | '#' :: rest =>
    let after := rest.dropWhile isPlain
    if after.isEmpty ∨ after.head? = some '\n' then some after else none
  | cs => some cs

/-- Blanks, line ends and comments between the items of an array. -/
def skipLines (fuel : Nat) (cs : List Char) : Option (List Char) :=
  match fuel with
  | 0 => none
  | fuel + 1 => do
    match ← skipComment (skipInline cs) with
    | '\n' :: rest => skipLines fuel rest
    | rest => some rest

def keyOf? (cs : List Char) : Option (List String × List Char) := do
  let (key, rest) ← key? (cs.length + 1) cs
  if key.length > depthLimit then none else some (key, rest)

mutual

/-- A value; `depth` counts the arrays and inline tables that may still be opened. -/
def value? (fuel depth : Nat) (cs : List Char) : Option (Value × List Char) :=
  match fuel with
  | 0 => none
  | fuel + 1 =>
    match cs with
    | '[' :: rest =>
      if depth = 0 then none
      else (items? fuel (depth - 1) rest).map fun (vs, rest) => (.array vs, rest)
    | '{' :: rest =>
      if depth = 0 then none
      else match skipInline rest with
        | '}' :: rest => some (.table [], rest)
        | _ => (members? fuel (depth - 1) [] rest).map fun (es, rest) => (.table (values es), rest)
    | '"' :: _ => (string? cs).map fun (text, rest) => (.string text, rest)
    | '\'' :: _ => (string? cs).map fun (text, rest) => (.string text, rest)
    | _ => (scalar? (scalarRun cs).1).map fun v => (v, (scalarRun cs).2)

/-- The items of an array and its closing bracket; a comma may stand behind the last item. -/
def items? (fuel depth : Nat) (cs : List Char) : Option (List Value × List Char) :=
  match fuel with
  | 0 => none
  | fuel + 1 => do
    match ← skipLines (cs.length + 1) cs with
    | ']' :: rest => some ([], rest)
    | cs => do
      let (v, rest) ← value? fuel depth cs
      match ← skipLines (rest.length + 1) rest with
      | ',' :: rest => (items? fuel depth rest).map fun (vs, rest) => (v :: vs, rest)
      | ']' :: rest => some ([v], rest)
      | _ => none

/-- The entries of an inline table, at least one, and its closing brace, all on one line. -/
def members? (fuel depth : Nat) (read : Entries) (cs : List Char) :
    Option (Entries × List Char) :=
  match fuel with
  | 0 => none
  | fuel + 1 => do
    let (key, rest) ← keyOf? cs
    match rest with
    | '=' :: rest => do
      let (v, rest) ← value? fuel depth (skipInline rest)
      let read ← read.insert v key
      match skipInline rest with
      | ',' :: rest => members? fuel depth read rest
      | '}' :: rest => some (read, rest)
      | _ => none
    | _ => none

end

/-- The end of a line behind what it holds, and the lines after it. -/
def lineEnd? (cs : List Char) : Option (List Char) := do
  match ← skipComment (skipInline cs) with
  | [] => some []
  | '\n' :: rest => some rest
  | _ => none

/-- An entry `key = value`. -/
def entry? (s : Section) (cs : List Char) : Option (Section × List Char) := do
  let (key, rest) ← keyOf? cs
  match rest with
  | '=' :: rest => do
    let (v, rest) ← value? (2 * rest.length + 2) depthLimit (skipInline rest)
    return (← s.add key v, rest)
  | _ => none

def line? (s : Section) (cs : List Char) : Option (Section × List Char) :=
  match cs with
  | '[' :: '[' :: rest => do
    let (path, rest) ← keyOf? rest
    match rest with
    | ']' :: ']' :: rest => return (← s.openWith Entries.openNext path, rest)
    | _ => none
  | '[' :: rest => do
    let (path, rest) ← keyOf? rest
    match rest with
    | ']' :: rest => return (← s.openWith Entries.openTable path, rest)
    | _ => none
  | c :: _ => if c = '#' ∨ c = '\n' then some (s, cs) else entry? s cs
  | [] => some (s, [])

def document? (fuel : Nat) (s : Section) (cs : List Char) : Option Section :=
  match fuel with
  | 0 => none
  | fuel + 1 =>
    if cs.isEmpty then some s
    else do
      let (s, rest) ← line? s (skipInline cs)
      document? fuel s (← lineEnd? rest)

/-- The table that a document spells; a mark of byte order may stand in front. -/
def read? (text : String) : Option Table := do
  let cs := singleLineEnds (Text.Utf8.dropMark text.toList)
  return values (← document? (cs.length + 1) Section.start cs).root

/-- A reader of documents: the table that one spells, or what is wrong with it. -/
abbrev Parser := String → Except String Table

/-- No key stands twice in a table that is read. -/
def Parser.Distinct (parser : Parser) : Prop :=
  ∀ text table, parser text = .ok table → (table.map Prod.fst).Nodup

/-- The reader at hand, which says the same of all texts that it cannot read. -/
def parser (said : String) : Parser := fun text =>
  match read? text with
  | some table => .ok table
  | none => .error said

end SqlConverter.Toml
