import SqlConverter.Toml.Value

namespace SqlConverter.Toml

/-- How a table came to be. -/
inductive Origin
  | header
  | implied
  | dotted
  deriving DecidableEq, Repr

inductive Node
  | leaf (value : Value)
  | table (origin : Origin) (entries : List (String × Node))
  | tables (items : List (List (String × Node)))
  deriving Inhabited

abbrev Entries := List (String × Node)

mutual

def Node.value : Node → Value
  | .leaf v => v
  | .table _ entries => .table (values entries)
  | .tables items => .tables (valuesEach items)

def values : List (String × Node) → Table
  | [] => []
  | (key, node) :: rest => (key, node.value) :: values rest

def valuesEach : List (List (String × Node)) → List Table
  | [] => []
  | entries :: rest => values entries :: valuesEach rest

end

namespace Entries

def replace (key : String) (node : Node) (es : Entries) : Entries :=
  es.map fun e => if e.1 == key then (key, node) else e

def without (key : String) (es : Entries) : Entries := es.filter (·.1 != key)

/-- A change of the last of some tables. -/
def changeLast (f : Entries → Option Entries) (items : List Entries) : Option Node := do
  let last ← items.getLast?
  return .tables (items.dropLast ++ [← f last])

/-- Changes the table at a path of headers. Missing tables are implied; of tables that were opened
one by one the last is meant. -/
def within (f : Entries → Option Entries) : List String → Entries → Option Entries
  | [], es => f es
  | key :: path, es =>
    match es.lookup key with
    | none => (within f path []).map fun sub => es ++ [(key, .table .implied sub)]
    | some (.table origin sub) => do return es.replace key (.table origin (← within f path sub))
    | some (.tables items) => do return es.replace key (← changeLast (within f path) items)
    | some (.leaf _) => none

/-- Adds a value under a dotted key. The table that takes it is this one or one made by dotted
keys; on the way there, implied tables may be passed. -/
def insert (v : Value) : List String → Entries → Option Entries
  | [], _ => none
  | [key], es => if (es.lookup key).isSome then none else some (es ++ [(key, .leaf v)])
  | key :: next :: path, es =>
    match es.lookup key with
    | none => do return es ++ [(key, .table .dotted (← insert v (next :: path) []))]
    | some (.table .dotted sub) => do return es.replace key (.table .dotted (← insert v (next :: path) sub))
    | some (.table .implied sub) =>
      if path.isEmpty then none
      else do return es.replace key (.table .implied (← insert v (next :: path) sub))
    | some (.tables items) =>
      if path.isEmpty then none
      else do return es.replace key (← changeLast (insert v (next :: path)) items)
    | some _ => none

/-- Opens a table by its header, which may follow those of its own parts. -/
def openTable (key : String) (es : Entries) : Option Entries :=
  match es.lookup key with
  | none => some (es ++ [(key, .table .header [])])
  | some (.table .implied sub) => some (es.without key ++ [(key, .table .header sub)])
  | some _ => none

/-- Opens one more table of a list of them. -/
def openNext (key : String) (es : Entries) : Option Entries :=
  match es.lookup key with
  | none => some (es ++ [(key, .tables [[]])])
  | some (.tables items) => some (es.replace key (.tables (items ++ [[]])))
  | some _ => none

end Entries

/-- A document as far as it is read: its tables, and the path of the one that is open. -/
structure Section where
  root : Entries
  path : List String

namespace Section

def start : Section := ⟨[], []⟩

def add (s : Section) (key : List String) (v : Value) : Option Section := do
  return { s with root := ← Entries.within (Entries.insert v key) s.path s.root }

def openWith (f : String → Entries → Option Entries) (s : Section) (path : List String) :
    Option Section := do
  return ⟨← Entries.within (f (← path.getLast?)) path.dropLast s.root, path⟩

end Section

end SqlConverter.Toml
