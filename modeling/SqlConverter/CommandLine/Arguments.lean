import SqlConverter.CommandLine.Similarity

namespace SqlConverter.CommandLine

inductive Format
  | text
  | json
  deriving DecidableEq, Repr, Inhabited

inductive Command
  | dialects
  | transpile (sql : Option String)
  | classify (sql : Option String)
  deriving DecidableEq, Repr, Inhabited

structure Arguments where
  sql : Option String := none
  file : Option String := none
  dialect : Option String := none
  model : Option String := none
  endpoint : Option String := none
  timeout : Option Nat := none
  delimited : Bool := false
  config : Option String := none
  format : Format := .text
  verbose : Bool := false
  command : Option Command := none
  deriving DecidableEq, Repr, Inhabited

/-- Why an invocation goes no further than its words. -/
inductive Stop
  | usage (message : String)
  | version
  | help
  deriving DecidableEq, Repr

inductive Key
  | file
  | dialect
  | model
  | endpoint
  | timeout
  | delimited
  | config
  | format
  | verbose
  | version
  | help
  deriving DecidableEq, Repr, Inhabited

def Key.all : List Key :=
  [.file, .dialect, .model, .endpoint, .timeout, .delimited, .config, .format, .verbose, .version,
   .help]

namespace Key

def long : Key → String
  | file => "file"
  | dialect => "dialect"
  | model => "model"
  | endpoint => "endpoint"
  | timeout => "timeout"
  | delimited => "delimited"
  | config => "config"
  | format => "format"
  | verbose => "verbose"
  | version => "version"
  | help => "help"

def short? : Key → Option Char
  | file => some 'f'
  | dialect => some 'd'
  | model => some 'm'
  | config => some 'c'
  | verbose => some 'v'
  | version => some 'V'
  | help => some 'h'
  | _ => none

def takesValue : Key → Bool
  | delimited | verbose | version | help => false
  | _ => true

/-- An option as messages name it. -/
def display (k : Key) : String :=
  if k.takesValue then "--" ++ k.long ++ " <" ++ k.long.toUpper ++ ">" else "--" ++ k.long

def ofLong? (name : String) : Option Key := all.find? (·.long == name)

def ofShort? (c : Char) : Option Key := all.find? (·.short? == some c)

end Key

namespace Stop

def unexpected (word : String) : Stop := usage ("unexpected argument '" ++ word ++ "' found")

def missing (k : Key) : Stop :=
  usage ("a value is required for '" ++ k.display ++ "' but none was supplied")

def invalid (k : Key) (value : String) : String :=
  "invalid value '" ++ value ++ "' for '" ++ k.display ++ "'"

def repeated (k : Key) : Stop :=
  usage ("the argument '" ++ k.display ++ "' cannot be used multiple times")

def conflict (one other : String) : Stop :=
  usage ("the argument '" ++ one ++ "' cannot be used with '" ++ other ++ "'")

end Stop

def maxTimeout : Nat := Nat.pow 2 64 - 1

/-- Reads digits from the left, so that the first fault met is the one reported. -/
def digits? (n : Nat) : List Char → Except String Nat
  | [] => .ok n
  | c :: rest =>
    if c.isDigit then
      let next := n * 10 + (c.toNat - '0'.toNat)
      if next > maxTimeout then .error "number too large to fit in target type"
      else digits? next rest
    else .error "invalid digit found in string"

/-- A number of seconds; a plus sign may stand before it. -/
def seconds? (value : String) : Except String Nat :=
  match value.toList with
  | [] => .error "cannot parse integer from empty string"
  | ['+'] => .error "invalid digit found in string"
  | '+' :: rest => digits? 0 rest
  | cs => digits? 0 cs

def Format.ofName? : String → Option Format
  | "text" => some text
  | "json" => some json
  | _ => none

/-- The arguments with one more option. -/
def Arguments.withOption (a : Arguments) (k : Key) (value : String) : Except Stop Arguments :=
  match k with
  | .file => if value.isEmpty then .error (.missing k) else .ok { a with file := value }
  | .dialect => .ok { a with dialect := value }
  | .model => .ok { a with model := value }
  | .endpoint => .ok { a with endpoint := value }
  | .timeout =>
    match seconds? value with
    | .ok n => .ok { a with timeout := n }
    | .error why => .error (.usage (Stop.invalid k value ++ ": " ++ why))
  | .delimited => .ok { a with delimited := true }
  | .config => if value.isEmpty then .error (.missing k) else .ok { a with config := value }
  | .format =>
    match Format.ofName? value with
    | some f => .ok { a with format := f }
    | none => .error (if value.isEmpty then .missing k else .usage (Stop.invalid k value))
  | .verbose => .ok { a with verbose := true }
  | .version => .error .version
  | .help => .error .help

/-- Words read so far. `held` is an option whose value is still to come or to be looked at, `seen`
what was given, in order: an option by its key, the SQL text by `none`. -/
structure Reading where
  arguments : Arguments := {}
  held : Option (Key × Option String) := none
  seen : List (Option Key) := []
  trailing : Bool := false

namespace Reading

def accept (r : Reading) (k : Key) (value : String) : Except Stop Reading := do
  if r.seen.contains (some k) then .error (.repeated k)
  else return { r with arguments := ← r.arguments.withOption k value, seen := r.seen ++ [some k] }

/-- Looks at the value that is held. -/
def settle (r : Reading) : Except Stop Reading :=
  match r.held with
  | none => .ok r
  | some (k, none) => .error (.missing k)
  | some (k, some value) => { r with held := none }.accept k value

/-- An option with what is attached to it. -/
def option (r : Reading) (k : Key) (attached : Option String) : Except Stop Reading := do
  let r ← r.settle
  match attached with
  | some value => r.accept k value
  | none => if k.takesValue then return { r with held := some (k, none) } else r.accept k ""

/-- A word that starts with two hyphens, without them. -/
def longOption (r : Reading) (body : String) : Except Stop Reading :=
  let name := String.ofList (body.toList.takeWhile (· != '='))
  let value := (body.toList.dropWhile (· != '='))
  let attached := if value.isEmpty then none else some (String.ofList (value.drop 1))
  match Key.ofLong? name with
  | none => .error (.unexpected ("--" ++ name))
  | some k =>
    match k.takesValue, attached with
    | false, some value =>
      .error (.usage ("unexpected value '" ++ value ++ "' for '" ++ k.display ++
        "' found; no more were expected"))
    | _, _ => r.option k attached

/-- The letters behind one hyphen; the first that takes a value takes the rest. -/
def shortOptions (r : Reading) : List Char → Except Stop Reading
  | [] => .ok r
  | c :: rest =>
    match Key.ofShort? c with
    | none => .error (.unexpected (.ofList ['-', c]))
    | some k =>
      if k.takesValue then
        match rest with
        | [] => r.option k none
        | '=' :: value => r.option k (some (.ofList value))
        | value => r.option k (some (.ofList value))
      else do (← r.option k none).shortOptions rest

def commandNames : List String := ["dialects", "transpile", "classify", "help"]

/-- What is said of a word for which there is no place. -/
def unplaced (r : Reading) (word : String) : Stop :=
  if !(r.trailing && commandNames.contains word) &&
      commandNames.any fun name => areAlike word.toList name.toList then
    .usage ("unrecognized subcommand '" ++ word ++ "'")
  else .unexpected word

/-- A word that is no option. -/
def positional (r : Reading) (word : String) : Except Stop Reading := do
  if r.arguments.sql.isSome then .error (r.unplaced word)
  else
    let r ← r.settle
    return { r with arguments := { r.arguments with sql := some word }, seen := r.seen ++ [none] }

end Reading

def isLong (word : String) : Bool := ['-', '-'].isPrefixOf word.toList && word.length > 2

def isShort (word : String) : Bool :=
  ['-'].isPrefixOf word.toList && word.length > 1 && !(['-', '-'].isPrefixOf word.toList)

/-- The options of a command: it has none but a request for help. -/
def commandOption (word : String) : Stop :=
  if word = "--help" then .help
  else if isLong word then .unexpected (.ofList (word.toList.takeWhile (· != '=')))
  else if word.toList[1]? = some 'h' then .help
  else .unexpected (.ofList (word.toList.take 2))

/-- The words behind a command, with the SQL text if the command takes one. -/
def commandWords (takesSql : Bool) (sql : Option String) (trailing : Bool) :
    List String → Except Stop (Option String)
  | [] => .ok sql
  | word :: rest =>
    if !trailing ∧ word = "--" then commandWords takesSql sql true rest
    else if !trailing ∧ (isLong word ∨ isShort word) then .error (commandOption word)
    else if takesSql ∧ sql.isNone then commandWords takesSql (some word) trailing rest
    else .error (.unexpected word)

/-- The command that a word names, with the words behind it. -/
def command? (word : String) (rest : List String) : Option (Except Stop Command) :=
  match word with
  | "dialects" => some ((commandWords false none false rest).map fun _ => .dialects)
  | "transpile" => some ((commandWords true none false rest).map .transpile)
  | "classify" => some ((commandWords true none false rest).map .classify)
  | "help" => some (.error .help)
  | _ => none

/-- Whether a word is taken by the option before it, whatever it names. -/
def Reading.awaits (r : Reading) : Option Key :=
  match r.held with
  | some (k, none) => some k
  | _ => none

def Reading.words (r : Reading) : List String → Except Stop Reading
  | [] => r.settle
  | word :: rest => do
    if r.trailing then (← r.positional word).words rest
    else match (if r.awaits.isSome then none else command? word rest) with
      | some command => do
        let c ← command
        let r ← r.settle
        return { r with arguments := { r.arguments with command := some c } }
      | none =>
        if word = "--" then Reading.words { r with trailing := true } rest
        else if isLong word then (← r.longOption (.ofList (word.toList.drop 2))).words rest
        else if isShort word then (← r.shortOptions (word.toList.drop 1)).words rest
        else match r.awaits with
          | some k => Reading.words { r with held := some (k, some word) } rest
          | none => (← r.positional word).words rest

/-- A file and an SQL text exclude each other; the one given first is named first. -/
def Reading.checked (r : Reading) : Except Stop Arguments :=
  let named := r.seen.filter fun s => s = none ∨ s = some .file
  if named = [some .file, none] then .error (.conflict Key.file.display "[SQL]")
  else if named = [none, some .file] then .error (.conflict "[SQL]" Key.file.display)
  else .ok r.arguments

/-- The model and the endpoint may come from the environment; a flag wins. -/
def Arguments.withEnvironment (environment : String → Option String) (a : Arguments) : Arguments :=
  { a with
    model := a.model <|> environment "S2CONVERT_MODEL"
    endpoint := a.endpoint <|> environment "S2CONVERT_ENDPOINT" }

def Arguments.parse (environment : String → Option String) (words : List String) :
    Except Stop Arguments := do
  return (← (← ({} : Reading).words words).checked).withEnvironment environment

end SqlConverter.CommandLine
