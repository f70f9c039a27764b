import SqlConverter.Config.Basic
import SqlConverter.Text.Utf8
import SqlConverter.Text.Visible
import SqlConverter.Toml.Reader

namespace SqlConverter

/-- What is found under a path. A file may be there and not be given to read, with a reason. -/
inductive FileState
  | absent
  | notDirectory
  | directory
  | locked (reason : String)
  | contents (bytes : Text.Bytes)
  deriving DecidableEq, Repr

namespace FileState

def isThere : FileState → Bool
  | absent | notDirectory => false
  | directory | locked _ | contents _ => true

def text : FileState → Except ReadError String
  | absent => .error .notFound
  | notDirectory => .error .notDirectory
  | directory => .error .isDirectory
  | locked reason => .error (.other reason)
  | contents bytes =>
    match Text.Utf8.decode? bytes with
    | some s => .ok s
    | none => .error .notUtf8

end FileState

namespace Config

open Toml (Value)

/-- How a value is named when another type was wanted. -/
def found : Value → String
  | .string s => "string " ++ Text.visible s
  | .integer n => "integer `" ++ toString n ++ "`"
  | .float x => "floating point `" ++ x.text ++ "`"
  | .boolean b => "boolean `" ++ toString b ++ "`"
  | .array _ | .tables _ => "sequence"
  | .table _ | .moment => "map"

def wrongType (v : Value) (wanted : String) : String :=
  "invalid type: " ++ found v ++ ", expected " ++ wanted

def textOf : Value → Except String String
  | .string s => .ok s
  | v => .error (wrongType v "a string")

def secondsOf : Value → Except String Nat
  | .integer n =>
    if n < 0 then .error ("invalid value: " ++ found (.integer n) ++ ", expected u64")
    else .ok n.toNat
  | v => .error (wrongType v "u64")

def strategyNamed (name : String) : Except String Strategy :=
  match Strategy.ofName? name with
  | some s => .ok s
  | none => .error ("unknown variant `" ++ name ++ "`, expected `assistant` or `delimited`")

/-- Under the name of a strategy nothing may stand. -/
def nothing : Value → Except String Unit
  | .table [] | .array [] => .ok ()
  | .table _ | .array _ => .error "expected empty table"
  | .tables _ => .error "expected empty array"
  | v => .error ("expected table, found " ++ v.kind)

/-- A strategy is its name, or a table with its name for the only key. -/
def strategyOf : Value → Except String Strategy
  | .string name => strategyNamed name
  | .table [] => .error "wanted exactly 1 element, found 0 elements"
  | .table [(name, v)] => do
    let s ← strategyNamed name
    nothing v
    return s
  | .table _ => .error "wanted exactly 1 element, more than 1 element"
  | _ => .error "wanted string or table"

/-- The setting that an entry makes; an unknown key makes none. -/
def settingOf (key : String) (v : Value) : Except String (Option Setting) :=
  match key with
  | "model" => return some (.model (← textOf v))
  | "endpoint" => return some (.endpoint (← textOf v))
  | "source_dialect" => return some (.sourceDialect (← textOf v))
  | "timeout_secs" => return some (.timeoutSecs (← secondsOf v))
  | "reassembly" => return some (.reassembly (← strategyOf v))
  | _ => return none

/-- A configuration under the entries of a table, one after the other. -/
def overlay (config : Config) : Toml.Table → Except String Config
  | [] => .ok config
  | (key, v) :: rest => do
    match ← settingOf key v with
    | some s => (config.set s).overlay rest
    | none => config.overlay rest

/-- The configuration that a text spells; the path is named in what is said about it. -/
def ofText (toml : Toml.Parser) (path text : String) : Except ConvertError Config :=
  match toml text with
  | .error detail => .error (.config (path ++ ": " ++ detail))
  | .ok table =>
    match overlay default table with
    | .error detail => .error (.config (path ++ ": " ++ detail))
    | .ok config => config.validate

def load (toml : Toml.Parser) (path : String) (file : FileState) : Except ConvertError Config :=
  match file.text with
  | .error e => .error (.read e)
  | .ok text => ofText toml path text

/-- The file of the working directory decides if it is there, else the user's, else the defaults.
-/
def discover (toml : Toml.Parser) (here : FileState) (user : Option (String × FileState)) :
    Except ConvertError Config :=
  if here.isThere then load toml localFile here
  else match user with
    | some (path, file) => if file.isThere then load toml path file else .ok default
    | none => .ok default

end Config

end SqlConverter
