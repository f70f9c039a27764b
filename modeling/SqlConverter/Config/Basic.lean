import SqlConverter.Dialect
import SqlConverter.Error

namespace SqlConverter

/-- How a procedure is put together again. -/
inductive Strategy
  | assistant
  | delimited
  deriving DecidableEq, Repr, Inhabited

def Strategy.name : Strategy → String
  | assistant => "assistant"
  | delimited => "delimited"

def Strategy.ofName? : String → Option Strategy
  | "assistant" => some assistant
  | "delimited" => some delimited
  | _ => none

theorem Strategy.ofName?_name (s : Strategy) : Strategy.ofName? s.name = some s := by
  cases s <;> rfl

structure Config where
  model : String := "llama3"
  endpoint : String := "http://localhost:11434"
  sourceDialect : String := Dialect.defaultSource
  timeoutSecs : Nat := 60
  reassembly : Strategy := .assistant
  deriving DecidableEq, Repr, Inhabited

namespace Config

def default : Config := {}

def localFile : String := "s2convert.toml"

/-- A configuration that can be used: some time to wait, and a model to ask. -/
def Valid (config : Config) : Prop :=
  0 < config.timeoutSecs ∧ Text.isBlankText config.model = false

instance (config : Config) : Decidable config.Valid :=
  inferInstanceAs (Decidable (_ ∧ _))

/-- A zero timeout is reported before a blank model. -/
def validate (config : Config) : Except ConvertError Config :=
  if config.timeoutSecs = 0 then .error (.config "timeout_secs must be positive")
  else if Text.isBlankText config.model then .error (.config "model must not be empty")
  else .ok config

inductive Setting
  | model (name : String)
  | endpoint (url : String)
  | sourceDialect (name : String)
  | timeoutSecs (seconds : Nat)
  | reassembly (strategy : Strategy)
  deriving DecidableEq, Repr, Inhabited

def set (config : Config) : Setting → Config
  | .model name => { config with model := name }
  | .endpoint url => { config with endpoint := url }
  | .sourceDialect name => { config with sourceDialect := name }
  | .timeoutSecs seconds => { config with timeoutSecs := seconds }
  | .reassembly strategy => { config with reassembly := strategy }

theorem validate_eq_ok_iff (config c : Config) :
    config.validate = .ok c ↔ config = c ∧ config.Valid := by
  unfold validate Valid
  split
  · next h => simp [h]
  · next h =>
    split
    · next hb => simp [hb]
    · next hb => simp [hb, Nat.pos_of_ne_zero h]

end Config

end SqlConverter
