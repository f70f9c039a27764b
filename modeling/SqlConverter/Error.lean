namespace SqlConverter

inductive TranspileError
  | parse (detail : String)
  | unsupported (feature : String)
  | unknownDialect (name : String)
  | empty
  deriving DecidableEq, Repr, Inhabited

inductive ServiceError
  | transport (detail : String)
  | timeout (seconds : Nat)
  | status (code : Nat) (body : String)
  | decode (detail : String)
  deriving DecidableEq, Repr, Inhabited

inductive ReadError
  | notFound
  | isDirectory
  | notDirectory
  | notUtf8
  | other (detail : String)
  deriving DecidableEq, Repr, Inhabited

/-- Failures of a request. The same service failure is kept apart by the stage that met it. -/
inductive ConvertError
  | invalidInput (detail : String)
  | transpile (cause : TranspileError)
  | extraction (cause : ServiceError)
  | reassembly (cause : ServiceError)
  | validation (cause : ServiceError)
  | config (detail : String)
  | read (cause : ReadError)
  deriving DecidableEq, Repr, Inhabited

def TranspileError.message : TranspileError → String
  | .parse detail => "Parse error: " ++ detail
  | .unsupported feature => "Unsupported: " ++ feature
  | .unknownDialect name => "Unknown dialect: '" ++ name ++ "'"
  | .empty => "No statement found"

def ServiceError.message : ServiceError → String
  | .transport detail => "Transport error: " ++ detail
  | .timeout seconds => "Timed out after " ++ toString seconds ++ "s"
  | .status code body => "Service returned " ++ toString code ++ ": " ++ body
  | .decode detail => "Malformed response: " ++ detail

def ReadError.message : ReadError → String
  | .notFound => "No such file or directory (os error 2)"
  | .isDirectory => "Is a directory (os error 21)"
  | .notDirectory => "Not a directory (os error 20)"
  | .notUtf8 => "stream did not contain valid UTF-8"
  | .other detail => detail

namespace ConvertError

def message : ConvertError → String
  | invalidInput detail => "Invalid input: " ++ detail ++ ". Please provide valid SQL."
  | transpile cause => "Transpile error: " ++ cause.message
  | extraction cause => "Statement extraction failed: " ++ cause.message
  | reassembly cause => "Procedure reassembly failed: " ++ cause.message
  | validation cause => "Validation failed: " ++ cause.message
  | config detail => "Configuration error: " ++ detail
  | read cause => "IO error: " ++ cause.message

def cause? : ConvertError → Option String
  | invalidInput _ | config _ => none
  | transpile cause => some cause.message
  | extraction cause | reassembly cause | validation cause => some cause.message
  | read cause => some cause.message

/-- Whether the chat service is to blame. -/
def isServiceFailure : ConvertError → Bool
  | extraction _ | reassembly _ | validation _ => true
  | _ => false

end ConvertError

end SqlConverter
