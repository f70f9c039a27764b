import SqlConverter.Chat.Client
import SqlConverter.CommandLine.Arguments
import SqlConverter.Config.Load
import SqlConverter.Converter
import SqlConverter.Report

namespace SqlConverter.CommandLine

/-- All that an invocation finds: files, variables, the input stream (absent if it is a terminal),
and the path of the user's configuration. -/
structure Surroundings where
  file : String → FileState
  environment : String → Option String
  stdin : Option Text.Bytes
  userConfig : Option String

/-- The readers of words and of configuration files that an invocation relies on. -/
structure Readers where
  arguments : (String → Option String) → List String → Except Stop Arguments
  toml : Toml.Parser

/-- The readers at hand, with what they say of a text that is no TOML. -/
def Readers.own (said : String) : Readers := ⟨Arguments.parse, Toml.parser said⟩

/-- How an invocation ends, what it prints as a result, and what it tells on the error stream, one
message for each time that it writes there. -/
structure Outcome where
  status : Nat
  stdout : String
  messages : List String
  deriving DecidableEq, Repr, Inhabited

/-- Messages with what a log writes ahead of each of them and behind the last. -/
def logged (log : Nat → String) : List String → String
  | [] => log 0
  | message :: rest => log 0 ++ message ++ logged (fun n => log (n + 1)) rest

/-- All of the error stream. What the library logs on the way, and under which settings, is not
followed here. -/
def Outcome.stderr (o : Outcome) (log : Nat → String) : String := logged log o.messages

/-- Why an invocation fails, with the path that it was about, if it was about one. -/
inductive Failure
  | loading (path : String) (cause : ConvertError)
  | converting (cause : ConvertError)
  | reading (path : String) (cause : ReadError)
  | input (cause : ReadError)
  deriving DecidableEq, Repr

/-- An error and the one behind it. -/
def chain (e : ConvertError) : String :=
  match e.cause? with
  | some cause => e.message ++ ": " ++ cause
  | none => e.message

def Failure.message : Failure → String
  | loading path cause => "Failed to load " ++ path ++ ": " ++ chain cause
  | converting cause => chain cause
  | reading path cause => "Failed to read " ++ path ++ ": " ++ cause.message
  | input cause => cause.message

/-- The configuration of the file that decides. -/
def baseConfig (toml : Toml.Parser) (s : Surroundings) (a : Arguments) : Except Failure Config :=
  match a.config with
  | some path => (Config.load toml path (s.file path)).mapError (.loading path)
  | none =>
    let user := s.userConfig.map fun path => (path, s.file path)
    (Config.discover toml (s.file Config.localFile) user).mapError .converting

/-- The settings that flags and variables make. -/
def overrides (a : Arguments) : List Config.Setting :=
  (a.model.map .model).toList ++ (a.endpoint.map .endpoint).toList ++
    (a.timeout.map .timeoutSecs).toList ++ (if a.delimited then [.reassembly .delimited] else [])

def resolveConfig (toml : Toml.Parser) (s : Surroundings) (a : Arguments) :
    Except Failure Config := do
  return (overrides a).foldl Config.set (← baseConfig toml s a)

/-- The dialect to read: the one named by a flag, else the configured one. -/
def sourceDialect (a : Arguments) (c : Config) : String := a.dialect.getD c.sourceDialect

/-- The user's configuration: in the directory that a variable names by a full path, else in the
usual place under the home directory. -/
def userConfigPath (environment : String → Option String) : Option String :=
  let under (dir : String) := if dir.endsWith "/" then dir else dir ++ "/"
  let dir := ((environment "XDG_CONFIG_HOME").filter (·.startsWith "/")) <|>
    ((environment "HOME").filter (· ≠ "")).map fun home => under home ++ ".config"
  dir.map fun d => under d ++ "s2convert/config.toml"

def streamText (bytes : Text.Bytes) : Except Failure String :=
  (FileState.contents bytes).text.mapError .input

/-- The text to work on: an argument, else a file, else the input stream; `none` if that is a
terminal. -/
def readInput (s : Surroundings) (argument file : Option String) : Except Failure (Option String) :=
  match argument, file, s.stdin with
  | some sql, _, _ => .ok (some sql)
  | none, some path, _ => ((s.file path).text.mapError (.reading path)).map some
  | none, none, some bytes => (streamText bytes).map some
  | none, none, none => .ok none

/-- Whether the input stream is what an invocation works on. -/
def Arguments.readsStream (a : Arguments) : Bool :=
  match a.command with
  | some .dialects => false
  | some (.transpile sql) | some (.classify sql) => sql.isNone
  | none => a.sql.isNone && a.file.isNone

def usageText : String :=
  "s2convert — SQL to SingleStore\n\nUsage: s2convert <SQL> [OPTIONS]\n\nTry: s2convert --help\n"

def versionText : String := "s2convert 0.1.0\n"

def dialectLine (marked name : String) : String :=
  if name = marked then "  " ++ name ++ " (default)\n" else "  " ++ name ++ "\n"

def dialectListing (names : List String) (marked : String) : String :=
  "Source dialects\n" ++ .ofList (List.replicate 24 '─') ++ "\n" ++
    String.join (names.map (dialectLine marked)) ++ "\nTarget: " ++ Dialect.target ++ "\n"

def classLine (c : HandlingClass) : String := c.name ++ " " ++ c.label ++ "\n"

/-- What is said about statements that were kept as they were, if there are any. -/
def keptWarning (report : Report) : List String :=
  let kept := report.unconverted
  if kept.isEmpty then []
  else
    ("⚠ " ++ toString kept.length ++ " of " ++ toString report.statements.length ++
      " statement(s) kept unconverted:\n") ::
      (kept.map fun s => "    " ++ s.statement ++ "\n") ++ ["\n"]

def verboseLines (a : Arguments) (c : Config) : List String :=
  if a.verbose then ["Dialect: " ++ sourceDialect a c ++ "\n", "Model: " ++ c.model ++ "\n"]
  else []

def reportOutput (format : Format) (report : Report) : String :=
  match format with
  | .json => report.toValue.indented ++ "\n"
  | .text => "SingleStore SQL:\n" ++ report.output ++ "\n"

def reportWarning (format : Format) (report : Report) : List String :=
  match format with
  | .json => []
  | .text => keptWarning report

namespace Outcome

def success (stdout : String) : Outcome := ⟨0, stdout, []⟩

def failure (f : Failure) : Outcome := ⟨1, "", ["Error: " ++ f.message ++ "\n"]⟩

def ofStop : Stop → Outcome
  | .usage message => ⟨2, "", ["error: " ++ message ++ "\n"]⟩
  | .version => success versionText
  | .help => success usageText

/-- The same with something said before it. -/
def after (said : List String) (o : Outcome) : Outcome := { o with messages := said ++ o.messages }

def ofResult {α : Type} (show_ : α → Outcome) : Except ConvertError α → Outcome
  | .ok a => show_ a
  | .error e => failure (.converting e)

end Outcome

/-- What is left to do once arguments and configuration are known, and the service to ask. -/
structure Task where
  config : Config
  work : Dialogue Outcome

/-- Works on the input, if there is one. -/
def onInput (input : Except Failure (Option String)) (work : String → Dialogue Outcome) :
    Dialogue Outcome :=
  match input with
  | .error f => pure (.failure f)
  | .ok none => pure (.success usageText)
  | .ok (some sql) => work sql

def convert (a : Arguments) (c : Config) (sql : String) : Dialogue Outcome := do
  let result ← (Converter.report c sql (sourceDialect a c)).run
  return Outcome.after (verboseLines a c) <| Outcome.ofResult
    (fun r => ⟨0, reportOutput a.format r, reportWarning a.format r⟩) result

def perform (s : Surroundings) (readable : List String) (a : Arguments) (c : Config) :
    Dialogue Outcome :=
  match a.command with
  | some .dialects => pure (.success (dialectListing readable c.sourceDialect))
  | some (.transpile sql) => onInput (readInput s sql none) fun sql => do
    let result ← (Converter.transpile sql (sourceDialect a c)).run
    return Outcome.ofResult (fun text => .success (text ++ "\n")) result
  | some (.classify sql) => onInput (readInput s sql none) fun sql => do
    let result ← (Converter.classify sql (sourceDialect a c)).run
    return Outcome.ofResult (fun h => .success (classLine h)) result
  | none => onInput (readInput s a.sql a.file) (convert a c)

/-- An invocation up to its first question to the transpiler or the assistant. -/
def task (toml : Toml.Parser) (s : Surroundings) (readable : List String) (a : Arguments) :
    Except Failure Task := do
  let c ← resolveConfig toml s a
  return ⟨c, perform s readable a c⟩

/-- A whole invocation, its questions to the assistant put to the service that is configured. -/
def invoke {m : Type → Type} [Monad m] (readers : Readers) (t : Transpiler)
    (send : Chat.Client → List Chat.Message → m Chat.Reply) (s : Surroundings)
    (words : List String) : m Outcome :=
  match readers.arguments s.environment words with
  | .error stop => pure (.ofStop stop)
  | .ok a =>
    match task readers.toml s t.readable a with
    | .error f => pure (.failure f)
    | .ok task => task.work.runM fun
      | .parse text dialect => pure (t.parse text dialect)
      | .transpile text read write => pure (t.transpile text read write)
      | .complete messages => send (.ofConfig task.config) messages

end SqlConverter.CommandLine
