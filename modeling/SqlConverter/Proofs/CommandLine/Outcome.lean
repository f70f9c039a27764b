import SqlConverter.Proofs.CommandLine.Configuration
import SqlConverter.Proofs.Json.RoundTrip

namespace SqlConverter

open Json (Value)

/-- The value of a member, if there is just one of that name. -/
def Json.member? (key : String) : Value → Option Value
  | .object members => Json.only? key members
  | _ => none

/-- The original of a statement and its status, as they are written. -/
def ConvertedStatement.spelled? (v : Value) : Option (String × String) := do
  let original ← Chat.textOf? (← Json.member? "original" v)
  let status ← Chat.textOf? (← Json.member? "status" (← Json.member? "result" v))
  return (original, status)

/-- The statements of a report on paper. -/
def Report.spelled? (text : String) : Option (List (String × String)) := do
  match ← Json.member? "statements" (← Json.read? text) with
  | .array items => items.mapM ConvertedStatement.spelled?
  | _ => none

/-- The originals that are marked as kept. -/
def keptIn (statements : List (String × String)) : List String :=
  (statements.filter fun s => s.2 == "unconverted").map Prod.fst

theorem ConvertedStatement.spelled?_toValue (s : ConvertedStatement) :
    ConvertedStatement.spelled? s.toValue = some (s.statement, s.result.status) := rfl

theorem Report.spelled?_indented_line (r : Report) :
    Report.spelled? (r.toValue.indented ++ "\n") =
      some (r.statements.map fun s => (s.statement, s.result.status)) := by
  have items : Json.member? "statements" r.toValue =
      some (.array (r.statements.map ConvertedStatement.toValue)) := rfl
  rw [Report.spelled?, Json.read?_indented_line]
  simp only [Option.bind_eq_bind, Option.bind_some, items]
  exact mapM_map_eq_some ConvertedStatement.spelled?_toValue r.statements

theorem keptIn_statements (r : Report) :
    keptIn (r.statements.map fun s => (s.statement, s.result.status)) =
      r.unconverted.map ConvertedStatement.statement := by
  have marked (s : ConvertedStatement) :
      (s.result.status == "unconverted") = !s.result.isConverted := by
    cases s.result <;> rfl
  rw [keptIn, List.filter_map, List.map_map, Report.unconverted]
  simp [Function.comp_def, marked]

namespace CommandLine

variable {σ : Type} {s : Surroundings} {a : Arguments} {c : Config} {f : Failure}
  {text : String} {readable : List String}

/-- The SQL text that was given to a command, or to the main one. -/
def Arguments.argument (a : Arguments) : Option String :=
  match a.command with
  | some (.transpile sql) | some (.classify sql) => sql
  | _ => a.sql

/-- Only the main command looks at a file. -/
def Arguments.inputFile (a : Arguments) : Option String :=
  if a.command = none then a.file else none

/-- What there is to work on: the argument, else what the file holds, else what the input stream
holds, unless that is a terminal. -/
inductive Input (s : Surroundings) (a : Arguments) : Except Failure (Option String) → Prop
  | argument {sql : String} (given : a.argument = some sql) : Input s a (.ok (some sql))
  | file {path text : String} {bytes : Text.Bytes} (absent : a.argument = none)
      (named : a.inputFile = some path) (found : s.file path = .contents bytes)
      (decoded : Text.Utf8.decode? bytes = some text) : Input s a (.ok (some text))
  | unreadable {path : String} {e : ReadError} (absent : a.argument = none)
      (named : a.inputFile = some path) (failed : (s.file path).text = .error e) :
      Input s a (.error (.reading path e))
  | stream {text : String} {bytes : Text.Bytes} (absent : a.argument = none)
      (nameless : a.inputFile = none) (piped : s.stdin = some bytes)
      (decoded : Text.Utf8.decode? bytes = some text) : Input s a (.ok (some text))
  | garbled {bytes : Text.Bytes} (absent : a.argument = none) (nameless : a.inputFile = none)
      (piped : s.stdin = some bytes) (undecoded : Text.Utf8.decode? bytes = none) :
      Input s a (.error (.input .notUtf8))
  | terminal (absent : a.argument = none) (nameless : a.inputFile = none)
      (closed : s.stdin = none) : Input s a (.ok none)

theorem text_contents (bytes : Text.Bytes) :
    (FileState.contents bytes).text =
      match Text.Utf8.decode? bytes with
      | some text => .ok text
      | none => .error .notUtf8 := rfl

theorem text_eq_ok_iff {file : FileState} {text : String} :
    file.text = .ok text ↔
      ∃ bytes, file = .contents bytes ∧ Text.Utf8.decode? bytes = some text := by
  cases file with
  | contents bytes => cases decoded : Text.Utf8.decode? bytes <;> simp [text_contents, decoded]
  | _ => simp [FileState.text]

theorem input_readInput (s : Surroundings) (a : Arguments) :
    Input s a (readInput s a.argument a.inputFile) := by
  cases given : a.argument with
  | some sql => exact .argument given
  | none =>
    cases named : a.inputFile with
    | some path =>
      dsimp only [readInput]
      cases held : (s.file path).text with
      | error e => exact .unreadable given named held
      | ok text =>
        obtain ⟨bytes, found, decoded⟩ := text_eq_ok_iff.mp held
        exact .file given named found decoded
    | none =>
      cases piped : s.stdin with
      | none =>
        simp only [readInput, piped]
        exact .terminal given named piped
      | some bytes =>
        simp only [readInput, piped, streamText, text_contents]
        cases decoded : Text.Utf8.decode? bytes with
        | none => exact .garbled given named piped decoded
        | some text => exact .stream given named piped decoded

theorem Input.eq_readInput {input : Except Failure (Option String)} (h : Input s a input) :
    readInput s a.argument a.inputFile = input := by
  cases h with
  | argument given => simp only [readInput, given]
  | file absent named found decoded =>
    have held := text_eq_ok_iff.mpr ⟨_, found, decoded⟩
    simp only [readInput, absent, named, held]
    rfl
  | unreadable absent named failed =>
    simp only [readInput, absent, named, failed]
    rfl
  | stream absent nameless piped decoded =>
    simp only [readInput, absent, nameless, piped, streamText, text_contents, decoded]
    rfl
  | garbled absent nameless piped undecoded =>
    simp only [readInput, absent, nameless, piped, streamText, text_contents, undecoded]
    rfl
  | terminal absent nameless closed => simp only [readInput, absent, nameless, closed]

/-- What a request comes to and leaves behind, if it is put under a configuration. -/
def settled {α : Type} (t : Transpiler)
    (send : Chat.Client → List Chat.Message → StateM σ Chat.Reply) (c : Config)
    (request : Request α) (memory : σ) : Except ConvertError α × σ :=
  request.run.runM (answering t send c) memory

/-- The outcome of the library's part, and of all that can keep it from being asked. Its messages
stand on the error stream in their order, whatever a log has written between them. -/
inductive Performed (t : Transpiler)
    (send : Chat.Client → List Chat.Message → StateM σ Chat.Reply) (s : Surroundings)
    (a : Arguments) (c : Config) (memory : σ) : Outcome → σ → Prop
  | listed (asked : a.command = some .dialects) :
      Performed t send s a c memory ⟨0, dialectListing t.readable c.sourceDialect, []⟩ memory
  | unfed (works : a.command ≠ some .dialects) (input : Input s a (.ok none)) :
      Performed t send s a c memory ⟨0, usageText, []⟩ memory
  | unread {f : Failure} (works : a.command ≠ some .dialects) (input : Input s a (.error f)) :
      Performed t send s a c memory ⟨1, "", ["Error: " ++ f.message ++ "\n"]⟩ memory
  | transpiled {sql : Option String} {text output : String} {memory' : σ}
      (asked : a.command = some (.transpile sql)) (input : Input s a (.ok (some text)))
      (call : settled t send c (Converter.transpile text (a.dialect.getD c.sourceDialect)) memory =
        (.ok output, memory')) :
      Performed t send s a c memory ⟨0, output ++ "\n", []⟩ memory'
  | untranspiled {sql : Option String} {text : String} {e : ConvertError} {memory' : σ}
      (asked : a.command = some (.transpile sql)) (input : Input s a (.ok (some text)))
      (call : settled t send c (Converter.transpile text (a.dialect.getD c.sourceDialect)) memory =
        (.error e, memory')) :
      Performed t send s a c memory ⟨1, "", ["Error: " ++ chain e ++ "\n"]⟩ memory'
  | classified {sql : Option String} {text : String} {h : HandlingClass} {memory' : σ}
      (asked : a.command = some (.classify sql)) (input : Input s a (.ok (some text)))
      (call : settled t send c (Converter.classify text (a.dialect.getD c.sourceDialect)) memory =
        (.ok h, memory')) :
      Performed t send s a c memory ⟨0, h.name ++ " " ++ h.label ++ "\n", []⟩ memory'
  | unclassified {sql : Option String} {text : String} {e : ConvertError} {memory' : σ}
      (asked : a.command = some (.classify sql)) (input : Input s a (.ok (some text)))
      (call : settled t send c (Converter.classify text (a.dialect.getD c.sourceDialect)) memory =
        (.error e, memory')) :
      Performed t send s a c memory ⟨1, "", ["Error: " ++ chain e ++ "\n"]⟩ memory'
  | reported {text : String} {r : Report} {memory' : σ} (asked : a.command = none)
      (input : Input s a (.ok (some text)))
      (call : settled t send c (Converter.report c text (a.dialect.getD c.sourceDialect)) memory =
        (.ok r, memory'))
      (json : a.format = .json) :
      Performed t send s a c memory ⟨0, r.toValue.indented ++ "\n", verboseLines a c⟩ memory'
  | shown {text : String} {r : Report} {memory' : σ} {statements : List (String × String)}
      (asked : a.command = none) (input : Input s a (.ok (some text)))
      (call : settled t send c (Converter.report c text (a.dialect.getD c.sourceDialect)) memory =
        (.ok r, memory'))
      (plain : a.format = .text)
      (spelled : Report.spelled? (r.toValue.indented ++ "\n") = some statements)
      (clean : keptIn statements = []) :
      Performed t send s a c memory
        ⟨0, "SingleStore SQL:\n" ++ r.output ++ "\n", verboseLines a c⟩ memory'
  | warned {text : String} {r : Report} {memory' : σ} {statements : List (String × String)}
      (asked : a.command = none) (input : Input s a (.ok (some text)))
      (call : settled t send c (Converter.report c text (a.dialect.getD c.sourceDialect)) memory =
        (.ok r, memory'))
      (plain : a.format = .text)
      (spelled : Report.spelled? (r.toValue.indented ++ "\n") = some statements)
      (kept : keptIn statements ≠ []) :
      Performed t send s a c memory
        ⟨0, "SingleStore SQL:\n" ++ r.output ++ "\n", verboseLines a c ++
          (("⚠ " ++ toString (keptIn statements).length ++ " of " ++ toString statements.length ++
            " statement(s) kept unconverted:\n") ::
          ((keptIn statements).map fun original => "    " ++ original ++ "\n") ++ ["\n"])⟩ memory'
  | failed {text : String} {e : ConvertError} {memory' : σ} (asked : a.command = none)
      (input : Input s a (.ok (some text)))
      (call : settled t send c (Converter.report c text (a.dialect.getD c.sourceDialect)) memory =
        (.error e, memory')) :
      Performed t send s a c memory
        ⟨1, "", verboseLines a c ++ ["Error: " ++ chain e ++ "\n"]⟩ memory'

variable {readers : Readers} {t : Transpiler}
  {send : Chat.Client → List Chat.Message → StateM σ Chat.Reply} {memory memory' : σ}
  {o : Outcome} {words : List String}

theorem Performed.all_or_nothing (h : Performed t send s a c memory o memory') :
    o.status = 0 ∨ o.status = 1 ∧ o.stdout = "" := by
  cases h with
  | listed | unfed | transpiled | classified | reported | shown | warned => exact .inl rfl
  | unread | untranspiled | unclassified | failed => exact .inr ⟨rfl, rfl⟩

theorem keptWarning_of_none (r : Report)
    (h : keptIn (r.statements.map fun s => (s.statement, s.result.status)) = []) :
    keptWarning r = [] := by
  rw [keptIn_statements, List.map_eq_nil_iff] at h
  rw [keptWarning, h]
  rfl

theorem keptWarning_of_some (r : Report) {statements : List (String × String)}
    (spelled : r.statements.map (fun s => (s.statement, s.result.status)) = statements)
    (h : keptIn statements ≠ []) :
    keptWarning r = ("⚠ " ++ toString (keptIn statements).length ++ " of " ++
        toString statements.length ++ " statement(s) kept unconverted:\n") ::
      ((keptIn statements).map fun original => "    " ++ original ++ "\n") ++ ["\n"] := by
  subst spelled
  rw [keptIn_statements] at h ⊢
  have kept : r.unconverted ≠ [] := fun none => h (by rw [none]; rfl)
  rw [keptWarning]
  simp [kept, Function.comp_def]

/-- The work of a command on its input; a command without input is not meant. -/
def onText (a : Arguments) (c : Config) (text : String) : Dialogue Outcome :=
  match a.command with
  | some (.transpile _) => do
    let result ← (Converter.transpile text (sourceDialect a c)).run
    return Outcome.ofResult (fun output => .success (output ++ "\n")) result
  | some (.classify _) => do
    let result ← (Converter.classify text (sourceDialect a c)).run
    return Outcome.ofResult (fun h => .success (classLine h)) result
  | _ => convert a c text

theorem perform_of_works (works : a.command ≠ some .dialects) :
    perform s readable a c = onInput (readInput s a.argument a.inputFile) (onText a c) := by
  unfold perform Arguments.argument Arguments.inputFile onText
  cases command : a.command with
  | none => rfl
  | some command' =>
    cases command' with
    | dialects => exact absurd command works
    | _ => rfl

theorem perform_of_input {input : Except Failure (Option String)}
    (works : a.command ≠ some .dialects) (h : Input s a input) :
    perform s readable a c = onInput input (onText a c) := by
  rw [perform_of_works works, h.eq_readInput]

theorem runM_request {α : Type} (request : Request α) (show_ : Except ConvertError α → Outcome) :
    (request.run >>= fun result => pure (show_ result)).runM (answering t send c) memory =
      (show_ (settled t send c request memory).1, (settled t send c request memory).2) :=
  Dialogue.runM_bind _ _ _ _

theorem run_transpile {sql : Option String} (asked : a.command = some (.transpile sql))
    (input : Input s a (.ok (some text))) :
    (perform s readable a c).runM (answering t send c) memory =
      let r := settled t send c (Converter.transpile text (a.dialect.getD c.sourceDialect)) memory
      (Outcome.ofResult (fun output => .success (output ++ "\n")) r.1, r.2) := by
  have works : a.command ≠ some .dialects := by simp [asked]
  rw [perform_of_input works input, onInput, onText, asked]
  exact runM_request _ _

theorem run_classify {sql : Option String} (asked : a.command = some (.classify sql))
    (input : Input s a (.ok (some text))) :
    (perform s readable a c).runM (answering t send c) memory =
      let r := settled t send c (Converter.classify text (a.dialect.getD c.sourceDialect)) memory
      (Outcome.ofResult (fun h => .success (classLine h)) r.1, r.2) := by
  have works : a.command ≠ some .dialects := by simp [asked]
  rw [perform_of_input works input, onInput, onText, asked]
  exact runM_request _ _

theorem run_report (asked : a.command = none) (input : Input s a (.ok (some text))) :
    (perform s readable a c).runM (answering t send c) memory =
      let r := settled t send c (Converter.report c text (a.dialect.getD c.sourceDialect)) memory
      (Outcome.after (verboseLines a c) (Outcome.ofResult
        (fun r => ⟨0, reportOutput a.format r, reportWarning a.format r⟩) r.1), r.2) := by
  have works : a.command ≠ some .dialects := by simp [asked]
  rw [perform_of_input works input, onInput, onText, asked]
  exact runM_request _ _

theorem after_silent (said : List String) (stdout : String) :
    Outcome.after said ⟨0, stdout, []⟩ = ⟨0, stdout, said⟩ := by
  rw [Outcome.after, List.append_nil]

theorem Performed.run_eq (h : Performed t send s a c memory o memory') :
    (perform s t.readable a c).runM (answering t send c) memory = (o, memory') := by
  cases h with
  | listed asked =>
    rw [perform, asked]
    rfl
  | unfed works input =>
    rw [perform_of_input works input]
    rfl
  | unread works input =>
    rw [perform_of_input works input]
    rfl
  | transpiled asked input call | untranspiled asked input call =>
    rw [run_transpile asked input, call]
    rfl
  | classified asked input call | unclassified asked input call =>
    rw [run_classify asked input, call]
    rfl
  | reported asked input call json =>
    rw [run_report asked input, call, json]
    exact congrArg (Prod.mk · _) (after_silent _ _)
  | @shown _ r _ _ asked input call plain spelled clean =>
    rw [Report.spelled?_indented_line, Option.some.injEq] at spelled
    subst spelled
    have silent := keptWarning_of_none r clean
    rw [run_report asked input, call, plain]
    dsimp only [Outcome.ofResult, reportOutput, reportWarning]
    rw [silent, after_silent]
  | @warned _ r _ _ asked input call plain spelled kept =>
    rw [Report.spelled?_indented_line, Option.some.injEq] at spelled
    have said := keptWarning_of_some r spelled kept
    rw [run_report asked input, call, plain]
    dsimp only [Outcome.ofResult, reportOutput, reportWarning]
    rw [said, Outcome.after]
  | failed asked input call =>
    rw [run_report asked input, call]
    rfl

theorem report_total (t : Transpiler)
    (send : Chat.Client → List Chat.Message → StateM σ Chat.Reply) (c : Config) (memory : σ)
    (asked : a.command = none) (input : Input s a (.ok (some text))) :
    ∃ o memory', Performed t send s a c memory o memory' := by
  cases call : settled t send c (Converter.report c text (a.dialect.getD c.sourceDialect))
    memory with
  | mk result memory' =>
    cases result with
    | error e => exact ⟨_, _, .failed asked input call⟩
    | ok r =>
      have spelled := r.spelled?_indented_line
      cases format : a.format with
      | json => exact ⟨_, _, .reported asked input call format⟩
      | text =>
        by_cases clean : keptIn (r.statements.map fun s => (s.statement, s.result.status)) = []
        · exact ⟨_, _, .shown asked input call format spelled clean⟩
        · exact ⟨_, _, .warned asked input call format spelled clean⟩

/-- Whatever the command, the input and the answers, an invocation comes to something. -/
theorem performed_total (t : Transpiler)
    (send : Chat.Client → List Chat.Message → StateM σ Chat.Reply) (s : Surroundings)
    (a : Arguments) (c : Config) (memory : σ) :
    ∃ o memory', Performed t send s a c memory o memory' := by
  by_cases listing : a.command = some .dialects
  · exact ⟨_, _, .listed listing⟩
  · have input := input_readInput s a
    cases found : readInput s a.argument a.inputFile with
    | error f =>
      rw [found] at input
      exact ⟨_, _, .unread listing input⟩
    | ok text? =>
      rw [found] at input
      cases text? with
      | none => exact ⟨_, _, .unfed listing input⟩
      | some text =>
        cases asked : a.command with
        | none => exact report_total t send c memory asked input
        | some command =>
          cases command with
          | dialects => exact absurd asked listing
          | transpile sql =>
            cases call : settled t send c
              (Converter.transpile text (a.dialect.getD c.sourceDialect)) memory with
            | mk result memory' =>
              cases result with
              | ok output => exact ⟨_, _, .transpiled asked input call⟩
              | error e => exact ⟨_, _, .untranspiled asked input call⟩
          | classify sql =>
            cases call : settled t send c
              (Converter.classify text (a.dialect.getD c.sourceDialect)) memory with
            | mk result memory' =>
              cases result with
              | ok h => exact ⟨_, _, .classified asked input call⟩
              | error e => exact ⟨_, _, .unclassified asked input call⟩

/-- An invocation is all or nothing: it ends well, or with an error and nothing printed. If no
configuration can be made for it, it says why and asks nothing; under the configuration that it
has, it comes to just what the library's answer makes of it, and leaves the service as that
does. -/
theorem invoke_refines_library (parsed : readers.arguments s.environment words = .ok a)
    (t : Transpiler) (send : Chat.Client → List Chat.Message → StateM σ Chat.Reply)
    (memory : σ) :
    ((invoke readers t send s words memory).1.status = 0 ∨
      (invoke readers t send s words memory).1.status = 1 ∧
        (invoke readers t send s words memory).1.stdout = "") ∧
    (∀ f, resolveConfig readers.toml s a = .error f →
      invoke readers t send s words memory = (⟨1, "", ["Error: " ++ f.message ++ "\n"]⟩, memory)) ∧
    ∀ c, resolveConfig readers.toml s a = .ok c → ∀ o memory',
      invoke readers t send s words memory = (o, memory') ↔
        Performed t send s a c memory o memory' := by
  have performed (c : Config) (resolved : resolveConfig readers.toml s a = .ok c) (o : Outcome)
      (memory' : σ) : invoke readers t send s words memory = (o, memory') ↔
        Performed t send s a c memory o memory' := by
    rw [invoke_of_resolved parsed resolved]
    constructor
    · -- Something is performed, and its run is this one: no case of the run is looked at again.
      intro run
      obtain ⟨o', later, total⟩ := performed_total t send s a c memory
      cases total.run_eq.symm.trans run
      exact total
    · intro h
      exact h.run_eq
  refine ⟨?_, ?_, performed⟩
  · cases resolved : resolveConfig readers.toml s a with
    | error f =>
      rw [invoke_of_refused parsed resolved]
      exact .inr ⟨rfl, rfl⟩
    | ok c => exact ((performed c resolved _ _).mp rfl).all_or_nothing
  · intro f unresolved
    rw [invoke_of_refused parsed unresolved]
    rfl

/-- A procedure on the input stream. -/
def piped : Surroundings :=
  { bare with stdin := some ("create proc p".toList.map fun c => .ofNat c.toNat) }

/-- A service that replies from a script. -/
def scriptedService (_ : Chat.Client) (_ : List Chat.Message) :
    StateM Script Chat.Reply :=
  fun script => (script.next, script.tail)

/-- The transpiler refuses the first statement of two. -/
def keptFirst : Outcome where
  status := 0
  stdout := "SingleStore SQL:\nDELIMITER //\nbad;\nselect 1;\n//\nDELIMITER ;\n"
  messages := ["⚠ 1 of 2 statement(s) kept unconverted:\n", "    bad;\n", "\n"]

/-- What a log has on the refusal. -/
def refusalLine : String :=
  "2026-02-03T04:05:06.789012Z  WARN s2convert::statement: statement not converted; " ++
    "keeping original statement=\"bad\" error=No statement found\n"

/-- A log that warns of the refusal, ahead of all that the program itself tells. -/
def refusalLogged (n : Nat) : String := if n = 0 then refusalLine else ""

theorem invoke_refines_library_piped :
    invoke own .byHeader scriptedService piped ["--delimited", "--dialect", "MSSQL"]
        (.of [.ok "bad;\nselect 1"]) = (keptFirst, .of []) ∧
      Performed .byHeader scriptedService piped { delimited := true, dialect := "MSSQL" }
        { reassembly := .delimited } (.of [.ok "bad;\nselect 1"]) keptFirst (.of []) ∧
      keptFirst.stderr refusalLogged =
        refusalLine ++ "⚠ 1 of 2 statement(s) kept unconverted:\n    bad;\n\n" := by
  have parsed : own.arguments piped.environment ["--delimited", "--dialect", "MSSQL"] =
      .ok { delimited := true, dialect := "MSSQL" } := rfl
  have run : invoke own .byHeader scriptedService piped ["--delimited", "--dialect", "MSSQL"]
      (.of [.ok "bad;\nselect 1"]) = (keptFirst, .of []) := by
    rw [invoke_of_resolved parsed rfl]
    rfl
  obtain ⟨-, -, refines⟩ :=
    invoke_refines_library parsed .byHeader scriptedService (.of [.ok "bad;\nselect 1"])
  exact ⟨run, (refines _ rfl _ _).mp run, by decide +kernel⟩

end CommandLine

end SqlConverter
