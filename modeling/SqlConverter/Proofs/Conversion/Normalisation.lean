import SqlConverter.Proofs.Conversion.Stages
import SqlConverter.Proofs.Dialogue.Contract
import SqlConverter.Proofs.Engine.FirstStatement
import SqlConverter.Proofs.Text.Trimming

namespace SqlConverter

open Dialogue (Turn)

/-- A parser's answer that keeps the text and the dialect of its question; all else is trusted. -/
def Dialogue.Turn.KeepsInput : Turn → Prop
  | ⟨.parse text dialect, .ok unit⟩ => unit.text = text ∧ unit.dialect = dialect
  | _ => True

/-- What is transpiled is read in one dialect, and written in the target. -/
def Call.ReadsFrom (name : String) : Call → Prop
  | .transpile _ read write => read = name ∧ write = Dialect.target
  | _ => True

/-- What is parsed is parsed in the dialect that a spelling stands for. -/
def Call.ParsesAs (dialect : String) : Call → Prop
  | .parse _ name => Dialect.resolve dialect = some name
  | _ => True

/-- All that is asked behind a parser may be asked, as long as one dialect is read. -/
structure Call.Admitted (allowed : Call → Prop) (name : String) : Prop where
  transpile : ∀ text, allowed (.transpile text name Dialect.target)
  complete : ∀ messages, allowed (.complete messages)

theorem Call.admitted_readsFrom (name : String) : Call.Admitted (Call.ReadsFrom name) name :=
  ⟨fun _ => ⟨rfl, rfl⟩, fun _ => trivial⟩

theorem Call.admitted_parsesAs (dialect name : String) :
    Call.Admitted (Call.ParsesAs dialect) name :=
  ⟨fun _ => trivial, fun _ => trivial⟩

namespace StatementResult

variable {trusted : Turn → Prop} {allowed : Call → Prop} {name : String}

theorem ensures_ofStatement (admitted : Call.Admitted allowed name) (statement : String) :
    (ofStatement statement name).Ensures trusted allowed fun _ => True := by
  cases blank : Text.isBlankText (body statement) with
  | true =>
    rw [ofStatement_of_blank name blank]
    exact .done trivial
  | false =>
    rw [ofStatement_of_body name blank]
    exact .ask (admitted.transpile _) fun answer _ => .done trivial

theorem ensures_ofBatch (admitted : Call.Admitted allowed name) (batch : List String) :
    (ofBatch name batch).Ensures trusted allowed fun _ => True := by
  induction batch with
  | nil => exact .done trivial
  | cons statement rest ih =>
    rw [ofBatch]
    refine Dialogue.Ensures.bind ((ensures_ofStatement admitted statement).mono fun first _ => ?_)
    exact Dialogue.Ensures.bind (ih.mono fun others _ => .done trivial)

end StatementResult

namespace Converter

variable {config : Config} {sql dialect dialect' name before after : String} {unit : SqlUnit}

theorem parse_padded (hb : Text.isBlankText before = true) (ha : Text.isBlankText after = true)
    (h : Dialect.resolve dialect = some name) (h' : Dialect.resolve dialect' = some name)
    (sql : String) : parse (before ++ sql ++ after) dialect = parse sql dialect' := by
  have same : Text.trimmed (before ++ sql ++ after) = Text.trimmed sql :=
    Text.trimmed_padded hb ha sql
  have blank : Text.isBlankText (before ++ sql ++ after) = Text.isBlankText sql :=
    Text.isBlankText_padded hb ha sql
  rw [parse, parse, same, blank, h, h']

theorem ensures_parse (h : Dialect.resolve dialect = some name) (sql : String) :
    (parse sql dialect).run.Ensures Turn.KeepsInput (Call.ReadsFrom name) fun
      | .ok unit => unit.dialect = name
      | .error _ => True := by
  rcases refused_or_accepted sql dialect with blank | ⟨-, unknown⟩ | ⟨other, accepted⟩
  · rw [parse_run_of_blank dialect blank]
    exact .done trivial
  · cases unknown.symm.trans h
  · have known : other = name := Option.some.inj (accepted.2.symm.trans h)
    rw [parse_run_of_accepted accepted, known]
    refine .ask trivial fun answer kept => ?_
    cases answer with
    | ok unit => exact .done kept.2
    | error e => exact .done trivial

section Units

variable {trusted : Turn → Prop} {allowed : Call → Prop}

theorem ensures_transpileUnit (admitted : Call.Admitted allowed unit.dialect) :
    (transpileUnit unit).run.Ensures trusted allowed fun _ => True := by
  rw [transpileUnit_run]
  refine .ask (admitted.transpile _) fun answer _ => ?_
  cases answer <;> exact .done trivial

theorem ensures_convertStandalone (admitted : Call.Admitted allowed unit.dialect) :
    (convertStandalone unit).run.Ensures trusted allowed fun _ => True := by
  rw [convertStandalone_run]
  refine .ask (admitted.transpile _) fun answer _ => ?_
  cases answer with
  | error e => exact .done trivial
  | ok sql => exact .ask (admitted.complete _) fun reply _ => .done trivial

theorem ensures_assembly (admitted : Call.Admitted allowed unit.dialect) (strategy : Strategy)
    (batch : List String) (results : List StatementResult) :
    (assembly strategy unit batch results).Ensures trusted allowed fun _ => True := by
  cases strategy with
  | assistant => exact .ask (admitted.complete _) fun reply _ => .done trivial
  | delimited => exact .done trivial

theorem ensures_convertProcedure (admitted : Call.Admitted allowed unit.dialect)
    (strategy : Strategy) :
    (convertProcedure strategy unit).run.Ensures trusted allowed fun _ => True := by
  rw [convertProcedure_run]
  refine .ask (admitted.complete _) fun reply _ => ?_
  cases reply with
  | error e => exact .done trivial
  | ok text =>
    dsimp only
    exact Dialogue.Ensures.bind ((StatementResult.ensures_ofBatch admitted _).mono
      fun results _ => ensures_assembly admitted strategy _ results)

theorem ensures_unit (admitted : Call.Admitted allowed unit.dialect) (config : Config) :
    (if unit.handling = .procedure then (convertProcedure config.reassembly unit).run
      else (convertStandalone unit).run).Ensures trusted allowed fun _ => True := by
  split
  · exact ensures_convertProcedure admitted config.reassembly
  · exact ensures_convertStandalone admitted

end Units

theorem ensures_report (h : Dialect.resolve dialect = some name) (config : Config)
    (sql : String) :
    (report config sql dialect).run.Ensures Turn.KeepsInput (Call.ReadsFrom name)
      fun _ => True := by
  rw [report_run]
  refine Dialogue.Ensures.bind ((ensures_parse h sql).mono fun parsed kept => ?_)
  cases parsed with
  | error e => exact .done trivial
  | ok unit =>
    dsimp only at kept ⊢
    exact ensures_unit (kept ▸ Call.admitted_readsFrom name) config

theorem ensures_transpile (h : Dialect.resolve dialect = some name) (sql : String) :
    (transpile sql dialect).run.Ensures Turn.KeepsInput (Call.ReadsFrom name)
      fun _ => True := by
  refine Request.ensures_bind ((ensures_parse h sql).mono fun parsed kept => ?_)
  cases parsed with
  | error e => trivial
  | ok unit => exact ensures_transpileUnit (kept ▸ Call.admitted_readsFrom name)

theorem ensures_classify (h : Dialect.resolve dialect = some name) (sql : String) :
    (classify sql dialect).run.Ensures Turn.KeepsInput (Call.ReadsFrom name)
      fun _ => True := by
  refine Request.ensures_bind ((ensures_parse h sql).mono fun parsed kept => ?_)
  cases parsed with
  | error e => trivial
  | ok unit => exact .done trivial

section Parsing

variable {trusted : Turn → Prop}

theorem parse_parsesAs (sql dialect : String) :
    (parse sql dialect).run.Ensures trusted (Call.ParsesAs dialect) fun _ => True := by
  rcases refused_or_accepted sql dialect with blank | ⟨filled, unknown⟩ | ⟨name, accepted⟩
  · rw [parse_run_of_blank dialect blank]
    exact .done trivial
  · rw [parse_run_of_unknown filled unknown]
    exact .done trivial
  · rw [parse_run_of_accepted accepted]
    refine .ask accepted.2 fun answer _ => ?_
    cases answer <;> exact .done trivial

theorem report_parsesAs (config : Config) (sql dialect : String) :
    (report config sql dialect).run.Ensures trusted (Call.ParsesAs dialect) fun _ => True := by
  rw [report_run]
  refine Dialogue.Ensures.bind ((parse_parsesAs sql dialect).mono fun parsed _ => ?_)
  cases parsed with
  | error e => exact .done trivial
  | ok unit => exact ensures_unit (Call.admitted_parsesAs dialect _) config

theorem transpile_parsesAs (sql dialect : String) :
    (transpile sql dialect).run.Ensures trusted (Call.ParsesAs dialect) fun _ => True := by
  refine Request.ensures_bind ((parse_parsesAs sql dialect).mono fun parsed _ => ?_)
  cases parsed with
  | error e => trivial
  | ok unit => exact ensures_transpileUnit (Call.admitted_parsesAs dialect _)

theorem classify_parsesAs (sql dialect : String) :
    (classify sql dialect).run.Ensures trusted (Call.ParsesAs dialect) fun _ => True := by
  refine Request.ensures_bind ((parse_parsesAs sql dialect).mono fun parsed _ => ?_)
  cases parsed with
  | error e => trivial
  | ok unit => exact .done trivial

end Parsing

/-- Whoever answers, as long as parsed units keep their text and their dialect. -/
theorem reads_from_of_ensures {α σ : Type} {d : Dialogue α}
    (contract : d.Ensures Turn.KeepsInput (Call.ReadsFrom name) fun _ => True)
    {act : (call : Call) → StateM σ call.Answer}
    (keeps : ∀ text dialect memory unit,
      (act (.parse text dialect) memory).1 = .ok unit →
        unit.text = text ∧ unit.dialect = dialect)
    (memory : σ) {text read write : String}
    (h : .transpile text read write ∈ (d.turns act memory).map Sigma.fst) :
    read = name ∧ write = Dialect.target := by
  have trusted : ∀ call memory, Turn.KeepsInput ⟨call, (act call memory).1⟩ := by
    intro call memory
    cases call with
    | parse text dialect =>
      cases answer : (act (.parse text dialect) memory).1 with
      | ok unit => exact keeps text dialect memory unit answer
      | error e => trivial
    | transpile text read write => trivial
    | complete messages => trivial
  obtain ⟨turn, among, call⟩ := List.mem_map.mp h
  have allowed := ((Dialogue.transcript_turns act d memory).ensured contract
    (Dialogue.trusted_turns trusted d memory)).1 turn among
  rw [call] at allowed
  exact allowed

/-- A text with blanks around it, and a dialect in another spelling, make no difference: to convert,
to classify and to transpile, they are the same request, with the same calls and the same outcome
whoever answers. If parsed units keep the text and the dialect that the parser was given, as those
of an engine do, all that is transpiled on the way is read in the dialect that the spelling stands
for, and written in the target. -/
theorem padding_and_spelling_ignored (config : Config) (sql : String)
    (hb : Text.isBlankText before = true) (ha : Text.isBlankText after = true)
    (h : Dialect.resolve dialect = some name) (h' : Dialect.resolve dialect' = some name) :
    report config (before ++ sql ++ after) dialect = report config sql dialect' ∧
    classify (before ++ sql ++ after) dialect = classify sql dialect' ∧
    transpile (before ++ sql ++ after) dialect = transpile sql dialect' ∧
    (∀ (t : Transpiler) (script : Script),
      (report config (before ++ sql ++ after) dialect).run.run t script =
        (report config sql dialect').run.run t script ∧
      (classify (before ++ sql ++ after) dialect).run.run t script =
        (classify sql dialect').run.run t script ∧
      (transpile (before ++ sql ++ after) dialect).run.run t script =
        (transpile sql dialect').run.run t script) ∧
    (∀ {σ : Type} (act : (call : Call) → StateM σ call.Answer),
      (∀ text source memory unit, (act (.parse text source) memory).1 = .ok unit →
        unit.text = text ∧ unit.dialect = source) →
      ∀ memory text read write,
        .transpile text read write ∈
            ((report config (before ++ sql ++ after) dialect).run.turns act memory ++
              (classify (before ++ sql ++ after) dialect).run.turns act memory ++
              (transpile (before ++ sql ++ after) dialect).run.turns act memory).map
                Sigma.fst →
          read = name ∧ write = "singlestore") ∧
    ∀ (engine : Engine) text source script unit,
      (Dialogue.scripted engine.transpiler (.parse text source) script).1 = .ok unit →
        unit.text = text ∧ unit.dialect = source := by
  have parsed := parse_padded hb ha h h' sql
  have reports : report config (before ++ sql ++ after) dialect = report config sql dialect' := by
    rw [report, report, parsed]
  have classes : classify (before ++ sql ++ after) dialect = classify sql dialect' := by
    rw [classify, classify, parsed]
  have texts : transpile (before ++ sql ++ after) dialect = transpile sql dialect' := by
    rw [transpile, transpile, parsed]
  refine ⟨reports, classes, texts, ?_, ?_, ?_⟩
  · intro t script
    rw [reports, classes, texts]
    exact ⟨rfl, rfl, rfl⟩
  · intro σ act keeps memory text read write among
    rw [List.map_append, List.map_append, List.mem_append, List.mem_append] at among
    rcases among with (among | among) | among
    · exact reads_from_of_ensures (ensures_report h config _) keeps memory among
    · exact reads_from_of_ensures (ensures_classify h _) keeps memory among
    · exact reads_from_of_ensures (ensures_transpile h _) keeps memory among
  · intro engine text source script unit answer
    exact Engine.eq_of_parse answer

/-- A procedure between a wide blank and a tabulator, in two spellings of one dialect: of its two
statements, both are read in that dialect. -/
theorem padding_and_spelling_ignored_procedure :
    (report Config.default ("\u3000\n" ++ "create proc p" ++ "\t") " MSSQL ").run.run .byHeader
        (.of [.ok "bad;\nselect 1", .ok " done "]) =
      (report Config.default "create proc p" "sql_server").run.run .byHeader
        (.of [.ok "bad;\nselect 1", .ok " done "]) ∧
    ((report Config.default "create proc p" "sql_server").run.run .byHeader
        (.of [.ok "bad;\nselect 1", .ok " done "])).calls.filter (fun
          | .transpile _ _ _ => true
          | _ => false) =
      [.transpile "bad" "tsql" "singlestore", .transpile "select 1" "tsql" "singlestore"] ∧
    ∀ memory text read write,
      .transpile text read write ∈
          ((report Config.default ("\u3000\n" ++ "create proc p" ++ "\t") " MSSQL ").run.turns
            (Dialogue.scripted .byHeader) memory).map Sigma.fst →
        read = "tsql" ∧ write = "singlestore" := by
  obtain ⟨-, -, -, alike, read, -⟩ :=
    @padding_and_spelling_ignored " MSSQL " "sql_server" "tsql" "\u3000\n" "\t" Config.default
      "create proc p" (by decide) (by decide) (by decide) (by decide)
  refine ⟨(alike .byHeader _).1, by rfl, ?_⟩
  intro memory text source write among
  apply read (Dialogue.scripted .byHeader) _ memory text source write
  · rw [List.map_append, List.map_append]
    exact List.mem_append_left _ (List.mem_append_left _ among)
  · intro text source memory unit answer
    cases answer
    exact ⟨rfl, rfl⟩

end Converter

end SqlConverter
