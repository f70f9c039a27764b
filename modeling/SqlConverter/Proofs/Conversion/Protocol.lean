import Mathlib.Logic.ExistsUnique
import SqlConverter.Proofs.Conversion.Stages

namespace SqlConverter.Converter

open Dialogue (Transcript Turn)
open StatementResult (Converts)

/-- How far a conversion gets. -/
inductive Stage
  | refused
  | unparsed
  | untranspiled
  | validated
  | unextracted
  | framed
  | assembled
  deriving DecidableEq, Repr

/-- The whole of a conversion that ends at a stage: its calls with their answers, and its
outcome. -/
inductive Protocol (strategy : Strategy) (sql dialect : String) :
    Stage → List Turn → Except ConvertError Report → Prop
  | blank (h : Text.isBlankText sql = true) :
      Protocol strategy sql dialect .refused [] (.error (.invalidInput "input is empty"))
  | unknown (h : Text.isBlankText sql = false) (unresolved : Dialect.resolve dialect = none) :
      Protocol strategy sql dialect .refused []
        (.error (.invalidInput ("unknown source dialect '" ++ dialect ++ "'")))
  | unparsed {name : String} {e : TranspileError} (h : Accepted sql dialect name) :
      Protocol strategy sql dialect .unparsed
        [⟨.parse (Text.trimmed sql) name, .error e⟩]
        (.error (.invalidInput ("cannot parse as " ++ name ++ ": " ++ e.message)))
  | untranspiled {name : String} {unit : SqlUnit} {e : TranspileError}
      (h : Accepted sql dialect name) (standalone : unit.handling ≠ .procedure) :
      Protocol strategy sql dialect .untranspiled
        [⟨.parse (Text.trimmed sql) name, .ok unit⟩,
          ⟨.transpile unit.text unit.dialect Dialect.target, .error e⟩]
        (.error (.transpile e))
  | validated {name : String} {unit : SqlUnit} {converted : String} {reply : Chat.Reply}
      (h : Accepted sql dialect name) (standalone : unit.handling ≠ .procedure) :
      Protocol strategy sql dialect .validated
        [⟨.parse (Text.trimmed sql) name, .ok unit⟩,
          ⟨.transpile unit.text unit.dialect Dialect.target, .ok converted⟩,
          ⟨.complete [⟨.system, Prompt.conversionSystem⟩,
            ⟨.user, Prompt.validation unit.handling converted⟩], reply⟩]
        (concluded .validation (fun text => ⟨unit.dialect, unit.handling, [], text⟩) reply)
  | unextracted {name : String} {unit : SqlUnit} {e : ServiceError}
      (h : Accepted sql dialect name) (procedure : unit.handling = .procedure) :
      Protocol strategy sql dialect .unextracted
        [⟨.parse (Text.trimmed sql) name, .ok unit⟩,
          ⟨.complete [⟨.system, Prompt.extractionSystem⟩,
            ⟨.user, Prompt.extraction unit.text⟩], .error e⟩]
        (.error (.extraction e))
  | framed {name reply : String} {unit : SqlUnit} {turns : List Turn}
      {results : List StatementResult} (h : Accepted sql dialect name)
      (procedure : unit.handling = .procedure) (delimited : strategy = .delimited)
      (batch : Converts unit.dialect (Procedure.statementLines reply) turns results) :
      Protocol strategy sql dialect .framed
        ([⟨.parse (Text.trimmed sql) name, .ok unit⟩,
          ⟨.complete [⟨.system, Prompt.extractionSystem⟩,
            ⟨.user, Prompt.extraction unit.text⟩], .ok reply⟩] ++ turns)
        (.ok (procedureReport unit (Procedure.statementLines reply) results
          (Procedure.frame (StatementResult.joined results))))
  | assembled {name reply : String} {unit : SqlUnit} {turns : List Turn}
      {results : List StatementResult} {last : Chat.Reply} (h : Accepted sql dialect name)
      (procedure : unit.handling = .procedure) (assistant : strategy = .assistant)
      (batch : Converts unit.dialect (Procedure.statementLines reply) turns results) :
      Protocol strategy sql dialect .assembled
        ([⟨.parse (Text.trimmed sql) name, .ok unit⟩,
          ⟨.complete [⟨.system, Prompt.extractionSystem⟩,
            ⟨.user, Prompt.extraction unit.text⟩], .ok reply⟩] ++ turns ++
          [⟨.complete [⟨.system, Prompt.conversionSystem⟩,
            ⟨.user, Prompt.reassembly unit.text (StatementResult.joined results)⟩], last⟩])
        (concluded .reassembly
          (procedureReport unit (Procedure.statementLines reply) results) last)

variable {strategy : Strategy} {sql dialect : String}

theorem transcript_assembly_iff {unit : SqlUnit} {batch : List String}
    {results : List StatementResult} {turns : List Turn} {outcome : Except ConvertError Report} :
    Transcript (assembly strategy unit batch results) turns outcome ↔
      (strategy = .delimited ∧ turns = [] ∧
        outcome = .ok (procedureReport unit batch results
          (Procedure.frame (StatementResult.joined results)))) ∨
      (strategy = .assistant ∧ ∃ last,
        turns = [⟨.complete (Prompt.reassemblyMessages unit.text
          (StatementResult.joined results)), last⟩] ∧
        outcome = concluded .reassembly (procedureReport unit batch results) last) := by
  cases strategy with
  | assistant =>
    rw [assembly, Dialogue.transcript_ask_iff]
    constructor
    · rintro ⟨last, rest, rfl, h⟩
      obtain ⟨rfl, rfl⟩ := Dialogue.transcript_done_iff.mp h
      exact .inr ⟨rfl, last, rfl, rfl⟩
    · rintro (⟨h, -⟩ | ⟨-, last, rfl, rfl⟩)
      · cases h
      · exact ⟨last, [], rfl, .done _⟩
  | delimited =>
    rw [assembly, Dialogue.transcript_done_iff]
    constructor
    · exact fun h => .inl ⟨rfl, h⟩
    · rintro (⟨-, h⟩ | ⟨h, -⟩)
      · exact h
      · cases h

theorem transcript_standalone {name : String} {unit : SqlUnit} {turns : List Turn}
    {outcome : Except ConvertError Report} (accepted : Accepted sql dialect name)
    (standalone : unit.handling ≠ .procedure)
    (h : Transcript (convertStandalone unit).run turns outcome) :
    ∃ stage, Protocol strategy sql dialect stage
      (⟨.parse (Text.trimmed sql) name, .ok unit⟩ :: turns) outcome := by
  rw [convertStandalone_run] at h
  obtain ⟨answer, rest, rfl, hr⟩ := Dialogue.transcript_ask_iff.mp h
  cases answer with
  | error e =>
    obtain ⟨rfl, rfl⟩ := Dialogue.transcript_done_iff.mp hr
    exact ⟨.untranspiled, .untranspiled accepted standalone⟩
  | ok converted =>
    obtain ⟨reply, last, rfl, hd⟩ := Dialogue.transcript_ask_iff.mp hr
    obtain ⟨rfl, rfl⟩ := Dialogue.transcript_done_iff.mp hd
    exact ⟨.validated, .validated accepted standalone⟩

theorem transcript_procedure {name : String} {unit : SqlUnit} {turns : List Turn}
    {outcome : Except ConvertError Report} (accepted : Accepted sql dialect name)
    (procedure : unit.handling = .procedure)
    (h : Transcript (convertProcedure strategy unit).run turns outcome) :
    ∃ stage, Protocol strategy sql dialect stage
      (⟨.parse (Text.trimmed sql) name, .ok unit⟩ :: turns) outcome := by
  rw [convertProcedure_run] at h
  obtain ⟨answer, rest, rfl, hr⟩ := Dialogue.transcript_ask_iff.mp h
  cases answer with
  | error e =>
    obtain ⟨rfl, rfl⟩ := Dialogue.transcript_done_iff.mp hr
    exact ⟨.unextracted, .unextracted accepted procedure⟩
  | ok reply =>
    obtain ⟨results, batch, last, rfl, hb, ha⟩ := Dialogue.transcript_bind_iff.mp hr
    have converts := StatementResult.transcript_ofBatch_iff.mp hb
    rcases transcript_assembly_iff.mp ha with ⟨hs, rfl, rfl⟩ | ⟨hs, reply', rfl, rfl⟩
    · rw [List.append_nil]
      exact ⟨.framed, .framed accepted procedure hs converts⟩
    · exact ⟨.assembled, .assembled accepted procedure hs converts⟩

theorem protocol_of_transcript {config : Config} {turns : List Turn}
    {outcome : Except ConvertError Report}
    (h : Transcript (report config sql dialect).run turns outcome) :
    ∃ stage, Protocol config.reassembly sql dialect stage turns outcome := by
  rw [report_run] at h
  rcases refused_or_accepted sql dialect with blank | ⟨filled, unknown⟩ | ⟨name, accepted⟩
  · rw [parse_run_of_blank dialect blank] at h
    obtain ⟨rfl, rfl⟩ := Dialogue.transcript_done_iff.mp h
    exact ⟨.refused, .blank blank⟩
  · rw [parse_run_of_unknown filled unknown] at h
    obtain ⟨rfl, rfl⟩ := Dialogue.transcript_done_iff.mp h
    exact ⟨.refused, .unknown filled unknown⟩
  · rw [parse_run_of_accepted accepted, Dialogue.ask_bind] at h
    obtain ⟨parsed, rest, rfl, hr⟩ := Dialogue.transcript_ask_iff.mp h
    cases parsed with
    | error e =>
      obtain ⟨rfl, rfl⟩ := Dialogue.transcript_done_iff.mp hr
      exact ⟨.unparsed, .unparsed accepted⟩
    | ok unit =>
      rw [Dialogue.done_bind] at hr
      dsimp only at hr
      by_cases isProcedure : unit.handling = .procedure
      · rw [if_pos isProcedure] at hr
        exact transcript_procedure accepted isProcedure hr
      · rw [if_neg isProcedure] at hr
        exact transcript_standalone accepted isProcedure hr

theorem transcript_report_of_parsed {config : Config} {name : String} {unit : SqlUnit}
    {turns : List Turn} {outcome : Except ConvertError Report}
    (accepted : Accepted sql dialect name)
    (h : Transcript (if unit.handling = .procedure then
        (convertProcedure config.reassembly unit).run else (convertStandalone unit).run)
      turns outcome) :
    Transcript (report config sql dialect).run
      (⟨.parse (Text.trimmed sql) name, .ok unit⟩ :: turns) outcome := by
  rw [report_run, parse_run_of_accepted accepted, Dialogue.ask_bind]
  exact .ask h

theorem transcript_of_protocol {config : Config} {stage : Stage} {turns : List Turn}
    {outcome : Except ConvertError Report}
    (h : Protocol config.reassembly sql dialect stage turns outcome) :
    Transcript (report config sql dialect).run turns outcome := by
  cases h with
  | blank h =>
    rw [report_run, parse_run_of_blank dialect h]
    exact .done _
  | unknown h unresolved =>
    rw [report_run, parse_run_of_unknown h unresolved]
    exact .done _
  | unparsed h =>
    rw [report_run, parse_run_of_accepted h]
    exact .ask (.done _)
  | untranspiled h standalone =>
    apply transcript_report_of_parsed h
    rw [if_neg standalone, convertStandalone_run]
    exact .ask (.done _)
  | validated h standalone =>
    apply transcript_report_of_parsed h
    rw [if_neg standalone, convertStandalone_run]
    exact .ask (.ask (.done _))
  | unextracted h procedure =>
    apply transcript_report_of_parsed h
    rw [if_pos procedure, convertProcedure_run]
    exact .ask (.done _)
  | framed h procedure delimited batch =>
    apply transcript_report_of_parsed h
    rw [if_pos procedure, convertProcedure_run]
    refine .ask (Dialogue.transcript_bind_iff.mpr
      ⟨_, _, [], (List.append_nil _).symm, StatementResult.transcript_ofBatch_iff.mpr batch, ?_⟩)
    exact transcript_assembly_iff.mpr (.inl ⟨delimited, rfl, rfl⟩)
  | assembled h procedure assistant batch =>
    apply transcript_report_of_parsed h
    rw [if_pos procedure, convertProcedure_run]
    refine .ask (Dialogue.transcript_bind_iff.mpr
      ⟨_, _, _, rfl, StatementResult.transcript_ofBatch_iff.mpr batch, ?_⟩)
    exact transcript_assembly_iff.mpr (.inr ⟨assistant, _, rfl, rfl⟩)

/-- The stage is told by the first two answers and the strategy. -/
def Stage.ofTurns (strategy : Strategy) : List Turn → Stage
  | [] => .refused
  | [_] => .unparsed
  | _ :: ⟨.parse _ _, _⟩ :: _ => .unparsed
  | _ :: ⟨.transpile _ _ _, .error _⟩ :: _ => .untranspiled
  | _ :: ⟨.transpile _ _ _, .ok _⟩ :: _ => .validated
  | _ :: ⟨.complete _, .error _⟩ :: _ => .unextracted
  | _ :: ⟨.complete _, .ok _⟩ :: _ =>
    match strategy with
    | .assistant => .assembled
    | .delimited => .framed

theorem Protocol.stage_eq {stage : Stage} {turns : List Turn}
    {outcome : Except ConvertError Report}
    (h : Protocol strategy sql dialect stage turns outcome) :
    stage = Stage.ofTurns strategy turns := by
  cases h with
  | framed _ _ delimited => subst delimited; rfl
  | assembled _ _ assistant => subst assistant; rfl
  | _ => rfl

theorem existsUnique_stage {config : Config} {turns : List Turn}
    {outcome : Except ConvertError Report}
    (h : Transcript (report config sql dialect).run turns outcome) :
    ∃! stage, Protocol config.reassembly sql dialect stage turns outcome := by
  obtain ⟨stage, hs⟩ := protocol_of_transcript h
  exact ⟨stage, hs, fun other ho => ho.stage_eq.trans hs.stage_eq.symm⟩

/-- A conversion is of exactly one kind, whoever answers and whatever they remember; so it is when
a transpiler and a script of replies answer. The calls of a batch are one for each statement with a
body, in order. The answers up to a moment settle the next call, or that there is none. -/
theorem report_follows_protocol (config : Config) (sql dialect : String) :
    (∀ {σ : Type} (act : (call : Call) → StateM σ call.Answer) (memory : σ),
      ∃! stage, Protocol config.reassembly sql dialect stage
        ((report config sql dialect).run.turns act memory)
        ((report config sql dialect).run.runM act memory).1) ∧
    (∀ (t : Transpiler) (script : Script),
      ((report config sql dialect).run.run t script).calls =
        ((report config sql dialect).run.turns (Dialogue.scripted t) script).map Sigma.fst ∧
      ∃! stage, Protocol config.reassembly sql dialect stage
        ((report config sql dialect).run.turns (Dialogue.scripted t) script)
        ((report config sql dialect).run.run t script).value) ∧
    (∀ {name : String} {batch : List String} {turns : List Turn} {results : List StatementResult},
      Converts name batch turns results →
      turns.map Sigma.fst =
        ((batch.map StatementResult.body).filter fun body => !Text.isBlankText body).map
          fun body => .transpile body name Dialect.target) ∧
    ∀ {stage stage' : Stage} {turns turns' : List Turn}
      {outcome outcome' : Except ConvertError Report},
      Protocol config.reassembly sql dialect stage turns outcome →
      Protocol config.reassembly sql dialect stage' turns' outcome' →
      ∀ n, turns.take n = turns'.take n →
        (turns.map Sigma.fst).take (n + 1) = (turns'.map Sigma.fst).take (n + 1) := by
  refine ⟨?_, ?_, ?_, ?_⟩
  · intro σ act memory
    exact existsUnique_stage (Dialogue.transcript_turns act _ memory)
  · intro t script
    rw [Dialogue.run_eq_runM]
    exact ⟨rfl, existsUnique_stage (Dialogue.transcript_turns _ _ script)⟩
  · intro name batch turns results h
    exact h.calls
  · intro stage stage' turns turns' outcome outcome' h h' n same
    exact (transcript_of_protocol h).calls_take_succ (transcript_of_protocol h') n same

/-- A batch with a lone semicolon makes one call less; two conversions of a query part only behind
the transpiler's answer; and a procedure of three lines, one of them a lone semicolon, is asked
about once and framed. -/
theorem report_follows_protocol_query :
    ([⟨.transpile (StatementResult.body "SELECT 1;") "tsql" Dialect.target, .ok "SELECT 1"⟩] :
        List Turn).map Sigma.fst =
      (([";", "SELECT 1;"].map StatementResult.body).filter fun body =>
        !Text.isBlankText body).map (fun body => .transpile body "tsql" Dialect.target) ∧
    ([⟨.parse (Text.trimmed "SELECT 1") "tsql", .ok ⟨.other, "SELECT 1", "tsql"⟩⟩,
        ⟨.transpile "SELECT 1" "tsql" Dialect.target, .error .empty⟩] : List Turn).map
          Sigma.fst =
      (([⟨.parse (Text.trimmed "SELECT 1") "tsql", .ok ⟨.other, "SELECT 1", "tsql"⟩⟩,
        ⟨.transpile "SELECT 1" "tsql" Dialect.target, .ok "SELECT 1"⟩,
        ⟨.complete [⟨.system, Prompt.conversionSystem⟩,
          ⟨.user, Prompt.validation .generic "SELECT 1"⟩], .ok "SELECT 1;"⟩] : List Turn).map
          Sigma.fst).take 2 ∧
    ∃ turns, turns.map Sigma.fst = [.parse "create proc p" "tsql",
        .complete (Prompt.extractionMessages "create proc p"),
        .transpile "bad" "tsql" Dialect.target, .transpile "select 1" "tsql" Dialect.target] ∧
      Protocol .delimited "create proc p" "MSSQL" .framed turns (.ok ⟨"tsql", .procedure,
        [⟨"bad;", .unconverted "bad;"⟩, ⟨";", .unconverted ";"⟩,
          ⟨"select 1", .converted "select 1;"⟩],
        "DELIMITER //\nbad;\n;\nselect 1;\n//\nDELIMITER ;"⟩) := by
  have accepted : Accepted "SELECT 1" " TSQL" "tsql" := by
    constructor <;> decide
  have standalone : (⟨.other, "SELECT 1", "tsql"⟩ : SqlUnit).handling ≠ .procedure := by decide
  have batch : Converts "tsql" [";", "SELECT 1;"]
      [⟨.transpile (StatementResult.body "SELECT 1;") "tsql" Dialect.target, .ok "SELECT 1"⟩]
      [.unconverted ";", StatementResult.ofAnswer _ (.ok "SELECT 1")] :=
    .empty (by decide) (.asked (by decide) .nil)
  obtain ⟨-, -, calls, settled⟩ := report_follows_protocol Config.default "SELECT 1" " TSQL"
  refine ⟨calls batch, ?_, ?_⟩
  · exact settled (.untranspiled accepted standalone) (.validated accepted standalone) 1 rfl
  · obtain ⟨-, scripted, -⟩ :=
      report_follows_protocol { reassembly := .delimited } "create proc p" "MSSQL"
    obtain ⟨made, stage, protocol, -⟩ := scripted .byHeader (.of [.ok "bad;\n;\nselect 1"])
    have framed : stage = .framed := protocol.stage_eq
    subst framed
    exact ⟨_, made.symm, protocol⟩

end SqlConverter.Converter
