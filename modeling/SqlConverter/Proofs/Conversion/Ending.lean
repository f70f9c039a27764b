import SqlConverter.Proofs.Conversion.Protocol
import SqlConverter.Proofs.Dialogue.Script

namespace SqlConverter.Converter

open Dialogue (Turn parseAnswers transpileAnswers replies parseAnswers_append replies_append)

/-- How a text is handled, once it was parsed. -/
def handling? : List (Except TranspileError SqlUnit) → Option HandlingClass
  | .ok unit :: _ => some unit.handling
  | _ => none

/-- The end of a conversion, by the answers of the parser, of the transpiler and of the
assistant. -/
inductive Ending (strategy : Strategy) (sql dialect : String) :
    List (Except TranspileError SqlUnit) → List (Except TranspileError String) →
      List Chat.Reply → Except ConvertError Report → Prop
  | refused {detail : String}
      (h : Text.isBlankText sql = true ∨ Dialect.resolve dialect = none) :
      Ending strategy sql dialect [] [] [] (.error (.invalidInput detail))
  | unparsed {name detail : String} {e : TranspileError} (h : Accepted sql dialect name) :
      Ending strategy sql dialect [.error e] [] [] (.error (.invalidInput detail))
  | untranspiled {name : String} {unit : SqlUnit} {e : TranspileError}
      (h : Accepted sql dialect name) (standalone : unit.handling ≠ .procedure) :
      Ending strategy sql dialect [.ok unit] [.error e] [] (.error (.transpile e))
  | unvalidated {name converted : String} {unit : SqlUnit} {e : ServiceError}
      (h : Accepted sql dialect name) (standalone : unit.handling ≠ .procedure) :
      Ending strategy sql dialect [.ok unit] [.ok converted] [.error e] (.error (.validation e))
  | validated {name converted reply : String} {unit : SqlUnit} {r : Report}
      (h : Accepted sql dialect name) (standalone : unit.handling ≠ .procedure)
      (kept : r.handling = unit.handling) :
      Ending strategy sql dialect [.ok unit] [.ok converted] [.ok reply] (.ok r)
  | unextracted {name : String} {unit : SqlUnit} {e : ServiceError}
      (h : Accepted sql dialect name) (procedure : unit.handling = .procedure) :
      Ending strategy sql dialect [.ok unit] [] [.error e] (.error (.extraction e))
  | framed {name reply : String} {unit : SqlUnit} {r : Report}
      {answers : List (Except TranspileError String)} (h : Accepted sql dialect name)
      (procedure : unit.handling = .procedure) (delimited : strategy = .delimited)
      (kept : r.handling = unit.handling) :
      Ending strategy sql dialect [.ok unit] answers [.ok reply] (.ok r)
  | unassembled {name reply : String} {unit : SqlUnit} {e : ServiceError}
      {answers : List (Except TranspileError String)} (h : Accepted sql dialect name)
      (procedure : unit.handling = .procedure) (assistant : strategy = .assistant) :
      Ending strategy sql dialect [.ok unit] answers [.ok reply, .error e]
        (.error (.reassembly e))
  | assembled {name reply last : String} {unit : SqlUnit} {r : Report}
      {answers : List (Except TranspileError String)} (h : Accepted sql dialect name)
      (procedure : unit.handling = .procedure) (assistant : strategy = .assistant)
      (kept : r.handling = unit.handling) :
      Ending strategy sql dialect [.ok unit] answers [.ok reply, .ok last] (.ok r)

variable {strategy : Strategy} {sql dialect : String} {stage : Stage} {turns : List Turn}
  {outcome : Except ConvertError Report}

theorem Protocol.ending (h : Protocol strategy sql dialect stage turns outcome) :
    Ending strategy sql dialect (parseAnswers turns) (transpileAnswers turns) (replies turns)
      outcome := by
  cases h with
  | blank h => exact .refused (.inl h)
  | unknown h unresolved => exact .refused (.inr unresolved)
  | unparsed h => exact .unparsed h
  | untranspiled h standalone => exact .untranspiled h standalone
  | @validated _ _ _ reply h standalone =>
    cases reply with
    | error e => exact .unvalidated h standalone
    | ok text => exact .validated h standalone rfl
  | unextracted h procedure => exact .unextracted h procedure
  | framed h procedure delimited batch =>
    rw [parseAnswers_append, batch.parseAnswers_eq_nil, replies_append, batch.replies_eq_nil]
    exact .framed h procedure delimited procedure.symm
  | @assembled _ _ _ _ _ last h procedure assistant batch =>
    rw [parseAnswers_append, parseAnswers_append, batch.parseAnswers_eq_nil, replies_append,
      replies_append, batch.replies_eq_nil]
    cases last with
    | error e => exact .unassembled h procedure assistant
    | ok text => exact .assembled h procedure assistant procedure.symm

theorem ending_of_transcript {config : Config}
    (h : Dialogue.Transcript (report config sql dialect).run turns outcome) :
    Ending config.reassembly sql dialect (parseAnswers turns) (transpileAnswers turns)
      (replies turns) outcome := by
  obtain ⟨stage, protocol⟩ := protocol_of_transcript h
  exact protocol.ending

/-- How many replies a conversion has asked for, told by its outcome. -/
def repliesAsked (strategy : Strategy) : Except ConvertError Report → Nat
  | .ok r => if r.handling = .procedure ∧ strategy = .assistant then 2 else 1
  | .error (.reassembly _) => 2
  | .error (.extraction _) | .error (.validation _) => 1
  | .error _ => 0

theorem repliesAsked_le (strategy : Strategy) (outcome : Except ConvertError Report) :
    repliesAsked strategy outcome ≤ 2 := by
  unfold repliesAsked
  split <;> (try split) <;> omega

theorem repliesAsked_of_not_isServiceFailure (strategy : Strategy) {e : ConvertError}
    (h : e.isServiceFailure = false) : repliesAsked strategy (.error e) = 0 := by
  cases e with
  | extraction | reassembly | validation => simp [ConvertError.isServiceFailure] at h
  | _ => rfl

theorem Ending.length_replies {units : List (Except TranspileError SqlUnit)}
    {answers : List (Except TranspileError String)} {asked : List Chat.Reply}
    (h : Ending strategy sql dialect units answers asked outcome) :
    asked.length = repliesAsked strategy outcome := by
  cases h with
  | validated _ standalone kept => simp [repliesAsked, kept, standalone]
  | framed _ _ delimited => simp [repliesAsked, delimited]
  | assembled _ procedure assistant kept => simp [repliesAsked, kept, procedure, assistant]
  | _ => rfl

theorem countP_calls_report (config : Config) (sql dialect : String) (t : Transpiler)
    (script : Script) :
    ((report config sql dialect).run.run t script).calls.countP Call.isComplete =
      repliesAsked config.reassembly ((report config sql dialect).run.run t script).value := by
  rw [Dialogue.run_eq_runM]
  dsimp only
  rw [Dialogue.countP_calls_eq_length_replies]
  exact (ending_of_transcript (Dialogue.transcript_turns _ _ script)).length_replies

end SqlConverter.Converter
