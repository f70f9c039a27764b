import SqlConverter.Proofs.Conversion.Ending

namespace SqlConverter.Converter

open Dialogue (Turn parseAnswers transpileAnswers replies)
open StatementResult (Converts)

variable {strategy : Strategy} {sql dialect : String} {stage : Stage} {turns : List Turn}
  {outcome : Except ConvertError Report} {units : List (Except TranspileError SqlUnit)}
  {answers : List (Except TranspileError String)} {asked : List Chat.Reply}

theorem Ending.invalidInput_iff (h : Ending strategy sql dialect units answers asked outcome) :
    (∃ detail, outcome = .error (.invalidInput detail)) ↔
      Text.isBlankText sql = true ∨ Dialect.resolve dialect = none ∨ ∃ e, units = [.error e] := by
  cases h with
  | refused h => rcases h with blank | unknown <;> simp [*]
  | unparsed h => simp
  | untranspiled h | unvalidated h | validated h | unextracted h | framed h | unassembled h
  | assembled h => simp [h.1, h.2]

theorem Ending.transpile_iff (h : Ending strategy sql dialect units answers asked outcome)
    (e : TranspileError) :
    outcome = .error (.transpile e) ↔
      (∃ c, handling? units = some c ∧ c ≠ .procedure) ∧ answers = [.error e] := by
  cases h with
  | untranspiled _ standalone => simp [handling?, standalone, eq_comm]
  | unextracted _ procedure | framed _ procedure | unassembled _ procedure
  | assembled _ procedure => simp [handling?, procedure]
  | _ => simp [handling?]

theorem Ending.extraction_iff (h : Ending strategy sql dialect units answers asked outcome)
    (e : ServiceError) :
    outcome = .error (.extraction e) ↔
      handling? units = some .procedure ∧ asked[0]? = some (.error e) := by
  cases h with
  | unextracted _ procedure => simp [handling?, procedure, eq_comm]
  | unvalidated _ standalone => simp [handling?, standalone]
  | _ => simp

theorem Ending.reassembly_iff (h : Ending strategy sql dialect units answers asked outcome)
    (e : ServiceError) :
    outcome = .error (.reassembly e) ↔
      handling? units = some .procedure ∧ strategy = .assistant ∧
        (∃ reply, asked[0]? = some (.ok reply)) ∧ asked[1]? = some (.error e) := by
  cases h with
  | unassembled _ procedure assistant => simp [handling?, procedure, assistant, eq_comm]
  | _ => simp

theorem Ending.validation_iff (h : Ending strategy sql dialect units answers asked outcome)
    (e : ServiceError) :
    outcome = .error (.validation e) ↔
      (∃ c, handling? units = some c ∧ c ≠ .procedure) ∧
        (∃ converted, answers = [.ok converted]) ∧ asked[0]? = some (.error e) := by
  cases h with
  | unvalidated _ standalone => simp [handling?, standalone, eq_comm]
  | unextracted _ procedure | framed _ procedure | unassembled _ procedure
  | assembled _ procedure => simp [handling?, procedure]
  | _ => simp

theorem Ending.ne_config (h : Ending strategy sql dialect units answers asked outcome)
    (detail : String) : outcome ≠ .error (.config detail) := by
  cases h <;> simp

theorem Ending.ne_read (h : Ending strategy sql dialect units answers asked outcome)
    (cause : ReadError) : outcome ≠ .error (.read cause) := by
  cases h <;> simp

theorem Ending.isServiceFailure_iff
    (h : Ending strategy sql dialect units answers asked outcome) :
    (∃ e, outcome = .error e ∧ e.isServiceFailure = true) ↔ ∃ e, .error e ∈ asked := by
  cases h <;> simp [ConvertError.isServiceFailure]

/-- A procedure outlives every failure of the transpiler. -/
theorem Ending.fails_iff (h : Ending strategy sql dialect units answers asked outcome) :
    (∃ e, outcome = .error e) ↔
      (Text.isBlankText sql = true ∨ Dialect.resolve dialect = none) ∨
        (∃ e, .error e ∈ units) ∨
        (handling? units ≠ some .procedure ∧ ∃ e, .error e ∈ answers) ∨
        ∃ e, .error e ∈ asked := by
  cases h with
  | refused h => simp [h]
  | validated h => simp [h.1, h.2]
  | framed h procedure | assembled h procedure => simp [h.1, h.2, handling?, procedure]
  | untranspiled _ standalone => simp [handling?, standalone]
  | _ => simp

theorem Ending.fails_iff_of_procedure
    (h : Ending strategy sql dialect units answers asked outcome)
    (procedure : handling? units = some .procedure) :
    (∃ e, outcome = .error e) ↔ ∃ e, .error e ∈ asked := by
  cases h with
  | untranspiled _ standalone => simp [handling?, standalone] at procedure
  | refused | unparsed => simp [handling?] at procedure
  | _ => simp

/-- An answer that a conversion does not go on from, when its text is handled so. -/
def Fatal (handling : Option HandlingClass) : Turn → Prop
  | ⟨.parse _ _, answer⟩ => ∃ e, answer = .error e
  | ⟨.transpile _ _ _, answer⟩ => handling ≠ some .procedure ∧ ∃ e, answer = .error e
  | ⟨.complete _, reply⟩ => ∃ e, reply = .error e

theorem fatal_iff (handling : Option HandlingClass) (turn : Turn) :
    Fatal handling turn ↔
      (∃ e, turn.parseAnswer? = some (.error e)) ∨
        (handling ≠ some .procedure ∧ ∃ e, turn.transpileAnswer? = some (.error e)) ∨
        ∃ e, turn.reply? = some (.error e) := by
  obtain ⟨call, answer⟩ := turn
  cases call <;>
    simp [Fatal, Turn.parseAnswer?, Turn.transpileAnswer?, Turn.reply?]

theorem exists_fatal_iff (handling : Option HandlingClass) (turns : List Turn) :
    (∃ turn ∈ turns, Fatal handling turn) ↔
      (∃ e, .error e ∈ parseAnswers turns) ∨
        (handling ≠ some .procedure ∧ ∃ e, .error e ∈ transpileAnswers turns) ∨
        ∃ e, .error e ∈ replies turns := by
  simp only [fatal_iff, parseAnswers, transpileAnswers, replies, List.mem_filterMap]
  constructor
  · rintro ⟨turn, mem, ⟨e, h⟩ | ⟨standalone, e, h⟩ | ⟨e, h⟩⟩
    · exact .inl ⟨e, turn, mem, h⟩
    · exact .inr (.inl ⟨standalone, e, turn, mem, h⟩)
    · exact .inr (.inr ⟨e, turn, mem, h⟩)
  · rintro (⟨e, turn, mem, h⟩ | ⟨standalone, e, turn, mem, h⟩ | ⟨e, turn, mem, h⟩)
    · exact ⟨turn, mem, .inl ⟨e, h⟩⟩
    · exact ⟨turn, mem, .inr (.inl ⟨standalone, e, h⟩)⟩
    · exact ⟨turn, mem, .inr (.inr ⟨e, h⟩)⟩

theorem not_fatal_of_converts {name : String} {batch : List String}
    {results : List StatementResult} (h : Converts name batch turns results) :
    ∀ turn ∈ turns, ¬ Fatal (some .procedure) turn := by
  induction h with
  | nil => simp
  | empty _ _ ih => exact ih
  | asked _ _ ih => simpa [Fatal] using ih

/-- Up to its reassembly, a procedure that was extracted has met nothing that would stop it. -/
theorem not_fatal_of_extracted {name dialect reply : String} {unit : SqlUnit}
    {messages : List Chat.Message} {batch : List String} {results : List StatementResult}
    (h : Converts name batch turns results) :
    ∀ turn ∈ [⟨.parse sql dialect, .ok unit⟩, ⟨.complete messages, .ok reply⟩] ++ turns,
      ¬ Fatal (some .procedure) turn := by
  have converted := not_fatal_of_converts h
  simpa [Fatal] using converted

theorem Protocol.not_fatal (h : Protocol strategy sql dialect stage turns outcome) :
    ∀ turn ∈ turns.dropLast, ¬ Fatal (handling? (parseAnswers turns)) turn := by
  cases h with
  | blank h | unknown h | unparsed h => simp
  | untranspiled h | validated h | unextracted h => simp [Fatal]
  | @framed _ _ unit _ _ h procedure delimited batch =>
    intro turn mem
    change ¬ Fatal (some unit.handling) turn
    rw [procedure]
    exact not_fatal_of_extracted batch turn (List.dropLast_subset _ mem)
  | @assembled _ _ unit _ _ _ h procedure assistant batch =>
    intro turn mem
    change ¬ Fatal (some unit.handling) turn
    rw [List.dropLast_concat] at mem
    rw [procedure]
    exact not_fatal_of_extracted batch turn mem

theorem Protocol.eq_nil_of_fatal (h : Protocol strategy sql dialect stage turns outcome)
    {before after : List Turn} {turn : Turn} (split : turns = before ++ turn :: after)
    (fatal : Fatal (handling? (parseAnswers turns)) turn) : after = [] := by
  cases after with
  | nil => rfl
  | cons next rest =>
    have early : turn ∈ turns.dropLast := by
      rw [split, List.dropLast_append_of_ne_nil (by simp)]
      simp
    exact absurd fatal (h.not_fatal turn early)

/-- What the outcome of a conversion tells of its turns, and its turns of the outcome. -/
structure Diagnosis (strategy : Strategy) (sql dialect : String) (turns : List Turn)
    (outcome : Except ConvertError Report) : Prop where
  invalidInput : (∃ detail, outcome = .error (.invalidInput detail)) ↔
    Text.isBlankText sql = true ∨ Dialect.resolve dialect = none ∨
      ∃ e, parseAnswers turns = [.error e]
  transpile : ∀ e, outcome = .error (.transpile e) ↔
    (∃ c, handling? (parseAnswers turns) = some c ∧ c ≠ .procedure) ∧
      transpileAnswers turns = [.error e]
  extraction : ∀ e, outcome = .error (.extraction e) ↔
    handling? (parseAnswers turns) = some .procedure ∧ (replies turns)[0]? = some (.error e)
  reassembly : ∀ e, outcome = .error (.reassembly e) ↔
    handling? (parseAnswers turns) = some .procedure ∧ strategy = .assistant ∧
      (∃ reply, (replies turns)[0]? = some (.ok reply)) ∧
      (replies turns)[1]? = some (.error e)
  validation : ∀ e, outcome = .error (.validation e) ↔
    (∃ c, handling? (parseAnswers turns) = some c ∧ c ≠ .procedure) ∧
      (∃ converted, transpileAnswers turns = [.ok converted]) ∧
      (replies turns)[0]? = some (.error e)
  ne_config : ∀ detail, outcome ≠ .error (.config detail)
  ne_read : ∀ cause, outcome ≠ .error (.read cause)
  serviceFailure : (∃ e, outcome = .error e ∧ e.isServiceFailure = true) ↔
    ∃ e, .error e ∈ replies turns
  fails : (∃ e, outcome = .error e) ↔
    (Text.isBlankText sql = true ∨ Dialect.resolve dialect = none) ∨
      ∃ turn ∈ turns, Fatal (handling? (parseAnswers turns)) turn
  fails_of_procedure : handling? (parseAnswers turns) = some .procedure →
    ((∃ e, outcome = .error e) ↔ ∃ e, .error e ∈ replies turns)
  stops : ∀ before turn after, turns = before ++ turn :: after →
    Fatal (handling? (parseAnswers turns)) turn → after = []

theorem Protocol.diagnosis (h : Protocol strategy sql dialect stage turns outcome) :
    Diagnosis strategy sql dialect turns outcome where
  invalidInput := h.ending.invalidInput_iff
  transpile := h.ending.transpile_iff
  extraction := h.ending.extraction_iff
  reassembly := h.ending.reassembly_iff
  validation := h.ending.validation_iff
  ne_config := h.ending.ne_config
  ne_read := h.ending.ne_read
  serviceFailure := h.ending.isServiceFailure_iff
  fails := by rw [exists_fatal_iff, h.ending.fails_iff]
  fails_of_procedure := h.ending.fails_iff_of_procedure
  stops := fun _ _ _ => h.eq_nil_of_fatal

theorem diagnosis_of_transcript {config : Config}
    (h : Dialogue.Transcript (report config sql dialect).run turns outcome) :
    Diagnosis config.reassembly sql dialect turns outcome := by
  obtain ⟨stage, protocol⟩ := protocol_of_transcript h
  exact protocol.diagnosis

/-- Whoever answers a conversion, its error names the stage and the failure that it comes from;
failures of the transpiler inside a procedure never come to light, and nothing is asked or
reported after any other failure. So it is when a transpiler and a script of replies answer. -/
theorem report_diagnosis (config : Config) (sql dialect : String) :
    (∀ {σ : Type} (act : (call : Call) → StateM σ call.Answer) (memory : σ),
      Diagnosis config.reassembly sql dialect
        ((report config sql dialect).run.turns act memory)
        ((report config sql dialect).run.runM act memory).1) ∧
    ∀ (t : Transpiler) (script : Script),
      ((report config sql dialect).run.run t script).calls =
        ((report config sql dialect).run.turns (Dialogue.scripted t) script).map Sigma.fst ∧
      Diagnosis config.reassembly sql dialect
        ((report config sql dialect).run.turns (Dialogue.scripted t) script)
        ((report config sql dialect).run.run t script).value := by
  constructor
  · intro σ act memory
    exact diagnosis_of_transcript (Dialogue.transcript_turns act _ memory)
  · intro t script
    rw [Dialogue.run_eq_runM]
    exact ⟨rfl, diagnosis_of_transcript (Dialogue.transcript_turns _ _ script)⟩

end SqlConverter.Converter
