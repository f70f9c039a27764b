import SqlConverter.StatementResult
import SqlConverter.Proofs.Dialogue.Transcript

namespace SqlConverter.StatementResult

open Dialogue (Turn Transcript)

/-- How the statements of a batch become results, and what is said on the way. -/
inductive Converts (dialect : String) :
    List String → List Turn → List StatementResult → Prop
  | nil : Converts dialect [] [] []
  | empty {statement : String} {rest : List String} {turns : List Turn}
      {results : List StatementResult} (blank : Text.isBlankText (body statement) = true)
      (h : Converts dialect rest turns results) :
      Converts dialect (statement :: rest) turns (unconverted ";" :: results)
  | asked {statement : String} {rest : List String} {turns : List Turn}
      {results : List StatementResult} {answer : Except TranspileError String}
      (blank : Text.isBlankText (body statement) = false)
      (h : Converts dialect rest turns results) :
      Converts dialect (statement :: rest)
        (⟨.transpile (body statement) dialect Dialect.target, answer⟩ :: turns)
        (ofAnswer (body statement) answer :: results)

theorem ofStatement_of_blank {statement : String} (dialect : String)
    (blank : Text.isBlankText (body statement) = true) :
    ofStatement statement dialect = .done (unconverted ";") := by
  rw [ofStatement, if_pos blank]
  rfl

theorem ofStatement_of_body {statement : String} (dialect : String)
    (blank : Text.isBlankText (body statement) = false) :
    ofStatement statement dialect =
      .ask (.transpile (body statement) dialect Dialect.target) fun answer =>
        .done (ofAnswer (body statement) answer) := by
  rw [ofStatement, if_neg (by simp [blank])]
  rfl

theorem transcript_ofBatch_cons_iff {dialect statement : String} {rest : List String}
    {turns : List Turn} {results : List StatementResult} :
    Transcript (ofBatch dialect (statement :: rest)) turns results ↔
      ∃ result first others second, turns = first ++ second ∧ results = result :: others ∧
        Transcript (ofStatement statement dialect) first result ∧
        Transcript (ofBatch dialect rest) second others := by
  simp only [ofBatch, Dialogue.transcript_bind_iff]
  constructor
  · rintro ⟨result, first, _, rfl, hs, others, second, last, rfl, hb, hp⟩
    obtain ⟨rfl, rfl⟩ := Dialogue.transcript_done_iff.mp hp
    exact ⟨result, first, others, second, by simp, rfl, hs, hb⟩
  · rintro ⟨result, first, others, second, rfl, rfl, hs, hb⟩
    exact ⟨result, first, second, rfl, hs, others, second, [], by simp, hb, .done _⟩

theorem transcript_ofBatch_iff {dialect : String} {batch : List String} {turns : List Turn}
    {results : List StatementResult} :
    Transcript (ofBatch dialect batch) turns results ↔ Converts dialect batch turns results := by
  induction batch generalizing turns results with
  | nil =>
    constructor
    · intro h
      obtain ⟨rfl, rfl⟩ := Dialogue.transcript_done_iff.mp h
      exact .nil
    · intro h
      cases h
      exact .done _
  | cons statement rest ih =>
    rw [transcript_ofBatch_cons_iff]
    constructor
    · rintro ⟨result, first, others, second, rfl, rfl, hs, hb⟩
      cases blank : Text.isBlankText (body statement) with
      | true =>
        rw [ofStatement_of_blank dialect blank] at hs
        obtain ⟨rfl, rfl⟩ := Dialogue.transcript_done_iff.mp hs
        exact .empty blank (ih.mp hb)
      | false =>
        rw [ofStatement_of_body dialect blank] at hs
        obtain ⟨answer, last, rfl, hd⟩ := Dialogue.transcript_ask_iff.mp hs
        obtain ⟨rfl, rfl⟩ := Dialogue.transcript_done_iff.mp hd
        exact .asked blank (ih.mp hb)
    · intro h
      cases h with
      | empty blank h =>
        refine ⟨_, [], _, _, rfl, rfl, ?_, ih.mpr h⟩
        rw [ofStatement_of_blank dialect blank]
        exact .done _
      | asked blank h =>
        refine ⟨_, [_], _, _, rfl, rfl, ?_, ih.mpr h⟩
        rw [ofStatement_of_body dialect blank]
        exact .ask (.done _)

/-- One call for each statement with a body, in order. -/
theorem Converts.calls {dialect : String} {batch : List String} {turns : List Turn}
    {results : List StatementResult} (h : Converts dialect batch turns results) :
    turns.map Sigma.fst =
      ((batch.map body).filter fun sql => !Text.isBlankText sql).map
        fun sql => .transpile sql dialect Dialect.target := by
  induction h with
  | nil => rfl
  | empty blank _ ih => simpa [blank] using ih
  | asked blank _ ih => simpa [blank] using ih

theorem Converts.parseAnswers_eq_nil {dialect : String} {batch : List String} {turns : List Turn}
    {results : List StatementResult} (h : Converts dialect batch turns results) :
    Dialogue.parseAnswers turns = [] := by
  induction h with
  | nil => rfl
  | empty _ _ ih => exact ih
  | asked _ _ ih => exact ih

theorem Converts.replies_eq_nil {dialect : String} {batch : List String} {turns : List Turn}
    {results : List StatementResult} (h : Converts dialect batch turns results) :
    Dialogue.replies turns = [] := by
  induction h with
  | nil => rfl
  | empty _ _ ih => exact ih
  | asked _ _ ih => exact ih

end SqlConverter.StatementResult
