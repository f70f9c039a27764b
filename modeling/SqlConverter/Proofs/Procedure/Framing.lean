import SqlConverter.Proofs.Conversion.Protocol
import SqlConverter.Proofs.Conversion.Strategy

namespace SqlConverter

/-- The texts of all statements of a report, one to a line. -/
def Report.joined (r : Report) : String :=
  "\n".intercalate (r.statements.map fun s => s.result.text)

namespace Procedure

open Dialogue (Turn)
open StatementResult (Converts joined)

/-- What stands in a frame, if a text is one. -/
def inFrame? (text : String) : Option String :=
  (text.toList.dropPrefix? frameOpening.toList).bind fun rest =>
    (rest.dropSuffix? frameClosing.toList).map String.ofList

theorem inFrame?_framed (sql : String) :
    inFrame? (frameOpening ++ sql ++ frameClosing) = some sql := by
  have opened : (frameOpening ++ sql ++ frameClosing).toList.dropPrefix? frameOpening.toList =
      some (sql.toList ++ frameClosing.toList) := by
    rw [List.dropPrefix?_eq_some_iff]
    exact ⟨frameOpening.toList, by simp, by simp⟩
  have closed : (sql.toList ++ frameClosing.toList).dropSuffix? frameClosing.toList =
      some sql.toList := by
    rw [List.dropSuffix?_eq_some_iff]
    exact ⟨frameClosing.toList, rfl, by simp⟩
  rw [inFrame?, opened, Option.bind_some, closed, Option.map_some, String.ofList_toList]

theorem trimmed_text {result : StatementResult}
    (h : ∃ source, result.text = StatementResult.terminated (StatementResult.body source)) :
    Text.trimmed result.text = result.text := by
  obtain ⟨source, same⟩ := h
  have tight := StatementResult.tight_terminated_body source
  rw [same, Text.trimmed, Text.trim_eq_self tight, String.ofList_toList]

theorem frame_joined {dialect : String} {batch : List String} {turns : List Turn}
    {results : List StatementResult} (h : Converts dialect batch turns results) :
    frame (joined results) = frameOpening ++ joined results ++ frameClosing := by
  rw [frame, StatementResult.trimmed_joined h.exists_text]

theorem joined_procedureReport {unit : SqlUnit} {name output : String} {batch : List String}
    {turns : List Turn} {results : List StatementResult} (h : Converts name batch turns results) :
    (Converter.procedureReport unit batch results output).joined = joined results := by
  have texts : (List.zipWith ConvertedStatement.mk batch results).map (fun s => s.result.text) =
      results.map StatementResult.text := by
    induction h with
    | nil => rfl
    | empty _ _ ih => simpa using ih
    | asked _ _ ih => simpa using ih
  rw [Report.joined, Converter.procedureReport, texts, joined]

/-- A conversion of a procedure that succeeds under the strategy without the assistant. -/
structure Framed {σ : Type} (act : (call : Call) → StateM σ call.Answer) (memory : σ)
    (config : Config) (sql dialect : String) (r : Report) : Prop where
  delimited : config.reassembly = .delimited
  returned : ((Converter.report config sql dialect).run.runM act memory).1 = .ok r
  procedure : r.handling = .procedure

variable {σ σ' : Type} {act : (call : Call) → StateM σ call.Answer} {memory : σ}
  {act' : (call : Call) → StateM σ' call.Answer} {memory' : σ'}
  {config config' : Config} {sql dialect sql' dialect' : String} {r r' : Report}

theorem Framed.exists_batch (h : Framed act memory config sql dialect r) :
    ∃ (name : String) (batch : List String) (turns : List Turn) (results : List StatementResult),
      Converts name batch turns results ∧ r.joined = joined results ∧
        r.output = frame (joined results) := by
  have transcript := Dialogue.transcript_turns act (Converter.report config sql dialect).run memory
  rw [h.returned] at transcript
  obtain ⟨stage, protocol⟩ := Converter.protocol_of_transcript transcript
  generalize Dialogue.turns act _ memory = turns at protocol
  generalize ended : (Except.ok r : Except ConvertError Report) = outcome at protocol
  cases protocol with
  | blank _ => cases ended
  | unknown _ _ => cases ended
  | unparsed _ => cases ended
  | untranspiled _ _ => cases ended
  | unextracted _ _ => cases ended
  | validated _ standalone =>
    obtain ⟨_, text, -, rfl⟩ := Converter.eq_of_concluded ended.symm
    exact absurd h.procedure standalone
  | assembled _ _ assistant _ => cases h.delimited.symm.trans assistant
  | framed _ _ _ batch =>
    cases ended
    exact ⟨_, _, _, _, batch, joined_procedureReport batch, rfl⟩

theorem Framed.output_eq (h : Framed act memory config sql dialect r) :
    r.output = frameOpening ++ r.joined ++ frameClosing := by
  obtain ⟨name, batch, turns, results, converts, same, output⟩ := h.exists_batch
  rw [output, same, frame_joined converts]

theorem Framed.inFrame?_output (h : Framed act memory config sql dialect r) :
    inFrame? r.output = some r.joined := by
  rw [h.output_eq, inFrame?_framed]

theorem Framed.joined_eq (h : Framed act memory config sql dialect r)
    (h' : Framed act' memory' config' sql' dialect' r') (same : r.output = r'.output) :
    r.joined = r'.joined := by
  have taken := h.inFrame?_output
  rw [same, h'.inFrame?_output] at taken
  exact (Option.some.inj taken).symm

/-- Whoever answers a batch, trimming leaves each result and all of them together as they are, so
that the frame holds the joined results unchanged and they can be taken out of it again. So it is
with the output of every conversion of a procedure that frames its statements, and two of these
conversions with different joined results have different outputs. -/
theorem framing_alters_nothing {σ : Type} (act : (call : Call) → StateM σ call.Answer) :
    (∀ (dialect : String) (batch : List String) (memory : σ) (results : List StatementResult),
      results = ((StatementResult.ofBatch dialect batch).runM act memory).1 →
      (∀ result ∈ results, Text.trimmed result.text = result.text) ∧
      frame (joined results) =
        "DELIMITER //\n" ++ joined results ++ "\n//\nDELIMITER ;" ∧
      inFrame? (frame (joined results)) = some (joined results)) ∧
    (∀ {memory : σ} {config : Config} {sql dialect : String} {r : Report},
      Framed act memory config sql dialect r →
      r.output = "DELIMITER //\n" ++ r.joined ++ "\n//\nDELIMITER ;" ∧
      inFrame? r.output = some r.joined) ∧
    ∀ {σ' : Type} {act' : (call : Call) → StateM σ' call.Answer} {memory : σ} {memory' : σ'}
      {config config' : Config} {sql dialect sql' dialect' : String} {r r' : Report},
      Framed act memory config sql dialect r → Framed act' memory' config' sql' dialect' r' →
      r.joined ≠ r'.joined → r.output ≠ r'.output := by
  refine ⟨?_, ?_, ?_⟩
  · rintro dialect batch memory results rfl
    have converts := StatementResult.transcript_ofBatch_iff.mp
      (Dialogue.transcript_turns act (StatementResult.ofBatch dialect batch) memory)
    refine ⟨?_, frame_joined converts, ?_⟩
    · intro result among
      exact trimmed_text (converts.exists_text result among)
    · rw [frame_joined converts, inFrame?_framed]
  · intro memory config sql dialect r h
    exact ⟨h.output_eq, h.inFrame?_output⟩
  · intro σ' act' memory memory' config config' sql dialect sql' dialect' r r' h h' different same
    exact different (h.joined_eq h' same)

/-- A transpiler whose answers begin with white space. -/
def indenting : Transpiler where
  parse := Transpiler.byHeader.parse
  transpile := fun text _ _ => .ok ("\n  " ++ text)

/-- Two procedures whose statements begin or end in white space. -/
theorem framing_alters_nothing_samples :
    frame (joined [.converted "select 1;", .unconverted ";"]) =
      "DELIMITER //\n" ++ "select 1;\n;" ++ "\n//\nDELIMITER ;" ∧
    inFrame? "DELIMITER //\nselect 1;\n;\n//\nDELIMITER ;" = some "select 1;\n;" ∧
    "DELIMITER //\nselect 1;\n;\n//\nDELIMITER ;" ≠ "DELIMITER //\nbad;\n//\nDELIMITER ;" := by
  have long : Framed (Dialogue.scripted indenting) (.of [.ok " select 1 ;;\n ;"])
      { reassembly := .delimited } "create proc p" "tsql"
      ⟨"tsql", .procedure,
        [⟨"select 1 ;;", .converted "select 1;"⟩, ⟨";", .unconverted ";"⟩],
        "DELIMITER //\nselect 1;\n;\n//\nDELIMITER ;"⟩ := ⟨rfl, by rfl, rfl⟩
  have short : Framed (Dialogue.scripted .byHeader) (.of [.ok "bad;"])
      { reassembly := .delimited } "create proc q" "mssql"
      ⟨"tsql", .procedure, [⟨"bad;", .unconverted "bad;"⟩],
        "DELIMITER //\nbad;\n//\nDELIMITER ;"⟩ := ⟨rfl, by rfl, rfl⟩
  obtain ⟨batches, conversions, differ⟩ := framing_alters_nothing (Dialogue.scripted indenting)
  obtain ⟨-, unchanged, -⟩ := batches "tsql" ["select 1 ;;", ";"] (.of [])
    [.converted "select 1;", .unconverted ";"] rfl
  exact ⟨unchanged, (conversions long).2, differ long short (by decide)⟩

end Procedure

end SqlConverter
