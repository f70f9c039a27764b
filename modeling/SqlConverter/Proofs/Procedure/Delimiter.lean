import SqlConverter.Proofs.Console.Commands
import SqlConverter.Proofs.Procedure.Framing

namespace SqlConverter.Procedure

open Console

theorem received?_framed (sql : String) :
    received? (frameOpening ++ sql ++ frameClosing) =
      (firstCommand? (sql.toList ++ frameClosing.toList)).map fun (command, left) =>
        (String.ofList command, String.ofList left) := by
  rw [received?, String.toList_append, String.toList_append, List.append_assoc]
  rfl

theorem toList_frameClosing :
    frameClosing.toList = '\n' :: '/' :: '/' :: "\nDELIMITER ;".toList := rfl

variable {sql : String}

theorem received?_of_contained (h : Contained sql) :
    received? (frameOpening ++ sql ++ frameClosing) = some (sql ++ "\n", "\nDELIMITER ;") := by
  have first : firstCommand? (sql.toList ++ frameClosing.toList) =
      some (sql.toList ++ ['\n'], "\nDELIMITER ;".toList) := by
    refine firstCommand?_eq_some_iff.mpr ⟨by simp [toList_frameClosing], ?_⟩
    have read : scan .plain (sql.toList ++ ['\n']) = some .plain := h
    rw [scan_concat, read]
    rfl
  rw [received?_framed, first]
  simp

theorem received?_of_interrupted (h : Interrupted sql) :
    ∃ before after, sql = before ++ "//" ++ after ∧
      received? (frameOpening ++ sql ++ frameClosing) = some (before, after ++ frameClosing) := by
  obtain ⟨before, after, first⟩ := interrupted_iff.mp h
  obtain ⟨split, -⟩ := firstCommand?_eq_some_iff.mp first
  refine ⟨String.ofList before, String.ofList after, ?_, ?_⟩
  · apply String.toList_inj.mp
    simp [split]
  · rw [received?_framed, firstCommand?_append first]
    simp

theorem received?_of_unfinished (h : Unfinished sql) :
    received? (frameOpening ++ sql ++ frameClosing) = none := by
  have split : sql.toList ++ frameClosing.toList =
      (sql.toList ++ ['\n']) ++ "//\nDELIMITER ;".toList := by
    simp [toList_frameClosing]
  have onward : ∃ p, scan .plain (sql.toList ++ frameClosing.toList) = some p := by
    rw [split, scan_append, ← ending]
    rcases h.comment_or_quoted with comment | ⟨mark, quoted⟩
    · rw [comment]
      exact ⟨.comment, rfl⟩
    · rw [quoted]
      exact ⟨.quoted mark, by cases mark <;> rfl⟩
  rw [received?_framed, firstCommand?_eq_none_iff.mpr onward, Option.map_none]

theorem part_ne_whole {before after : String} (split : sql = before ++ "//" ++ after) :
    before ≠ sql ++ "\n" := by
  intro same
  have lengths := congrArg String.length same
  rw [split] at lengths
  have newline : "\n".length = 1 := rfl
  simp only [String.length_append] at lengths
  omega

theorem received?_eq_whole_iff :
    received? (frameOpening ++ sql ++ frameClosing) = some (sql ++ "\n", "\nDELIMITER ;") ↔
      Contained sql := by
  refine ⟨?_, received?_of_contained⟩
  intro whole
  rcases contained_or_interrupted_or_unfinished sql with h | h | h
  · exact h
  · obtain ⟨before, after, split, part⟩ := received?_of_interrupted h
    rw [part, Option.some.injEq, Prod.mk.injEq] at whole
    exact absurd whole.1 (part_ne_whole split)
  · rw [received?_of_unfinished h] at whole
    cases whole

theorem received?_eq_part_iff :
    (∃ before after, sql = before ++ "//" ++ after ∧
      received? (frameOpening ++ sql ++ frameClosing) = some (before, after ++ frameClosing)) ↔
      Interrupted sql := by
  refine ⟨?_, received?_of_interrupted⟩
  rintro ⟨before, after, split, part⟩
  rcases contained_or_interrupted_or_unfinished sql with h | h | h
  · rw [received?_of_contained h, Option.some.injEq, Prod.mk.injEq] at part
    exact absurd part.1.symm (part_ne_whole split)
  · exact h
  · rw [received?_of_unfinished h] at part
    cases part

theorem received?_eq_none_iff :
    received? (frameOpening ++ sql ++ frameClosing) = none ↔ Unfinished sql := by
  refine ⟨?_, received?_of_unfinished⟩
  intro nothing
  rcases contained_or_interrupted_or_unfinished sql with h | h | h
  · rw [received?_of_contained h] at nothing
    cases nothing
  · obtain ⟨before, after, -, part⟩ := received?_of_interrupted h
    rw [part] at nothing
    cases nothing
  · exact h

/-- A quote that is left open hides the closing line. -/
example : received? (frameOpening ++ "select 'x;" ++ frameClosing) = none := by decide

theorem contained_joined {r : Report} (h : ∀ s ∈ r.statements, Contained s.result.text) :
    Contained r.joined := by
  apply contained_intercalate
  intro text among
  obtain ⟨s, present, rfl⟩ := List.mem_map.mp among
  exact h s present

/-- Whoever answers, a client receives the statements of a framed procedure as one command, and
the closing line as its delimiter, if and only if the joined statements are contained, as they are
if each of them is. It receives what is before a delimiter inside the statements if and only if one
stands there in the open, and no command if and only if a quote or a comment hides the closing
line. -/
theorem client_receives_statements_iff {σ : Type} {act : (call : Call) → StateM σ call.Answer}
    {memory : σ} {config : Config} {sql dialect : String} {r : Report}
    (h : Framed act memory config sql dialect r) :
    (received? r.output = some (r.joined ++ "\n", "\nDELIMITER ;") ↔ Contained r.joined) ∧
    ((∀ s ∈ r.statements, Contained s.result.text) → Contained r.joined) ∧
    ((∃ before after, r.joined = before ++ "//" ++ after ∧
      received? r.output = some (before, after ++ "\n//\nDELIMITER ;")) ↔
      Interrupted r.joined) ∧
    (received? r.output = none ↔ Unfinished r.joined) := by
  rw [h.output_eq]
  exact ⟨received?_eq_whole_iff, contained_joined, received?_eq_part_iff, received?_eq_none_iff⟩

/-- Two slashes in a string, in the name of a column and in a comment. -/
theorem client_receives_statements_iff_hidden :
    received? "DELIMITER //\nselect '//', `//` -- //;\n;\n//\nDELIMITER ;" =
      some ("select '//', `//` -- //;\n;\n", "\nDELIMITER ;") := by
  have framed : Framed (Dialogue.scripted .byHeader) (.of [.ok "select '//', `//` -- //\n;"])
      { reassembly := .delimited } "create proc p" "tsql"
      ⟨"tsql", .procedure, [⟨"select '//', `//` -- //", .converted "select '//', `//` -- //;"⟩,
        ⟨";", .unconverted ";"⟩],
        "DELIMITER //\nselect '//', `//` -- //;\n;\n//\nDELIMITER ;"⟩ := ⟨rfl, by rfl, rfl⟩
  obtain ⟨whole, together, -⟩ := client_receives_statements_iff framed
  exact whole.mpr (together (by decide))

/-- Two slashes in the open of a statement end the command there. -/
theorem statement_cut_at_slashes :
    ∃ r, Framed (Dialogue.scripted .byHeader) (.of [.ok "select 7 // 2;"])
        { reassembly := .delimited } "create proc p" "tsql" r ∧
      r.joined = "select 7 // 2;" ∧
      received? r.output = some ("select 7 ", " 2;\n//\nDELIMITER ;") ∧
      received? r.output ≠ some (r.joined ++ "\n", "\nDELIMITER ;") := by
  have cut : received? "DELIMITER //\nselect 7 // 2;\n//\nDELIMITER ;" =
      some ("select 7 ", " 2;\n//\nDELIMITER ;") := by decide
  refine ⟨⟨"tsql", .procedure, [⟨"select 7 // 2;", .converted "select 7 // 2;"⟩],
    "DELIMITER //\nselect 7 // 2;\n//\nDELIMITER ;"⟩, ⟨rfl, by rfl, rfl⟩, rfl, cut, ?_⟩
  rw [cut]
  decide

end SqlConverter.Procedure
