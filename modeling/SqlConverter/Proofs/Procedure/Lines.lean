import SqlConverter.Procedure
import SqlConverter.Proofs.Text.Lines

namespace SqlConverter.Procedure

open Text (Tight)

/-- A text that is read as one statement line. -/
structure StatementLine (text : String) : Prop where
  filled : text.toList ≠ []
  tight : Tight text.toList
  unbroken : '\n' ∉ text.toList
  unfenced : ¬ fence <+: text.toList

theorem isStatementLine_iff {line : List Char} :
    isStatementLine line = true ↔ line ≠ [] ∧ ¬ fence <+: line := by
  simp [isStatementLine, ← List.isPrefixOf_iff_prefix]

/-- The ends of the lines do not matter, only that a line feed is in each. -/
theorem statementLines_eq_pieces (reply : String) :
    statementLines reply =
      (((Text.lines reply.toList).map Text.trim).filter isStatementLine).map String.ofList := by
  have filled : ∀ pieces : List (List Char), pieces.filter isStatementLine =
      (pieces.filter (· ≠ [])).filter isStatementLine := by
    intro pieces
    rw [List.filter_filter]
    apply List.filter_congr
    intro line _
    rw [Bool.eq_iff_iff, Bool.and_eq_true, decide_eq_true_iff, isStatementLine_iff]
    exact ⟨fun h => ⟨h, h.1⟩, fun h => h.1⟩
  rw [statementLines, filled, Text.filter_trim_rows, ← filled]

theorem statementLines_eq (reply : String) :
    statementLines reply =
      (((reply.toList.splitOn '\n').map Text.trim).filter fun line =>
        line ≠ [] ∧ ¬ fence <+: line).map String.ofList := by
  rw [statementLines_eq_pieces, Text.lines_eq_splitOn]
  congr 1
  apply List.filter_congr
  intro line _
  rw [Bool.eq_iff_iff, isStatementLine_iff, decide_eq_true_iff]

theorem statementLine_of_mem {reply text : String} (h : text ∈ statementLines reply) :
    StatementLine text := by
  rw [statementLines_eq_pieces, List.mem_map] at h
  obtain ⟨line, kept, rfl⟩ := h
  obtain ⟨among, statement⟩ := List.mem_filter.mp kept
  obtain ⟨piece, cut, rfl⟩ := List.mem_map.mp among
  obtain ⟨filled, unfenced⟩ := isStatementLine_iff.mp statement
  obtain ⟨before, after, -, -, padded⟩ := Text.exists_padding piece
  have unbroken := Text.newline_not_mem_lines cut
  rw [padded] at unbroken
  constructor
  · rwa [String.toList_ofList]
  · rw [String.toList_ofList]
    exact Text.tight_trim piece
  · rw [String.toList_ofList]
    exact fun broken => unbroken (by simp [broken])
  · rwa [String.toList_ofList]

/-- Statement lines come back from a reply that has one to a line. -/
theorem statementLines_intercalate {texts : List String}
    (h : ∀ text ∈ texts, StatementLine text) :
    statementLines ("\n".intercalate texts) = texts := by
  by_cases none : texts = []
  · subst none
    decide
  · have pieces : Text.lines ("\n".intercalate texts).toList = texts.map String.toList := by
      rw [Text.lines_eq_splitOn, String.toList_intercalate]
      apply List.splitOn_intercalate
      · intro line among
        obtain ⟨text, ht, rfl⟩ := List.mem_map.mp among
        exact (h text ht).unbroken
      · simpa using none
    have trimmed : (texts.map String.toList).map Text.trim = texts.map String.toList := by
      rw [List.map_map]
      apply List.map_congr_left
      intro text ht
      exact Text.trim_eq_self (h text ht).tight
    have kept : (texts.map String.toList).filter isStatementLine = texts.map String.toList := by
      rw [List.filter_eq_self]
      intro line among
      obtain ⟨text, ht, rfl⟩ := List.mem_map.mp among
      exact isStatementLine_iff.mpr ⟨(h text ht).filled, (h text ht).unfenced⟩
    rw [statementLines_eq_pieces, pieces, trimmed, kept, List.map_map]
    simp [Function.comp_def]

theorem statementLines_append_newline (reply later : String) :
    statementLines (reply ++ "\n" ++ later) = statementLines reply ++ statementLines later := by
  have cut : (reply ++ "\n" ++ later).toList = reply.toList ++ '\n' :: later.toList := by simp
  rw [statementLines_eq_pieces, cut, Text.lines_append_newline, List.map_append,
    List.filter_append, List.map_append, ← statementLines_eq_pieces, ← statementLines_eq_pieces]

theorem statementLines_withReturns (reply : String) :
    statementLines (.ofList (Text.withReturns reply.toList)) = statementLines reply := by
  rw [statementLines_eq_pieces, String.toList_ofList, Text.trim_lines_withReturns,
    ← statementLines_eq_pieces]

/-- Without a line feed there is one line, whatever other ends of lines there are. -/
theorem statementLines_of_unbroken {reply : String} (unbroken : '\n' ∉ reply.toList) :
    statementLines reply =
      if isStatementLine (Text.trim reply.toList) then [Text.trimmed reply] else [] := by
  rw [statementLines_eq_pieces, Text.lines_of_unbroken unbroken, List.map_singleton,
    List.filter_singleton]
  cases isStatementLine (Text.trim reply.toList) <;> rfl

/-- The statements in a reply are the pieces between its line feeds, trimmed, without those that are
empty or begin with a fence. So each is a text that is read as one statement; a reply can be cut at
each line feed; a carriage return ahead of every line feed does not matter, and no other character
ends a line; and statements that are set one to a line are read as they were, those of a reply or
any others. -/
theorem statementLines_are_trimmed_pieces (reply : String) :
    (statementLines reply =
      (((reply.toList.splitOn '\n').map Text.trim).filter fun line =>
        line ≠ [] ∧ ¬ fence <+: line).map String.ofList) ∧
    (∀ text ∈ statementLines reply, StatementLine text) ∧
    (∀ later, statementLines (reply ++ "\n" ++ later) =
      statementLines reply ++ statementLines later) ∧
    statementLines (.ofList (Text.withReturns reply.toList)) = statementLines reply ∧
    ('\n' ∉ reply.toList → statementLines reply =
      if isStatementLine (Text.trim reply.toList) then [Text.trimmed reply] else []) ∧
    statementLines ("\n".intercalate (statementLines reply)) = statementLines reply ∧
    ∀ texts, (∀ text ∈ texts, StatementLine text) →
      statementLines ("\n".intercalate texts) = texts := by
  refine ⟨statementLines_eq reply, ?_, statementLines_append_newline reply,
    statementLines_withReturns reply, statementLines_of_unbroken, ?_, ?_⟩
  · intro text among
    exact statementLine_of_mem among
  · apply statementLines_intercalate
    intro text among
    exact statementLine_of_mem among
  · intro texts each
    exact statementLines_intercalate each

/-- A line with a lone carriage return and a separator of lines, with blanks around it, and two
statements of which the second begins with backquotes that are no fence. -/
theorem statementLines_are_trimmed_pieces_samples :
    statementLines " select\r1\u2028from t \u0085\r" = ["select\r1\u2028from t"] ∧
    statementLines ("\n".intercalate ["select 1;", "``;"]) = ["select 1;", "``;"] := by
  obtain ⟨-, -, -, -, single, -, -⟩ :=
    statementLines_are_trimmed_pieces " select\r1\u2028from t \u0085\r"
  obtain ⟨-, among, -, -, -, -, joined⟩ :=
    statementLines_are_trimmed_pieces "```sql\r\nselect 1;\r\n\r\n\t``;\n```"
  have read : statementLines "```sql\r\nselect 1;\r\n\r\n\t``;\n```" =
      ["select 1;", "``;"] := by rfl
  rw [read] at among
  exact ⟨(single (by decide)).trans (by decide), joined _ among⟩

end SqlConverter.Procedure
