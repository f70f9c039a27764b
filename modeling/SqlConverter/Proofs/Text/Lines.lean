import SqlConverter.Proofs.Text.Trimming

namespace SqlConverter.Text

/-- What holds of a last line, and of a line ahead of a text of which it holds, holds of every
text. -/
theorem line_induction {motive : List Char → Prop}
    (last : ∀ line, '\n' ∉ line → motive line)
    (more : ∀ line rest, '\n' ∉ line → motive rest → motive (line ++ '\n' :: rest))
    (cs : List Char) : motive cs := by
  by_cases broken : '\n' ∈ cs
  · obtain ⟨line, rest, split, unbroken⟩ := List.eq_append_cons_of_mem broken
    have shorter : rest.length < cs.length := by
      rw [split, List.length_append, List.length_cons]
      omega
    rw [split]
    exact more line rest unbroken (line_induction last more rest)
  · exact last cs broken
termination_by cs.length

theorem lines_eq_splitOn (cs : List Char) : lines cs = cs.splitOn '\n' := by
  induction cs with
  | nil => rfl
  | cons c rest ih =>
    rw [lines, List.splitOn_cons_eq_if_modifyHead, ih]
    simp only [beq_iff_eq]

theorem lines_of_unbroken {line : List Char} (unbroken : '\n' ∉ line) : lines line = [line] := by
  induction line with
  | nil => rfl
  | cons c rest ih =>
    rw [List.mem_cons, not_or] at unbroken
    rw [lines, if_neg (Ne.symm unbroken.1), ih unbroken.2]
    rfl

theorem lines_cons_line {line : List Char} (unbroken : '\n' ∉ line) (rest : List Char) :
    lines (line ++ '\n' :: rest) = line :: lines rest := by
  rw [lines_append_newline, lines_of_unbroken unbroken, List.singleton_append]

theorem newline_not_mem_lines {cs line : List Char} (h : line ∈ lines cs) : '\n' ∉ line := by
  induction cs using line_induction with
  | last cs unbroken =>
    rw [lines_of_unbroken unbroken, List.mem_singleton] at h
    exact h ▸ unbroken
  | more first rest unbroken ih =>
    rw [lines_cons_line unbroken, List.mem_cons] at h
    rcases h with rfl | later
    · exact unbroken
    · exact ih later

/-- A line without a carriage return as its last character. -/
def withoutReturn (line : List Char) : List Char :=
  if line.getLast? = some '\r' then line.dropLast else line

theorem rows_cons {c : Char} {rest : List Char} (inside : c ≠ '\n')
    (single : ∀ later, c = '\r' → rest ≠ '\n' :: later) :
    rows (c :: rest) = consFirst c (rows rest) := by
  rw [rows]
  · exact inside
  · exact fun later returns ended => single later returns ended

theorem rows_of_unbroken {line : List Char} (unbroken : '\n' ∉ line) :
    rows line = if line = [] then [] else [line] := by
  induction line with
  | nil => rfl
  | cons c rest ih =>
    rw [List.mem_cons, not_or] at unbroken
    have single : ∀ later, c = '\r' → rest ≠ '\n' :: later := by
      rintro later - rfl
      exact unbroken.2 (by simp)
    rw [rows_cons (Ne.symm unbroken.1) single, ih unbroken.2]
    by_cases empty : rest = [] <;> simp [empty, consFirst]

theorem rows_cons_line {line : List Char} (unbroken : '\n' ∉ line) (rest : List Char) :
    rows (line ++ '\n' :: rest) = withoutReturn line :: rows rest := by
  induction line with
  | nil => rfl
  | cons c line ih =>
    rw [List.mem_cons, not_or] at unbroken
    obtain ⟨first, others⟩ := unbroken
    cases line with
    | nil =>
      by_cases returns : c = '\r'
      · subst returns
        rfl
      · rw [List.cons_append, rows_cons (Ne.symm first) fun _ h => absurd h returns, ih others]
        simp [withoutReturn, returns, consFirst]
    | cons d line =>
      have single : ∀ later, c = '\r' → d :: line ++ '\n' :: rest ≠ '\n' :: later := by
        intro later _ ended
        exact others (by simp [(List.cons.inj ended).1])
      rw [List.cons_append, rows_cons (Ne.symm first) single, ih others]
      simp [withoutReturn, apply_ite (List.cons c), consFirst]

theorem trim_append_return (line : List Char) : trim (line ++ ['\r']) = trim line := by
  have before : allBlank [] := rfl
  have after : allBlank ['\r'] := rfl
  exact trim_padded before after line

theorem trim_withoutReturn (line : List Char) : trim (withoutReturn line) = trim line := by
  rw [withoutReturn]
  split
  · next ended =>
    obtain ⟨front, rfl⟩ := List.getLast?_eq_some_iff.mp ended
    rw [List.dropLast_concat, trim_append_return]
  · rfl

/-- Trimmed, the lines without their ends are the pieces, as far as there is something in them. -/
theorem filter_trim_rows (cs : List Char) :
    ((rows cs).map trim).filter (· ≠ []) = ((lines cs).map trim).filter (· ≠ []) := by
  induction cs using line_induction with
  | last line unbroken =>
    rw [rows_of_unbroken unbroken, lines_of_unbroken unbroken]
    by_cases empty : line = []
    · subst empty
      rfl
    · rw [if_neg empty]
  | more line rest unbroken ih =>
    rw [rows_cons_line unbroken, lines_cons_line unbroken, List.map_cons, List.map_cons,
      List.filter_cons, List.filter_cons, trim_withoutReturn, ih]

/-- A text with a carriage return ahead of each line feed. -/
def withReturns (cs : List Char) : List Char :=
  cs.flatMap fun c => if c = '\n' then ['\r', '\n'] else [c]

theorem withReturns_of_unbroken {line : List Char} (unbroken : '\n' ∉ line) :
    withReturns line = line := by
  have alone : ∀ c ∈ line, (if c = '\n' then ['\r', '\n'] else [c]) = [c] := by
    intro c among
    apply if_neg
    rintro rfl
    exact unbroken among
  rw [withReturns, List.flatMap_congr alone, List.flatMap_singleton']

theorem withReturns_cons_line {line : List Char} (unbroken : '\n' ∉ line) (rest : List Char) :
    withReturns (line ++ '\n' :: rest) = line ++ '\r' :: '\n' :: withReturns rest := by
  have front := withReturns_of_unbroken unbroken
  rw [withReturns] at front ⊢
  rw [List.flatMap_append, front, List.flatMap_cons]
  rfl

theorem trim_lines_withReturns (cs : List Char) :
    (lines (withReturns cs)).map trim = (lines cs).map trim := by
  induction cs using line_induction with
  | last line unbroken => rw [withReturns_of_unbroken unbroken]
  | more line rest unbroken ih =>
    have ended : '\n' ∉ line ++ ['\r'] := by simp [unbroken]
    rw [withReturns_cons_line unbroken, List.append_cons, lines_cons_line ended,
      lines_cons_line unbroken, List.map_cons, List.map_cons, trim_append_return, ih]

end SqlConverter.Text
