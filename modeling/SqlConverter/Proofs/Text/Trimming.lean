import Mathlib.Data.List.DropRight
import SqlConverter.Text.Words

namespace SqlConverter.Text

theorem dropEndWhile_eq_rdropWhile (p : Char → Bool) (cs : List Char) :
    dropEndWhile p cs = cs.rdropWhile p := rfl

/-- Neither the first character nor the last is a blank. -/
def Tight (cs : List Char) : Prop :=
  (∀ c ∈ cs.head?, isBlank c = false) ∧ ∀ c ∈ cs.getLast?, isBlank c = false

theorem dropEndWhile_eq_self {p : Char → Bool} {cs : List Char}
    (h : ∀ c ∈ cs.getLast?, p c = false) : dropEndWhile p cs = cs := by
  rw [dropEndWhile_eq_rdropWhile, List.rdropWhile_eq_self_iff]
  intro filled
  simp [h _ (List.getLast_mem_getLast? filled)]

theorem trim_eq_self {cs : List Char} (h : Tight cs) : trim cs = cs := by
  obtain ⟨front, back⟩ := h
  have kept : cs.dropWhile isBlank = cs := by
    cases cs with
    | nil => rfl
    | cons c rest => exact List.dropWhile_cons_of_neg (by simp [front c rfl])
  rw [trim, kept, dropEndWhile_eq_self back]

/-- A shortened end has the same first character, if any is left. -/
theorem head?_dropEndWhile {p : Char → Bool} {cs : List Char} {c : Char}
    (h : c ∈ (dropEndWhile p cs).head?) : c ∈ cs.head? := by
  obtain ⟨rest, hr⟩ : dropEndWhile p cs <+: cs := List.rdropWhile_prefix p cs
  rw [← hr]
  cases hd : dropEndWhile p cs with
  | nil => simp [hd] at h
  | cons d ds => simpa [hd] using h

theorem head?_trim {cs : List Char} {c : Char} (h : c ∈ (trim cs).head?) :
    isBlank c = false := by
  have front := head?_dropEndWhile h
  have drop := List.head?_dropWhile_not isBlank cs
  rw [Option.mem_def.mp front] at drop
  simpa using drop

/-- What is left does not end in what was taken off. -/
theorem getLast?_dropEndWhile {p : Char → Bool} {cs : List Char} {c : Char}
    (h : c ∈ (dropEndWhile p cs).getLast?) : p c = false := by
  have back := List.head?_dropWhile_not p cs.reverse
  rw [dropEndWhile, List.getLast?_reverse, Option.mem_def] at h
  rw [h] at back
  simpa using back

theorem tight_trim (cs : List Char) : Tight (trim cs) :=
  ⟨fun _ => head?_trim, fun _ => getLast?_dropEndWhile⟩

theorem tight_append {a b : List Char} (m : List Char) (ha : Tight a) (hb : Tight b)
    (fa : a ≠ []) (fb : b ≠ []) : Tight (a ++ m ++ b) := by
  constructor
  · rw [List.append_assoc, List.head?_append_of_ne_nil _ fa]
    exact ha.1
  · rw [List.getLast?_append_of_ne_nil _ fb]
    exact hb.2

theorem dropEndWhile_append_of_all {p : Char → Bool} {after : List Char} (h : after.all p)
    (cs : List Char) : dropEndWhile p (cs ++ after) = dropEndWhile p cs := by
  have dropped : (after.reverse ++ cs.reverse).dropWhile p = cs.reverse.dropWhile p := by
    apply List.dropWhile_append_of_pos
    intro c hc
    exact List.all_eq_true.mp h c (List.mem_reverse.mp hc)
  rw [dropEndWhile, List.reverse_append, dropped, dropEndWhile]

/-- Of two parts the first is kept whole if the second is kept in part. -/
theorem dropEndWhile_append_of_not_all {p : Char → Bool} {b : List Char} (h : ¬ b.all p)
    (a : List Char) : dropEndWhile p (a ++ b) = a ++ dropEndWhile p b := by
  have kept : b.reverse.dropWhile p ≠ [] := by
    rw [Ne, dropWhile_eq_nil_iff_all, List.all_reverse]
    exact h
  rw [dropEndWhile, List.reverse_append, List.dropWhile_append,
    if_neg (by simpa using kept), List.reverse_append, List.reverse_reverse, dropEndWhile]

/-- A text is what is left of it at its end and what was taken off. -/
theorem exists_dropped (p : Char → Bool) (cs : List Char) :
    ∃ dropped : List Char, dropped.all p ∧ cs = dropEndWhile p cs ++ dropped := by
  refine ⟨(cs.reverse.takeWhile p).reverse, ?_, (dropEndWhile_append_takeWhile p cs).symm⟩
  rw [List.all_reverse]
  exact List.all_takeWhile

/-- A text is its trimmed form with blanks around it. -/
theorem exists_padding (cs : List Char) :
    ∃ before after, allBlank before ∧ allBlank after ∧ cs = before ++ trim cs ++ after := by
  obtain ⟨after, blank, split⟩ := exists_dropped isBlank (cs.dropWhile isBlank)
  refine ⟨cs.takeWhile isBlank, after, List.all_takeWhile, blank, ?_⟩
  rw [List.append_assoc, trim, ← split, List.takeWhile_append_dropWhile]

theorem trim_padded {before after : List Char} (hb : allBlank before) (ha : allBlank after)
    (cs : List Char) : trim (before ++ cs ++ after) = trim cs := by
  have front : (before ++ cs ++ after).dropWhile isBlank = (cs ++ after).dropWhile isBlank := by
    rw [List.append_assoc]
    exact List.dropWhile_append_of_pos (List.all_eq_true.mp hb)
  rw [trim, front, List.dropWhile_append, trim]
  -- A text of blanks only is used up from the front, so that the end is never reached.
  split
  · next empty =>
    have blank : after.dropWhile isBlank = [] := (dropWhile_eq_nil_iff_all isBlank after).mpr ha
    rw [blank, List.isEmpty_iff.mp empty]
  · exact dropEndWhile_append_of_all ha _

/-- What tells blanks as before can be done to each character before or after trimming. -/
theorem trim_map {f : Char → Char} (h : ∀ c, isBlank (f c) = isBlank c) (cs : List Char) :
    trim (cs.map f) = (trim cs).map f := by
  have blank : isBlank ∘ f = isBlank := funext h
  rw [trim, dropEndWhile, List.dropWhile_map, blank, ← List.map_reverse, List.dropWhile_map, blank,
    ← List.map_reverse, ← dropEndWhile, ← trim]

theorem trimmed_padded {before after : String} (hb : isBlankText before)
    (ha : isBlankText after) (s : String) : trimmed (before ++ s ++ after) = trimmed s := by
  rw [trimmed, String.toList_append, String.toList_append, trim_padded hb ha, trimmed]

theorem isBlankText_padded {before after : String} (hb : isBlankText before)
    (ha : isBlankText after) (s : String) :
    isBlankText (before ++ s ++ after) = isBlankText s := by
  rw [isBlankText] at hb ha
  simp only [isBlankText, String.toList_append, allBlank, List.all_append] at hb ha ⊢
  rw [hb, ha, Bool.true_and, Bool.and_true]

end SqlConverter.Text
