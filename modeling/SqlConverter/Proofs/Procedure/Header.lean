import Mathlib.Data.List.Forall2
import SqlConverter.Proofs.Text.Words
import SqlConverter.Unit

namespace SqlConverter.ProcedureHeader

open Text (isBlank isBlankText allBlank)

variable {text : String} {ws : List String}

/-- The words of a header, in capital letters. -/
inductive Grammar : List String → Prop
  | plain {kind : String} (hk : kind ∈ ["PROC", "PROCEDURE"]) : Grammar ["CREATE", kind]
  | replacing {verb kind : String} (hv : verb ∈ ["ALTER", "REPLACE"])
      (hk : kind ∈ ["PROC", "PROCEDURE"]) : Grammar ["CREATE", "OR", verb, kind]

theorem isKind_iff {word : String} : isKind word = true ↔ word ∈ ["PROC", "PROCEDURE"] := by
  simp [isKind]

theorem head?_any_isKind_iff :
    ws.head?.any isKind = true ↔ ∃ kind rest, kind ∈ ["PROC", "PROCEDURE"] ∧ ws = kind :: rest := by
  cases ws with
  | nil => simp
  | cons word rest => simp [isKind]

/-- The recogniser takes exactly the headers, and does not look behind them. -/
theorem any_kindWord?_iff :
    (kindWord? ws).any isKind = true ↔ ∃ header, Grammar header ∧ header <+: ws := by
  constructor
  · intro h
    unfold kindWord? at h
    split at h
    · next verb rest =>
      split at h
      · next known =>
        obtain ⟨kind, later, hk, rfl⟩ := head?_any_isKind_iff.mp h
        refine ⟨["CREATE", "OR", verb, kind], .replacing ?_ hk, later, rfl⟩
        simpa using known
      · cases h
    · next rest _ =>
      obtain ⟨kind, later, hk, rfl⟩ := head?_any_isKind_iff.mp h
      exact ⟨["CREATE", kind], .plain hk, later, rfl⟩
    · cases h
  · rintro ⟨header, grammar, rest, rfl⟩
    cases grammar with
    | plain hk =>
      have other : ∀ word ∈ ["PROC", "PROCEDURE"], word ≠ "OR" := by decide
      have first := isKind_iff.mpr hk
      rw [List.cons_append, List.singleton_append, kindWord?]
      · exact first
      · intro verb later same
        exact other _ hk (List.cons.inj same).1
    | @replacing verb kind hv hk =>
      have known : verb = "ALTER" ∨ verb = "REPLACE" := by simpa using hv
      have last := isKind_iff.mpr hk
      simp only [List.cons_append, List.nil_append, kindWord?, if_pos known]
      exact last

/-- The words of a text, letters capital. -/
def capitals (text : String) : List String :=
  (Text.words text.toList).map fun w => .ofList (Text.upper w)

theorem opens_iff : opens text = true ↔ ∃ header, Grammar header ∧ header <+: capitals text :=
  any_kindWord?_iff

/-- Words that begin with a header are, as far as the header goes, its words. -/
theorem prefix_capitals_iff {header : List String} :
    header <+: capitals text ↔
      List.Forall₂ (fun word capital => word.map Char.toUpper = capital.toList)
        ((Text.words text.toList).take header.length) header := by
  have spelled (word : List Char) (capital : String) :
      word.map Char.toUpper = capital.toList ↔ .ofList (Text.upper word) = capital := by
    rw [← String.toList_inj, String.toList_ofList]
    rfl
  rw [List.prefix_iff_eq_take, capitals, ← List.map_take, eq_comm]
  simp only [spelled]
  rw [← List.forall₂_map_left_iff, List.forall₂_eq_eq_eq]

theorem capitals_of_sameCase {other : String}
    (h : other.toList.map Char.toLower = text.toList.map Char.toLower) :
    capitals other = capitals text := by
  have folded : Text.upper other.toList = Text.upper text.toList := Text.upper_eq_iff.mpr h
  have words := congrArg Text.words folded
  rw [Text.words_upper, Text.words_upper] at words
  have texts := congrArg (List.map String.ofList) words
  rwa [List.map_map, List.map_map] at texts

theorem capitals_append_gap {gap : String} (filled : gap ≠ "") (blank : isBlankText gap)
    (front back : String) : capitals (front ++ gap ++ back) = capitals front ++ capitals back := by
  have some_ : gap.toList ≠ [] := by simpa using filled
  rw [capitals, String.toList_append, String.toList_append, Text.words_append_gap some_ blank,
    List.map_append, capitals, capitals]

theorem capitals_padded {before after : String} (hb : isBlankText before)
    (ha : isBlankText after) (text : String) :
    capitals (before ++ text ++ after) = capitals text := by
  rw [capitals, String.toList_append, String.toList_append, Text.words_padded hb ha, capitals]

theorem opens_congr {other : String} (h : capitals other = capitals text) :
    opens other = opens text := by
  rw [Bool.eq_iff_iff, opens_iff, opens_iff, h]

/-- A text opens like a procedure just if its first words, which are what stands between blanks, are
those of a header up to the case of their letters. So neither the case of a letter matters, nor
which blanks stand somewhere and how many, nor blanks around the text, nor what follows a header
behind a blank. -/
theorem opens_like_header (text : String) :
    (opens text = true ↔ ∃ header, Grammar header ∧
      List.Forall₂ (fun word capital => word.map Char.toUpper = capital.toList)
        (((text.toList.splitOnP isBlank).filter (· ≠ [])).take header.length) header) ∧
    (∀ other, other.toList.map Char.toLower = text.toList.map Char.toLower →
      opens other = opens text) ∧
    (∀ front gap other back, text = front ++ gap ++ back → gap ≠ "" → isBlankText gap →
      other ≠ "" → isBlankText other → opens (front ++ other ++ back) = opens text) ∧
    (∀ before after, isBlankText before → isBlankText after →
      opens (before ++ text ++ after) = opens text) ∧
    (opens text = true → ∀ gap later, gap ≠ "" → isBlankText gap →
      opens (text ++ gap ++ later) = true) := by
  refine ⟨?_, ?_, ?_, ?_, ?_⟩
  · rw [opens_iff, ← Text.words_eq_splitOnP]
    simp only [prefix_capitals_iff]
  · intro other sameCase
    exact opens_congr (capitals_of_sameCase sameCase)
  · rintro front gap other back rfl filled blank filled' blank'
    apply opens_congr
    rw [capitals_append_gap filled blank, capitals_append_gap filled' blank']
  · intro before after hb ha
    exact opens_congr (capitals_padded hb ha text)
  · intro opened gap later filled blank
    obtain ⟨header, grammar, starts⟩ := opens_iff.mp opened
    rw [opens_iff, capitals_append_gap filled blank]
    exact ⟨header, grammar, starts.trans (List.prefix_append _ _)⟩

/-- A header over two lines, the same in capital letters, the same with a blank ahead and another
end of its line, and the same with something behind it. -/
theorem opens_like_header_samples :
    opens "create or\nalter\u2003proc" = true ∧ opens "CREATE OR\nALTER\u2003PROC" = true ∧
    opens "\u00a0create or\r\nalter\u2003proc" = true ∧
    opens "create or\nalter\u2003proc\tp as select 1" = true := by
  obtain ⟨grammar, sameCase, respaced, -, longer⟩ :=
    opens_like_header "create or\nalter\u2003proc"
  obtain ⟨-, -, -, padded, -⟩ := opens_like_header "create or\r\nalter\u2003proc"
  have opened : opens "create or\nalter\u2003proc" = true :=
    grammar.mpr ⟨["CREATE", "OR", "ALTER", "PROC"], .replacing (by decide) (by decide), by decide⟩
  have capital := sameCase "CREATE OR\nALTER\u2003PROC" (by decide)
  have returned := respaced "create or" "\n" "\r\n" "alter\u2003proc" (by decide) (by decide)
    (by decide) (by decide) (by decide)
  have ahead := padded "\u00a0" "" (by decide) (by decide)
  exact ⟨opened, capital.trans opened, ahead.trans (returned.trans opened),
    longer opened "\t" "p as select 1" (by decide) (by decide)⟩

end SqlConverter.ProcedureHeader
