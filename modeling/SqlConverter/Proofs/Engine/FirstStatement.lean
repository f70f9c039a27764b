import SqlConverter.Sql.Engine
import SqlConverter.Proofs.Conversion.Run

namespace SqlConverter.Engine

open Converter (Accepted)
open StatementResult (body single terminated)

variable {engine : Engine}

/-- All that an engine makes of a text between two dialects. -/
def Answers (engine : Engine) (text read write : String) (statements : List String) : Prop :=
  ∃ source written, engine.dialect? read = .ok source ∧ engine.dialect? write = .ok written ∧
    engine.transpile text source written = .ok statements

/-- Each of the statements occurs in a text. -/
def AccountsFor (sql : String) (statements : List String) : Prop :=
  ∀ statement ∈ statements, statement.toList <:+: sql.toList

theorem transpiler_eq_ok_iff {text read write sql : String} :
    engine.transpiler.transpile text read write = .ok sql ↔
      ∃ rest, Answers engine text read write (sql :: rest) := by
  change engine.transpileFirst text read write = .ok sql ↔ _
  unfold transpileFirst Answers
  cases known : engine.dialect? read with
  | error e => simp [bind, Except.bind]
  | ok source =>
    cases knownTarget : engine.dialect? write with
    | error e => simp [bind, Except.bind]
    | ok written =>
      simp only [bind, Except.bind, Except.ok.injEq, exists_and_left, exists_eq_left']
      cases made : engine.transpile text source written with
      | error e => cases e <;> simp
      | ok statements => cases statements <;> simp [eq_comm]

theorem accountsFor_first_iff {first : String} {rest : List String} :
    AccountsFor first (first :: rest) ↔ AccountsFor first rest := by
  simp [AccountsFor]

theorem transpiler_accountsFor_iff {text read write first : String} {rest : List String}
    (h : Answers engine text read write (first :: rest)) :
    (∃ sql, engine.transpiler.transpile text read write = .ok sql ∧
      AccountsFor sql (first :: rest)) ↔ AccountsFor first rest := by
  rw [← accountsFor_first_iff]
  have made : engine.transpiler.transpile text read write = .ok first :=
    transpiler_eq_ok_iff.mpr ⟨rest, h⟩
  constructor
  · rintro ⟨sql, hs, accounts⟩
    cases made.symm.trans hs
    exact accounts
  · exact fun accounts => ⟨first, made, accounts⟩

/-- A parsed unit keeps its text and its dialect. -/
theorem eq_of_parse {text dialect : String} {unit : SqlUnit}
    (h : engine.transpiler.parse text dialect = .ok unit) :
    unit.text = text ∧ unit.dialect = dialect := by
  change engine.parseUnit text dialect = .ok unit at h
  unfold parseUnit at h
  cases read : engine.dialect? dialect with
  | error e => simp [read, bind, Except.bind] at h
  | ok read' =>
    simp only [read, bind, Except.bind] at h
    split at h
    · cases h
      exact ⟨rfl, rfl⟩
    · cases h
    · split at h
      · cases h
        exact ⟨rfl, rfl⟩
      · cases h

theorem transpile_eq_ok_iff {sql dialect out : String} {script : Script} :
    ((Converter.transpile sql dialect).run.run engine.transpiler script).value = .ok out ↔
      ∃ name unit rest, Accepted sql dialect name ∧
        engine.transpiler.parse (Text.trimmed sql) name = .ok unit ∧
        Answers engine (Text.trimmed sql) name Dialect.target (out :: rest) := by
  rw [Converter.value_transpile_eq_ok_iff]
  constructor
  · rintro ⟨name, unit, accepted, parsed, made⟩
    obtain ⟨text, dialect'⟩ := eq_of_parse parsed
    rw [text, dialect'] at made
    obtain ⟨rest, h⟩ := transpiler_eq_ok_iff.mp made
    exact ⟨name, unit, rest, accepted, parsed, h⟩
  · rintro ⟨name, unit, rest, accepted, parsed, h⟩
    obtain ⟨text, dialect'⟩ := eq_of_parse parsed
    refine ⟨name, unit, accepted, parsed, ?_⟩
    rw [text, dialect']
    exact transpiler_eq_ok_iff.mpr ⟨rest, h⟩

theorem validation_mem_calls_iff {config : Config} {sql dialect name content : String}
    {unit : SqlUnit} (script : Script) (accepted : Accepted sql dialect name)
    (parsed : engine.transpiler.parse (Text.trimmed sql) name = .ok unit)
    (standalone : unit.handling ≠ .procedure) :
    .complete [⟨.system, Prompt.conversionSystem⟩, ⟨.user, content⟩] ∈
        ((Converter.report config sql dialect).run.run engine.transpiler script).calls ↔
      ∃ first rest, Answers engine (Text.trimmed sql) name Dialect.target (first :: rest) ∧
        content = Prompt.validation unit.handling first := by
  rw [Converter.validation_mem_calls_iff script accepted parsed standalone]
  obtain ⟨text, dialect'⟩ := eq_of_parse parsed
  rw [text, dialect']
  constructor
  · rintro ⟨first, answer, rfl⟩
    obtain ⟨rest, h⟩ := transpiler_eq_ok_iff.mp answer
    exact ⟨first, rest, h, rfl⟩
  · rintro ⟨first, rest, h, rfl⟩
    exact ⟨first, transpiler_eq_ok_iff.mpr ⟨rest, h⟩, rfl⟩

theorem single_eq_converted_iff {dialect statement text : String} :
    single engine.transpiler dialect statement = .converted text ↔
      Text.isBlankText (body statement) = false ∧ ∃ first rest,
        Answers engine (body statement) dialect Dialect.target (first :: rest) ∧
          Text.isBlankText first = false ∧ text = terminated (body first) := by
  rw [StatementResult.single_eq_converted_iff]
  constructor
  · rintro ⟨filled, first, answer, kept⟩
    obtain ⟨rest, h⟩ := transpiler_eq_ok_iff.mp answer
    exact ⟨filled, first, rest, h, kept⟩
  · rintro ⟨filled, first, rest, h, kept⟩
    exact ⟨filled, first, transpiler_eq_ok_iff.mpr ⟨rest, h⟩, kept⟩

/-- The deterministic side of a conversion stands for the first statement that the engine makes of
a text. That statement alone is what a text is transpiled to, so that all statements are accounted
for if and only if the later ones occur in it, as when there are none; it is what a text is
converted to without the assistant, what the assistant is shown of it, and, with its terminator
renewed, what a converted statement of a procedure is. -/
theorem transpiler_stands_for_first (engine : Engine) (script : Script) :
    (∀ text read write sql, engine.transpiler.transpile text read write = .ok sql ↔
      ∃ rest, Answers engine text read write (sql :: rest)) ∧
    (∀ text read write first rest, Answers engine text read write (first :: rest) →
      ((∃ sql, engine.transpiler.transpile text read write = .ok sql ∧
        AccountsFor sql (first :: rest)) ↔ AccountsFor first rest)) ∧
    (∀ sql dialect out,
      ((Converter.transpile sql dialect).run.run engine.transpiler script).value = .ok out ↔
        ∃ name unit rest, Accepted sql dialect name ∧
          engine.transpiler.parse (Text.trimmed sql) name = .ok unit ∧
          Answers engine (Text.trimmed sql) name Dialect.target (out :: rest)) ∧
    (∀ config sql dialect name unit content, Accepted sql dialect name →
      engine.transpiler.parse (Text.trimmed sql) name = .ok unit →
      unit.handling ≠ .procedure →
      (.complete [⟨.system, Prompt.conversionSystem⟩, ⟨.user, content⟩] ∈
          ((Converter.report config sql dialect).run.run engine.transpiler script).calls ↔
        ∃ first rest, Answers engine (Text.trimmed sql) name Dialect.target (first :: rest) ∧
          content = Prompt.validation unit.handling first)) ∧
    ∀ dialect statement text,
      ((StatementResult.ofStatement statement dialect).run engine.transpiler script).value =
          .converted text ↔
        Text.isBlankText (body statement) = false ∧ ∃ first rest,
          Answers engine (body statement) dialect Dialect.target (first :: rest) ∧
            Text.isBlankText first = false ∧ text = terminated (body first) := by
  refine ⟨?_, ?_, ?_, ?_, ?_⟩
  · intro text read write sql
    exact transpiler_eq_ok_iff
  · intro text read write first rest h
    exact transpiler_accountsFor_iff h
  · intro sql dialect out
    exact transpile_eq_ok_iff
  · intro config sql dialect name unit content accepted parsed standalone
    exact validation_mem_calls_iff script accepted parsed standalone
  · intro dialect statement text
    rw [StatementResult.run_ofStatement, single_eq_converted_iff]

/-- An engine that takes every piece between semicolons for a statement. -/
def cutting : Engine where
  knows := fun _ => true
  parse := fun _ _ => .ok [.other]
  transpile := fun text _ _ => .ok ((text.toList.splitOn ';').map String.ofList)

theorem answers_cutting :
    Answers cutting "SELECT 1;SELECT 2" "tsql" Dialect.target ["SELECT 1", "SELECT 2"] := by
  have source : Dialect.resolve "tsql" = some "tsql" := by decide
  have written : Dialect.resolve Dialect.target = some Dialect.target := by decide
  refine ⟨"tsql", Dialect.target, ?_, ?_, by decide⟩
  · simp [dialect?, source, cutting]
  · simp [dialect?, written, cutting]

theorem not_accountsFor_second : ¬ AccountsFor "SELECT 1" ["SELECT 2"] := by
  intro h
  have second : '2' ∈ "SELECT 2".toList := by decide
  exact absurd ((h "SELECT 2" (by simp)).subset second) (by decide)

theorem parse_cutting (text : String) :
    cutting.transpiler.parse text "tsql" = .ok ⟨.other, text, "tsql"⟩ := by
  have source : Dialect.resolve "tsql" = some "tsql" := by decide
  change cutting.parseUnit text "tsql" = _
  simp [parseUnit, dialect?, source, cutting, bind, Except.bind, shapeOf]

/-- Of two statements the second is left out, and nothing fails; the assistant is shown the
first. -/
theorem transpiler_stands_for_first_of_two :
    (¬ ∃ sql, cutting.transpiler.transpile "SELECT 1;SELECT 2" "tsql" Dialect.target = .ok sql ∧
      AccountsFor sql ["SELECT 1", "SELECT 2"]) ∧
    .complete [⟨.system, Prompt.conversionSystem⟩,
        ⟨.user, Prompt.validation (SqlUnit.handling ⟨.other, "SELECT 1;SELECT 2", "tsql"⟩)
          "SELECT 1"⟩] ∈
      ((Converter.report Config.default "SELECT 1;SELECT 2" "tsql").run.run
        cutting.transpiler (.of [])).calls := by
  obtain ⟨-, accounted, -, shown, -⟩ := transpiler_stands_for_first cutting (.of [])
  have accepted : Accepted "SELECT 1;SELECT 2" "tsql" "tsql" := by
    constructor <;> decide
  have whole : Text.trimmed "SELECT 1;SELECT 2" = "SELECT 1;SELECT 2" := by decide
  have parsed : cutting.transpiler.parse (Text.trimmed "SELECT 1;SELECT 2") "tsql" =
      .ok ⟨.other, "SELECT 1;SELECT 2", "tsql"⟩ := by
    rw [whole]
    exact parse_cutting _
  constructor
  · rw [accounted _ _ _ _ _ answers_cutting]
    exact not_accountsFor_second
  · rw [shown _ _ _ _ _ _ accepted parsed (by decide), whole]
    exact ⟨"SELECT 1", ["SELECT 2"], answers_cutting, rfl⟩

/-- Not every statement of a list of two or more is accounted for: the transpiler neither fails nor
keeps the second statement of this text. -/
theorem transpiler_drops_statement :
    ¬ ∀ (engine : Engine) (text read write : String) (statements : List String),
      Answers engine text read write statements → 2 ≤ statements.length →
        (∃ e, engine.transpiler.transpile text read write = .error e) ∨
          ∃ sql, engine.transpiler.transpile text read write = .ok sql ∧
            AccountsFor sql statements := by
  intro h
  have made : cutting.transpiler.transpile "SELECT 1;SELECT 2" "tsql" Dialect.target =
      .ok "SELECT 1" := transpiler_eq_ok_iff.mpr ⟨_, answers_cutting⟩
  have neither := h cutting _ _ _ _ answers_cutting (by decide)
  rw [made] at neither
  rcases neither with ⟨e, failed⟩ | ⟨sql, kept, accounts⟩
  · cases failed
  · cases kept
    exact not_accountsFor_second (accountsFor_first_iff.mp accounts)

end SqlConverter.Engine
