import SqlConverter.Proofs.CommandLine.Layers
import SqlConverter.Proofs.Dialect.Resolution
import SqlConverter.Proofs.Text.Lines

namespace SqlConverter.CommandLine

variable {m : Type → Type} [Monad m] {readers : Readers} {s : Surroundings} {a : Arguments}
  {c : Config} {words names : List String} {name marked : String}

def defaultMark : List Char := " (default)".toList

/-- An indented line names a dialect; behind the name there may be the mark. -/
def entry? : List Char → Option (String × Bool)
  | ' ' :: ' ' :: rest =>
    if defaultMark.isSuffixOf rest then
      some (.ofList (rest.take (rest.length - defaultMark.length)), true)
    else some (.ofList rest, false)
  | _ => none

/-- The dialects of a listing in order, each with whether it is marked. -/
def entries (listing : String) : List (String × Bool) :=
  (Text.lines listing.toList).filterMap entry?

/-- A name that no reader takes for two lines or for a marked one. -/
def Plain (name : String) : Prop := '\n' ∉ name.toList ∧ ¬ defaultMark <:+ name.toList

instance (name : String) : Decidable (Plain name) :=
  inferInstanceAs (Decidable ('\n' ∉ name.toList ∧ ¬ defaultMark <:+ name.toList))

/-- What stands on the line of a name. -/
def lineOf (marked name : String) : List Char :=
  ' ' :: ' ' :: (name.toList ++ if name = marked then defaultMark else [])

theorem toList_dialectLine (marked name : String) :
    (dialectLine marked name).toList = lineOf marked name ++ ['\n'] := by
  have indent : "  ".toList = [' ', ' '] := rfl
  have ended : "\n".toList = ['\n'] := rfl
  have mark : " (default)\n".toList = defaultMark ++ ['\n'] := by decide
  unfold dialectLine lineOf
  split <;> simp only [String.toList_append, indent, ended, mark, List.cons_append,
    List.nil_append, List.append_nil, List.append_assoc]

theorem newline_not_mem_lineOf (plain : Plain name) (marked : String) :
    '\n' ∉ lineOf marked name := by
  have unmarked : '\n' ∉ defaultMark := by decide
  unfold lineOf
  split <;> simp [plain.1, unmarked]

theorem entry?_lineOf (plain : Plain name) (marked : String) :
    entry? (lineOf marked name) = some (name, name == marked) := by
  by_cases same : name = marked
  · have ends : defaultMark.isSuffixOf (name.toList ++ defaultMark) = true :=
      List.isSuffixOf_iff_suffix.mpr (List.suffix_append _ _)
    rw [lineOf, if_pos same, entry?, if_pos ends]
    simp [same]
  · have ends : ¬ defaultMark.isSuffixOf name.toList = true :=
      fun h => plain.2 (List.isSuffixOf_iff_suffix.mp h)
    rw [lineOf, if_neg same, List.append_nil, entry?, if_neg ends]
    simp [same]

theorem filterMap_lines_append (plain : ∀ name ∈ names, Plain name) (marked : String)
    (rest : List Char) :
    (Text.lines ((String.join (names.map (dialectLine marked))).toList ++ rest)).filterMap entry? =
      names.map (fun name => (name, name == marked)) ++ (Text.lines rest).filterMap entry? := by
  induction names with
  | nil => simp
  | cons name names ih =>
    obtain ⟨first, others⟩ := List.forall_mem_cons.mp plain
    have split : (String.join ((name :: names).map (dialectLine marked))).toList ++ rest =
        lineOf marked name ++
          '\n' :: ((String.join (names.map (dialectLine marked))).toList ++ rest) := by
      simp [toList_dialectLine]
    rw [split, Text.lines_cons_line (newline_not_mem_lineOf first marked),
      List.filterMap_cons_some (entry?_lineOf first marked), ih others]
    rfl

/-- What stands ahead of the names ends its line, and what stands behind them has lines of its
own. -/
theorem entries_between (plain : ∀ name ∈ names, Plain name) (marked : String)
    {head foot target ended : String} {above : List Char} (closed : head.toList = above ++ ['\n'])
    (heading : (Text.lines above).filterMap entry? = [])
    (footing : (Text.lines (foot ++ target ++ ended).toList).filterMap entry? = []) :
    entries (head ++ String.join (names.map (dialectLine marked)) ++ foot ++ target ++ ended) =
      names.map fun name => (name, name == marked) := by
  have split :
      (head ++ String.join (names.map (dialectLine marked)) ++ foot ++ target ++ ended).toList =
        above ++ '\n' :: ((String.join (names.map (dialectLine marked))).toList ++
          (foot ++ target ++ ended).toList) := by
    simp only [String.toList_append, closed, List.append_assoc, List.cons_append, List.nil_append]
  rw [entries, split, Text.lines_append_newline, List.filterMap_append, heading,
    filterMap_lines_append plain, footing, List.append_nil, List.nil_append]

theorem entries_dialectListing (plain : ∀ name ∈ names, Plain name) (marked : String) :
    entries (dialectListing names marked) = names.map fun name => (name, name == marked) := by
  have closed : ("Source dialects\n" ++ .ofList (List.replicate 24 '─') ++ "\n").toList =
      ("Source dialects\n".toList ++ List.replicate 24 '─') ++ ['\n'] := by decide
  exact entries_between plain marked closed (by decide) (by decide)

/-- Of names that do not repeat, at most the one to be marked is marked. -/
theorem filter_marked (nodup : names.Nodup) (marked : String) :
    (names.map fun name => (name, name == marked)).filter (·.2) =
      if marked ∈ names then [(marked, true)] else [] := by
  have kept : (names.map fun name => (name, name == marked)).filter (·.2) =
      (names.filter (· == marked)).map fun name => (name, name == marked) := by
    rw [List.filter_map]
    rfl
  rw [kept, List.filter_beq]
  split
  · next among =>
    rw [nodup.count, if_pos among]
    simp
  · next missing => simp [List.count_eq_zero_of_not_mem missing]

theorem plain_sources : ∀ name ∈ Dialect.sources, Plain name := by decide +kernel

theorem sources_sorted : Dialect.sources.Pairwise (· < ·) := by decide +kernel

theorem sources_nodup : Dialect.sources.Nodup := sources_sorted.imp String.ne_of_lt

theorem mem_sources_iff_readable :
    name ∈ Dialect.sources ↔
      name ≠ Dialect.target ∧ ∃ spelling, Dialect.resolve spelling = some name := by
  constructor
  · intro readable
    have known := Dialect.mem_known_iff.mpr (.inr readable)
    refine ⟨?_, name, Dialect.resolve_of_known known⟩
    rintro rfl
    exact Dialect.target_not_mem_sources readable
  · rintro ⟨other, spelling, stands⟩
    exact (Dialect.mem_known_iff.mp (Dialect.mem_known_of_resolve stands)).resolve_left other

/-- Of all spellings of a dialect that can be read, only its name is a source. -/
theorem mem_sources_iff_eq {d : String} (stands : Dialect.resolve name = some d)
    (readable : d ≠ Dialect.target) : name ∈ Dialect.sources ↔ name = d := by
  constructor
  · intro among
    have itself := Dialect.resolve_of_known (Dialect.mem_known_iff.mpr (.inr among))
    exact Option.some.inj (itself.symm.trans stands)
  · rintro rfl
    exact mem_sources_iff_readable.mpr ⟨readable, name, stands⟩

theorem invoke_dialects (engine : Engine) (send : Chat.Client → List Chat.Message → m Chat.Reply)
    (parsed : readers.arguments s.environment words = .ok a) (asked : a.command = some .dialects)
    (resolved : resolveConfig readers.toml s a = .ok c) :
    invoke readers engine.transpiler send s words =
      pure ⟨0, dialectListing Dialect.sources c.sourceDialect, []⟩ := by
  rw [invoke_of_resolved parsed resolved, perform, asked]
  rfl

/-- Asked for the dialects, an invocation lists those that can be read, each once, in order and
without the target. If the configured dialect stands for one of them, that one is marked and no
other, provided that the configuration calls it by its name; under any other spelling, though it is
the dialect that is read by default, nothing is marked. -/
theorem listing_marks_configured_name (engine : Engine)
    (send : Chat.Client → List Chat.Message → m Chat.Reply) {d : String}
    (parsed : readers.arguments s.environment words = .ok a) (asked : a.command = some .dialects)
    (resolved : resolveConfig readers.toml s a = .ok c)
    (stands : Dialect.resolve c.sourceDialect = some d) (readable : d ≠ Dialect.target) :
    ∃ stdout, invoke readers engine.transpiler send s words = pure ⟨0, stdout, []⟩ ∧
      (entries stdout).map Prod.fst = Dialect.sources ∧ Dialect.sources.Pairwise (· < ·) ∧
      (∀ name, name ∈ Dialect.sources ↔
        name ≠ Dialect.target ∧ ∃ spelling, Dialect.resolve spelling = some name) ∧
      (c.sourceDialect = d → (entries stdout).filter (·.2) = [(d, true)]) ∧
      (c.sourceDialect ≠ d → (entries stdout).filter (·.2) = []) := by
  have read := entries_dialectListing plain_sources c.sourceDialect
  have marks := filter_marked sources_nodup c.sourceDialect
  have written := mem_sources_iff_eq stands readable
  refine ⟨_, invoke_dialects engine send parsed asked resolved, ?_, sources_sorted,
    fun name => mem_sources_iff_readable, ?_, ?_⟩
  · rw [read, List.map_map]
    exact List.map_id _
  · intro same
    rw [read, marks, if_pos (written.mpr same), same]
  · intro other
    rw [read, marks, if_neg (fun among => other (written.mp among))]

/-- A configuration file in the working directory, and nothing else. -/
def configured (text : String) : Surroundings :=
  { bare with file := fun path =>
      if path = Config.localFile then .contents (Text.bytesOf text) else .absent }

theorem resolveConfig_configured {text : String}
    (read : Config.ofText own.toml Config.localFile text = .ok c) :
    resolveConfig own.toml (configured text) { command := some .dialects } = .ok c := by
  have decides : Decides (configured text) { command := some .dialects }
      (some Config.localFile) := .here rfl rfl
  have base : baseConfig own.toml (configured text) { command := some .dialects } = .ok c := by
    rw [baseConfig_of_text decides rfl, read]
    rfl
  exact resolveConfig_of_ok base

theorem listing_marks_configured_name_mysql :
    ∃ stdout, invoke (m := Id) own Sql.engine.transpiler (fun _ _ => .ok "")
        (configured "source_dialect = \"mysql\"\n") ["dialects"] = ⟨0, stdout, []⟩ ∧
      (entries stdout).filter (·.2) = [("mysql", true)] := by
  have read : Config.ofText own.toml Config.localFile "source_dialect = \"mysql\"\n" =
      .ok { sourceDialect := "mysql" } := by decide +kernel
  have parsed : own.arguments (configured "source_dialect = \"mysql\"\n").environment
      ["dialects"] = .ok { command := some .dialects } := rfl
  have stands : Dialect.resolve "mysql" = some "mysql" := by decide
  obtain ⟨stdout, run, -, -, -, marked, -⟩ := listing_marks_configured_name (m := Id) Sql.engine
    (fun _ _ => .ok "") parsed rfl (resolveConfig_configured read) stands (by decide)
  exact ⟨stdout, run, marked rfl⟩

/-- The configuration names the dialect in another case: conversions read it by default, and nothing
in the listing says so. -/
theorem spelling_leaves_default_unmarked :
    resolveConfig own.toml (configured "source_dialect = \"MySQL\"\n")
        { command := some .dialects } = .ok { sourceDialect := "MySQL" } ∧
      Dialect.resolve "MySQL" = some "mysql" ∧ "mysql" ∈ Dialect.sources ∧
      ∀ send, ∃ stdout, invoke (m := Id) own Sql.engine.transpiler send
          (configured "source_dialect = \"MySQL\"\n") ["dialects"] = ⟨0, stdout, []⟩ ∧
        (entries stdout).filter (·.2) = [] := by
  have read : Config.ofText own.toml Config.localFile "source_dialect = \"MySQL\"\n" =
      .ok { sourceDialect := "MySQL" } := by decide +kernel
  have resolved := resolveConfig_configured read
  have parsed : own.arguments (configured "source_dialect = \"MySQL\"\n").environment
      ["dialects"] = .ok { command := some .dialects } := rfl
  have other : "MySQL" ∉ Dialect.sources := by decide
  refine ⟨resolved, by decide, by decide, fun send => ?_⟩
  refine ⟨_, invoke_dialects Sql.engine send parsed rfl resolved, ?_⟩
  rw [entries_dialectListing plain_sources, filter_marked sources_nodup, if_neg other]

end SqlConverter.CommandLine
