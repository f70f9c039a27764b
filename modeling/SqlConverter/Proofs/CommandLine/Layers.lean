import Mathlib.Logic.Function.Basic
import SqlConverter.Proofs.CommandLine.Outcome
import SqlConverter.Proofs.Config.Overlay
import SqlConverter.Proofs.Conversion.Normalisation

namespace SqlConverter

namespace Config

variable {toml : Toml.Parser} {path : String} {file : FileState} {c : Config}

theorem load_eq_ok_iff (distinct : toml.Distinct) :
    load toml path file = .ok c ↔ ∃ text table, file = .contents (Text.bytesOf text) ∧
      toml text = .ok table ∧ Overlaid default table c ∧ c.Valid := by
  constructor
  · intro loaded
    unfold load at loaded
    split at loaded
    · cases loaded
    · next text held =>
      obtain ⟨bytes, rfl, decoded⟩ := CommandLine.text_eq_ok_iff.mp held
      cases spelled : toml text with
      | error detail =>
        rw [ofText, spelled] at loaded
        cases loaded
      | ok table =>
        obtain ⟨laid, valid⟩ := (ofText_eq_ok_iff distinct spelled).mp loaded
        rw [Text.Utf8.decode?_eq_some_iff.mp decoded]
        exact ⟨text, table, rfl, spelled, laid, valid⟩
  · rintro ⟨text, table, rfl, spelled, kept⟩
    have loaded : ofText toml path text = .ok c := (ofText_eq_ok_iff distinct spelled).mpr kept
    exact (loadText_eq toml path text).trans loaded

/-- A key denotes one value at most, so that a table leaves no choice. -/
theorem chosen_unique {α : Type} {table : Toml.Table} {key : String}
    {denotes : Toml.Value → α → Prop} (single : ∀ v x y, denotes v x → denotes v y → x = y)
    {was x y : α} (h : Chosen table key denotes was x) (h' : Chosen table key denotes was y) :
    x = y := by
  cases found : table.lookup key with
  | none => exact ((chosen_absent found).mp h).trans ((chosen_absent found).mp h').symm
  | some v => exact single v x y ((chosen_found found).mp h) ((chosen_found found).mp h')

end Config

namespace CommandLine

variable {m : Type → Type} [Monad m] {toml : Toml.Parser} {s s' : Surroundings}
  {a flags : Arguments} {words : List String} {c base : Config} {source : Option String}
  {table : Toml.Table}

/-- The file that decides, if one does: the one that a flag names; without such a flag the one of
the working directory if it is there, else the user's if that is there. -/
inductive Decides (s : Surroundings) (a : Arguments) : Option String → Prop
  | named {path : String} (given : a.config = some path) : Decides s a (some path)
  | here (free : a.config = none) (there : (s.file Config.localFile).isThere = true) :
      Decides s a (some Config.localFile)
  | user {path : String} (free : a.config = none)
      (absent : (s.file Config.localFile).isThere = false) (known : s.userConfig = some path)
      (there : (s.file path).isThere = true) : Decides s a (some path)
  | defaults (free : a.config = none) (absent : (s.file Config.localFile).isThere = false)
      (missing : ∀ path, s.userConfig = some path → (s.file path).isThere = false) :
      Decides s a none

/-- The entries of the file that decides; the defaults are what no entries make. -/
def Says (toml : Toml.Parser) (s : Surroundings) (source : Option String) (table : Toml.Table) :
    Prop :=
  match source with
  | some path => ∃ text, s.file path = .contents (Text.bytesOf text) ∧ toml text = .ok table
  | none => table = []

/-- How it is put that a file cannot be used: one that a flag names is named once more. -/
def blame (a : Arguments) (e : ConvertError) : Failure :=
  match a.config with
  | some path => .loading path e
  | none => .converting e

theorem baseConfig_of_named {path : String} (given : a.config = some path) :
    baseConfig toml s a = (Config.load toml path (s.file path)).mapError (blame a) := by
  have named : blame a = .loading path := funext fun e => by rw [blame, given]
  rw [baseConfig, given, named]

theorem baseConfig_of_free (free : a.config = none) :
    baseConfig toml s a = (Config.discover toml (s.file Config.localFile)
      (s.userConfig.map fun path => (path, s.file path))).mapError (blame a) := by
  have found : blame a = .converting := funext fun e => by rw [blame, free]
  rw [baseConfig, free, found]

/-- What decides gives the configuration, or the reason why there is none. -/
theorem baseConfig_of_decides (h : Decides s a source) :
    baseConfig toml s a = match source with
      | some path => (Config.load toml path (s.file path)).mapError (blame a)
      | none => .ok Config.default := by
  cases h with
  | named given => exact baseConfig_of_named given
  | here free there => rw [baseConfig_of_free free, Config.discover.eq_def, if_pos there]
  | user free absent known there =>
    rw [baseConfig_of_free free, Config.discover.eq_def, if_neg (by simp [absent]), known]
    dsimp only [Option.map_some]
    rw [if_pos there]
  | defaults free absent missing =>
    rw [baseConfig_of_free free, Config.discover.eq_def, if_neg (by simp [absent])]
    cases known : s.userConfig with
    | none => rfl
    | some path =>
      dsimp only [Option.map_some]
      rw [if_neg (by simp [missing path known])]
      rfl

theorem baseConfig_of_text {path text : String} (h : Decides s a (some path))
    (held : s.file path = .contents (Text.bytesOf text)) :
    baseConfig toml s a = (Config.ofText toml path text).mapError (blame a) := by
  rw [baseConfig_of_decides h]
  dsimp only
  rw [held, ← Config.loadText_eq, Config.loadText]

theorem Decides.unique {source' : Option String} (h : Decides s a source)
    (h' : Decides s a source') : source = source' := by
  cases h with
  | named given => cases h' <;> simp_all
  | here free there => cases h' <;> simp_all
  | user free absent known there => cases h' <;> simp_all
  | defaults free absent missing => cases h' <;> simp_all

theorem existsUnique_decides (s : Surroundings) (a : Arguments) :
    ∃! source, Decides s a source := by
  have some_ : ∃ source, Decides s a source := by
    cases given : a.config with
    | some path => exact ⟨_, .named given⟩
    | none =>
      cases there : (s.file Config.localFile).isThere with
      | true => exact ⟨_, .here given there⟩
      | false =>
        by_cases user : ∃ path, s.userConfig = some path ∧ (s.file path).isThere = true
        · obtain ⟨path, known, found⟩ := user
          exact ⟨_, .user given there known found⟩
        · refine ⟨none, .defaults given there fun path known => ?_⟩
          rw [← Bool.not_eq_true]
          exact fun found => user ⟨path, known, found⟩
  obtain ⟨source, h⟩ := some_
  exact ⟨source, h, fun other h' => h'.unique h⟩

/-- A configuration comes of what the file that decides says, and of nothing else. -/
theorem baseConfig_eq_ok_iff (distinct : toml.Distinct) (h : Decides s a source) :
    baseConfig toml s a = .ok base ↔
      ∃ table, Says toml s source table ∧ Config.Overlaid Config.default table base ∧
        base.Valid := by
  rw [baseConfig_of_decides h]
  cases source with
  | some path =>
    dsimp only
    rw [mapError_eq_ok_iff, Config.load_eq_ok_iff distinct]
    constructor
    · rintro ⟨text, table, held, spelled, kept⟩
      exact ⟨table, ⟨text, held, spelled⟩, kept⟩
    · rintro ⟨table, ⟨text, held, spelled⟩, kept⟩
      exact ⟨text, table, held, spelled, kept⟩
  | none =>
    rw [Except.ok.injEq]
    constructor
    · rintro rfl
      exact ⟨[], rfl, Config.overlaid_nil.mpr rfl, Config.default_valid⟩
    · rintro ⟨table, rfl, laid, -⟩
      exact (Config.overlaid_nil.mp laid).symm

theorem baseConfig_eq_error_iff (h : Decides s a source) {f : Failure} :
    baseConfig toml s a = .error f ↔
      ∃ path e, source = some path ∧ Config.load toml path (s.file path) = .error e ∧
        f = blame a e := by
  rw [baseConfig_of_decides h]
  cases source with
  | some path => simp [mapError_eq_error_iff]
  | none => simp

/-- The first of some layers that says anything decides, and if none does, what lies below. -/
def Topmost {α : Type} : List (Option α) → (α → Prop) → α → Prop
  | [], below, x => below x
  | some y :: _, _, x => x = y
  | none :: layers, below, x => Topmost layers below x

/-- A configuration of flags over variables over the entries of a file over the defaults. Flags
other than these, and the dialect among them, set no field. -/
@[mk_iff]
structure Layered (flags : Arguments) (environment : String → Option String) (table : Toml.Table)
    (c : Config) : Prop where
  model : Topmost [flags.model, environment "S2CONVERT_MODEL"]
    (Config.Chosen table "model" (fun v s => v = .string s) Config.default.model) c.model
  endpoint : Topmost [flags.endpoint, environment "S2CONVERT_ENDPOINT"]
    (Config.Chosen table "endpoint" (fun v s => v = .string s) Config.default.endpoint) c.endpoint
  timeoutSecs : Topmost [flags.timeout]
    (Config.Chosen table "timeout_secs" (fun v (n : Nat) => v = .integer n)
      Config.default.timeoutSecs) c.timeoutSecs
  sourceDialect : Config.Chosen table "source_dialect" (fun v s => v = .string s)
    Config.default.sourceDialect c.sourceDialect
  reassembly : c.reassembly = .delimited ↔ flags.delimited = true ∨
    ∃ v, table.lookup "reassembly" = some v ∧ Strategy.Denoted v .delimited

theorem topmost_iff {α : Type} {below : α → Prop} {b : α} (single : ∀ x, below x ↔ x = b)
    (flag variable_ : Option α) {x : α} :
    Topmost [flag, variable_] below x ↔ x = (flag <|> variable_).getD b := by
  cases flag <;> cases variable_ <;> simp [Topmost, single]

theorem topmost_single_iff {α : Type} {below : α → Prop} {b : α} (single : ∀ x, below x ↔ x = b)
    (flag : Option α) {x : α} : Topmost [flag] below x ↔ x = flag.getD b := by
  cases flag <;> simp [Topmost, single]

/-- A strategy is delimited only where the table says so, since the default is another. -/
theorem reassembly_eq_delimited_iff (laid : Config.Overlaid Config.default table base) :
    base.reassembly = .delimited ↔
      ∃ v, table.lookup "reassembly" = some v ∧ Strategy.Denoted v .delimited := by
  have chosen := laid.reassembly
  cases found : table.lookup "reassembly" with
  | none =>
    rw [(Config.chosen_absent found).mp chosen]
    simp [Config.default]
  | some v =>
    have denoted := (Config.chosen_found found).mp chosen
    constructor
    · intro same
      exact ⟨v, rfl, same ▸ denoted⟩
    · rintro ⟨w, same, denoted'⟩
      cases same
      exact Config.denoted_unique denoted denoted'

theorem eq_over_iff :
    c = a.over base ↔ c.model = a.model.getD base.model ∧
      c.endpoint = a.endpoint.getD base.endpoint ∧ c.timeoutSecs = a.timeout.getD base.timeoutSecs ∧
      c.sourceDialect = base.sourceDialect ∧
      c.reassembly = if a.delimited then .delimited else base.reassembly := by
  cases c
  simp only [Arguments.over, Config.mk.injEq]
  tauto

theorem layered_iff_eq_over (laid : Config.Overlaid Config.default table base)
    (environment : String → Option String) :
    Layered flags environment table c ↔ c = (flags.withEnvironment environment).over base := by
  have text (v : Toml.Value) (x y : String) (hx : v = .string x) (hy : v = .string y) : x = y := by
    cases hx
    cases hy
    rfl
  have number (v : Toml.Value) (x y : Nat) (hx : v = .integer x) (hy : v = .integer y) :
      x = y := by
    rw [hx, Toml.Value.integer.injEq] at hy
    omega
  have only {α : Type} {key : String} {denotes : Toml.Value → α → Prop}
      (single : ∀ v x y, denotes v x → denotes v y → x = y) {was b : α}
      (h : Config.Chosen table key denotes was b) (x : α) :
      Config.Chosen table key denotes was x ↔ x = b := by
    constructor
    · exact fun h' => Config.chosen_unique single h' h
    · rintro rfl
      exact h
  have model := topmost_iff (only text laid.model) flags.model (environment "S2CONVERT_MODEL")
    (x := c.model)
  have endpoint := topmost_iff (only text laid.endpoint) flags.endpoint
    (environment "S2CONVERT_ENDPOINT") (x := c.endpoint)
  have timeout := topmost_single_iff (only number laid.timeoutSecs) flags.timeout
    (x := c.timeoutSecs)
  have dialect := only text laid.sourceDialect c.sourceDialect
  have strategy : (c.reassembly = .delimited ↔ flags.delimited = true ∨
      ∃ v, table.lookup "reassembly" = some v ∧ Strategy.Denoted v .delimited) ↔
      c.reassembly = if flags.delimited then .delimited else base.reassembly := by
    rw [← reassembly_eq_delimited_iff laid]
    cases flags.delimited <;> cases c.reassembly <;> cases base.reassembly <;> simp
  rw [layered_iff, model, endpoint, timeout, dialect, strategy, eq_over_iff]
  rfl

/-- The configuration that flags make where they are given. -/
def configOf (toml : Toml.Parser) (s : Surroundings) (flags : Arguments) :
    Except Failure Config :=
  resolveConfig toml s (flags.withEnvironment s.environment)

theorem resolveConfig_eq_map (toml : Toml.Parser) (s : Surroundings) (a : Arguments) :
    resolveConfig toml s a = (baseConfig toml s a).map a.over := by
  cases h : baseConfig toml s a with
  | error f => exact resolveConfig_of_error h
  | ok base => exact resolveConfig_of_ok h

theorem configOf_eq_map (toml : Toml.Parser) (s : Surroundings) (flags : Arguments) :
    configOf toml s flags =
      (baseConfig toml s flags).map (flags.withEnvironment s.environment).over :=
  resolveConfig_eq_map toml s _

theorem configOf_eq_ok_iff (distinct : toml.Distinct) (h : Decides s flags source) :
    configOf toml s flags = .ok c ↔ ∃ table, Says toml s source table ∧
      (∃ base, Config.Overlaid Config.default table base ∧ base.Valid) ∧
      Layered flags s.environment table c := by
  have made : configOf toml s flags = .ok c ↔ ∃ base, baseConfig toml s flags = .ok base ∧
      c = (flags.withEnvironment s.environment).over base := by
    rw [configOf_eq_map]
    cases baseConfig toml s flags <;> simp [Except.map, eq_comm]
  rw [made]
  constructor
  · rintro ⟨base, found, same⟩
    obtain ⟨table, told, laid, valid⟩ := (baseConfig_eq_ok_iff distinct h).mp found
    exact ⟨table, told, ⟨base, laid, valid⟩, (layered_iff_eq_over laid _).mpr same⟩
  · rintro ⟨table, told, ⟨base, laid, valid⟩, layered⟩
    exact ⟨base, (baseConfig_eq_ok_iff distinct h).mpr ⟨table, told, laid, valid⟩,
      (layered_iff_eq_over laid _).mp layered⟩

theorem configOf_eq_error_iff (h : Decides s flags source) {f : Failure} :
    configOf toml s flags = .error f ↔ ∃ path e, source = some path ∧
      Config.load toml path (s.file path) = .error e ∧ f = blame flags e := by
  rw [← baseConfig_eq_error_iff h, configOf_eq_map]
  cases baseConfig toml s flags <;> simp [Except.map]

/-- Where the same file decides and holds the same, the configuration is the same. -/
theorem configOf_congr (h : Decides s flags source) (h' : Decides s' flags source)
    (alike : s'.environment = s.environment)
    (held : ∀ path, source = some path → s'.file path = s.file path) :
    configOf toml s' flags = configOf toml s flags := by
  have same : baseConfig toml s' flags = baseConfig toml s flags := by
    rw [baseConfig_of_decides h, baseConfig_of_decides h']
    cases source with
    | some path =>
      dsimp only
      rw [held path rfl]
    | none => rfl
  rw [configOf_eq_map, configOf_eq_map, same, alike]

/-- The same surroundings with one variable set. -/
def Surroundings.withVariable (s : Surroundings) (name value : String) : Surroundings :=
  { s with environment := Function.update s.environment name (some value) }

/-- What each flag and each variable changes: the field that it is for, and no other. -/
structure FieldsApart (toml : Toml.Parser) (s : Surroundings) (flags : Arguments) : Prop where
  model (name : String) : configOf toml s { flags with model := some name } =
    (configOf toml s flags).map (·.set (.model name))
  endpoint (url : String) : configOf toml s { flags with endpoint := some url } =
    (configOf toml s flags).map (·.set (.endpoint url))
  timeout (seconds : Nat) : configOf toml s { flags with timeout := some seconds } =
    (configOf toml s flags).map (·.set (.timeoutSecs seconds))
  delimited : configOf toml s { flags with delimited := true } =
    (configOf toml s flags).map (·.set (.reassembly .delimited))
  dialect (name : Option String) :
    configOf toml s { flags with dialect := name } = configOf toml s flags
  modelVariable (name : String) : configOf toml (s.withVariable "S2CONVERT_MODEL" name) flags =
    (configOf toml s flags).map (·.set (.model (flags.model.getD name)))
  endpointVariable (url : String) : configOf toml (s.withVariable "S2CONVERT_ENDPOINT" url) flags =
    (configOf toml s flags).map (·.set (.endpoint (flags.endpoint.getD url)))
  otherVariable (name value : String) (other : name ≠ "S2CONVERT_MODEL")
    (other' : name ≠ "S2CONVERT_ENDPOINT") :
    configOf toml (s.withVariable name value) flags = configOf toml s flags

theorem configOf_change {flags' : Arguments} {change : Config → Config}
    (same : baseConfig toml s' flags' = baseConfig toml s flags)
    (h : ∀ base, (flags'.withEnvironment s'.environment).over base =
      change ((flags.withEnvironment s.environment).over base)) :
    configOf toml s' flags' = (configOf toml s flags).map change := by
  rw [configOf_eq_map, configOf_eq_map, same]
  cases baseConfig toml s flags with
  | error f => rfl
  | ok base => exact congrArg Except.ok (h base)

theorem withEnvironment_withVariable {name value : String} :
    flags.withEnvironment (s.withVariable name value).environment =
      { flags with
        model := flags.model <|>
          if name = "S2CONVERT_MODEL" then some value else s.environment "S2CONVERT_MODEL"
        endpoint := flags.endpoint <|>
          if name = "S2CONVERT_ENDPOINT" then some value
          else s.environment "S2CONVERT_ENDPOINT" } := by
  simp only [Arguments.withEnvironment, Surroundings.withVariable, Function.update_apply, eq_comm]

theorem fieldsApart (toml : Toml.Parser) (s : Surroundings) (flags : Arguments) :
    FieldsApart toml s flags where
  model name := configOf_change rfl fun _ => rfl
  endpoint url := configOf_change rfl fun _ => rfl
  timeout seconds := configOf_change rfl fun _ => rfl
  delimited := configOf_change rfl fun _ => rfl
  dialect name := by
    have same : configOf toml s { flags with dialect := name } = (configOf toml s flags).map id :=
      configOf_change rfl fun _ => rfl
    rw [same]
    cases configOf toml s flags <;> rfl
  modelVariable name := configOf_change rfl fun base => by
    rw [withEnvironment_withVariable]
    simp [Arguments.over, Arguments.withEnvironment, Config.set]
  endpointVariable url := configOf_change rfl fun base => by
    rw [withEnvironment_withVariable]
    simp [Arguments.over, Arguments.withEnvironment, Config.set]
  otherVariable name value other other' := by
    have same : flags.withEnvironment (s.withVariable name value).environment =
        flags.withEnvironment s.environment := by
      rw [withEnvironment_withVariable, if_neg other, if_neg other']
      rfl
    rw [configOf, same]
    rfl

/-- Flags come before variables, whatever the words are. -/
theorem parse_eq_map (environment : String → Option String) (words : List String) :
    Arguments.parse environment words =
      (Arguments.parse (fun _ => none) words).map (·.withEnvironment environment) := by
  unfold Arguments.parse
  cases ({} : Reading).words words with
  | error stop => rfl
  | ok r =>
    cases held : r.checked with
    | error stop => simp [held, bind, Except.bind, Except.map]
    | ok a =>
      simp [held, bind, Except.bind, Except.map, pure, Except.pure, Arguments.withEnvironment]

/-- Whatever is asked for, it is parsed in the dialect that is named by a flag, else configured. -/
theorem perform_parsesAs {trusted : Dialogue.Turn → Prop} (s : Surroundings)
    (readable : List String) (a : Arguments) (c : Config) :
    (perform s readable a c).Ensures trusted (Call.ParsesAs (a.dialect.getD c.sourceDialect))
      fun _ => True := by
  by_cases listing : a.command = some .dialects
  · rw [perform, listing]
    exact .done trivial
  · rw [perform_of_works listing]
    unfold onInput
    split
    · exact .done trivial
    · exact .done trivial
    · next text =>
      unfold onText
      split
      · exact Dialogue.Ensures.bind
          ((Converter.transpile_parsesAs _ _).mono fun _ _ => .done trivial)
      · exact Dialogue.Ensures.bind
          ((Converter.classify_parsesAs _ _).mono fun _ _ => .done trivial)
      · exact Dialogue.Ensures.bind
          ((Converter.report_parsesAs _ _ _).mono fun _ _ => .done trivial)

/-- One file decides, or the defaults do: the file that a flag names, and without such a flag the
one of the working directory if it is there, else the user's. What makes it unusable is what the
invocation fails for, and no other file is looked at, so that none tells in the outcome. Over the
entries of that file lie variables and over these flags, each field for itself; a flag or a variable
changes the field that it is for and no other. The dialect that a flag names is the one that is
read, and does not change the configured one. -/
theorem config_by_layers {readers : Readers} (distinct : readers.toml.Distinct)
    (layered : ∀ environment words, readers.arguments environment words =
      (readers.arguments (fun _ => none) words).map (·.withEnvironment environment))
    (s : Surroundings) (flags : Arguments) :
    (∃! source, Decides s flags source) ∧
    (∀ source, Decides s flags source →
      (∀ c, configOf readers.toml s flags = .ok c ↔ ∃ table, Says readers.toml s source table ∧
        (∃ base, Config.Overlaid Config.default table base ∧ base.Valid) ∧
        Layered flags s.environment table c) ∧
      ∀ f, configOf readers.toml s flags = .error f ↔ ∃ path e, source = some path ∧
        Config.load readers.toml path (s.file path) = .error e ∧ f = blame flags e) ∧
    (flags.config = none → (s.file Config.localFile).isThere = true →
      ∀ s', s'.environment = s.environment → s'.file Config.localFile = s.file Config.localFile →
        configOf readers.toml s' flags = configOf readers.toml s flags) ∧
    (∀ path, flags.config = some path →
      ∀ s', s'.environment = s.environment → s'.file path = s.file path →
        configOf readers.toml s' flags = configOf readers.toml s flags) ∧
    FieldsApart readers.toml s flags ∧
    ∀ words, readers.arguments (fun _ => none) words = .ok flags →
      ∀ (t : Transpiler) (send : Chat.Client → List Chat.Message → m Chat.Reply),
        (∀ f, configOf readers.toml s flags = .error f →
          invoke readers t send s words = pure (.failure f)) ∧
        ∀ c, configOf readers.toml s flags = .ok c →
          let work := perform s t.readable (flags.withEnvironment s.environment) c
          invoke readers t send s words = work.runM (answering t send c) ∧
            work.Ensures (fun _ => True) (Call.ParsesAs (flags.dialect.getD c.sourceDialect))
              fun _ => True := by
  refine ⟨existsUnique_decides s flags, ?_, ?_, ?_, fieldsApart readers.toml s flags, ?_⟩
  · intro source decides
    exact ⟨fun c => configOf_eq_ok_iff distinct decides, fun f => configOf_eq_error_iff decides⟩
  · intro free there s' alike same
    have there' : (s'.file Config.localFile).isThere = true := by rw [same, there]
    refine configOf_congr (.here free there) (.here free there') alike fun path decided => ?_
    cases decided
    exact same
  · intro path given s' alike same
    refine configOf_congr (.named given) (.named given) alike fun path' decided => ?_
    cases decided
    exact same
  · intro words read t send
    have parsed : readers.arguments s.environment words =
        .ok (flags.withEnvironment s.environment) := by rw [layered, read]; rfl
    refine ⟨fun f failed => invoke_of_refused parsed failed, fun c made => ?_⟩
    exact ⟨invoke_of_resolved parsed made, perform_parsesAs s t.readable _ c⟩

/-- A file in the working directory, one of the user's, and a variable for the endpoint. -/
def crowded (here user : String) : Surroundings where
  file path :=
    if path = Config.localFile then .contents (Text.bytesOf here)
    else if path = "user.toml" then .contents (Text.bytesOf user) else .absent
  environment name := if name = "S2CONVERT_ENDPOINT" then some "http://box" else none
  stdin := none
  userConfig := some "user.toml"

/-- A flag over a file and a variable over the defaults; a file of the user's that is no matter; a
local file that is reported although the user's could be used; and a file that a flag names. -/
theorem config_by_layers_samples :
    own.toml.Distinct ∧
    (∀ environment words, own.arguments environment words =
      (own.arguments (fun _ => none) words).map (·.withEnvironment environment)) ∧
    (∃ table, Says own.toml (crowded "reassembly = \"delimited\"\n" "model = 1\n")
        (some Config.localFile) table ∧
      Layered { model := "codellama" } (crowded "" "").environment table
        { model := "codellama", endpoint := "http://box", reassembly := .delimited }) ∧
    configOf own.toml (crowded "" "model = 1\n") {} = configOf own.toml (crowded "" "") {} ∧
    (∀ send, invoke (m := Id) own .byHeader send (crowded "model = 1\n" "") ["dialects"] =
      Outcome.failure (.converting (.config
        "s2convert.toml: invalid type: integer `1`, expected a string"))) ∧
    configOf own.toml (crowded "model = 1\n" "") { config := "user.toml" } =
      configOf own.toml (crowded "" "") { config := "user.toml" } := by
  have distinct : own.toml.Distinct := Toml.parser_distinct _
  refine ⟨distinct, parse_eq_map, ?_, ?_, ?_, ?_⟩
  · let s := crowded "reassembly = \"delimited\"\n" "model = 1\n"
    let flags : Arguments := { model := "codellama" }
    obtain ⟨-, layers, -⟩ := config_by_layers (m := Id) distinct parse_eq_map s flags
    have decides : Decides s flags (some Config.localFile) := .here rfl rfl
    have read : Config.ofText own.toml Config.localFile "reassembly = \"delimited\"\n" =
        .ok { reassembly := .delimited } := by decide +kernel
    have base : baseConfig own.toml s flags = .ok { reassembly := .delimited } := by
      rw [baseConfig_of_text decides rfl, read]
      rfl
    have made : configOf own.toml s flags =
        .ok { model := "codellama", endpoint := "http://box", reassembly := .delimited } := by
      rw [configOf_eq_map, base]
      rfl
    obtain ⟨table, told, -, layered⟩ := ((layers _ decides).1 _).mp made
    exact ⟨table, told, layered⟩
  · obtain ⟨-, -, shadowed, -⟩ :=
      config_by_layers (m := Id) distinct parse_eq_map (crowded "" "") {}
    exact shadowed rfl rfl _ rfl rfl
  · intro send
    let s := crowded "model = 1\n" ""
    let flags : Arguments := { command := some .dialects }
    obtain ⟨-, -, -, -, -, run⟩ := config_by_layers (m := Id) distinct parse_eq_map s flags
    have decides : Decides s flags (some Config.localFile) := .here rfl rfl
    have read : Config.ofText own.toml Config.localFile "model = 1\n" = .error (.config
        "s2convert.toml: invalid type: integer `1`, expected a string") := by decide +kernel
    have base : baseConfig own.toml s flags = .error (.converting (.config
        "s2convert.toml: invalid type: integer `1`, expected a string")) := by
      rw [baseConfig_of_text decides rfl, read]
      rfl
    have failed : configOf own.toml s flags = .error (.converting (.config
        "s2convert.toml: invalid type: integer `1`, expected a string")) := by
      rw [configOf_eq_map, base]
      rfl
    exact (run ["dialects"] rfl .byHeader send).1 _ failed
  · obtain ⟨-, -, -, named, -⟩ := config_by_layers (m := Id) distinct parse_eq_map
      (crowded "" "") { config := "user.toml" }
    exact named "user.toml" rfl _ rfl rfl

end CommandLine

end SqlConverter
