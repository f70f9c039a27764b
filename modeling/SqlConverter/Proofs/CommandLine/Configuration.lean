import SqlConverter.CommandLine.Invocation
import SqlConverter.Proofs.Conversion.Run
import SqlConverter.Proofs.Failure

namespace SqlConverter

namespace Config

variable {toml : Toml.Parser} {c : Config} {path text : String} {file here : FileState}
  {user : Option (String × FileState)}

theorem default_valid : default.Valid := by decide

theorem ofText_valid (h : ofText toml path text = .ok c) : c.Valid := by
  unfold ofText at h
  split at h
  · cases h
  · split at h
    · cases h
    · obtain ⟨rfl, valid⟩ := (validate_eq_ok_iff _ _).mp h
      exact valid

theorem load_valid (h : load toml path file = .ok c) : c.Valid := by
  unfold load at h
  split at h
  · cases h
  · exact ofText_valid h

theorem discover_valid (h : discover toml here user = .ok c) : c.Valid := by
  have default_case (h : Except.ok default = (.ok c : Except ConvertError Config)) : c.Valid := by
    cases h
    exact default_valid
  unfold discover at h
  split at h
  · exact load_valid h
  · split at h
    · split at h
      · exact load_valid h
      · exact default_case h
    · exact default_case h

end Config

namespace CommandLine

variable {m : Type → Type} [Monad m] {readers : Readers} {toml : Toml.Parser}
  {s : Surroundings} {a : Arguments} {words : List String}
  {base c : Config} {f : Failure}

theorem baseConfig_valid (h : baseConfig toml s a = .ok base) : base.Valid := by
  unfold baseConfig at h
  split at h
  · exact Config.load_valid (mapError_eq_ok_iff.mp h)
  · exact Config.discover_valid (mapError_eq_ok_iff.mp h)

/-- What is left of a configuration under flags and variables. -/
def Arguments.over (a : Arguments) (base : Config) : Config where
  model := a.model.getD base.model
  endpoint := a.endpoint.getD base.endpoint
  sourceDialect := base.sourceDialect
  timeoutSecs := a.timeout.getD base.timeoutSecs
  reassembly := if a.delimited then .delimited else base.reassembly

theorem foldl_overrides (a : Arguments) (base : Config) :
    (overrides a).foldl Config.set base = a.over base := by
  unfold overrides Arguments.over
  cases a.model <;> cases a.endpoint <;> cases a.timeout <;> cases a.delimited <;> rfl

theorem resolveConfig_of_ok (h : baseConfig toml s a = .ok base) :
    resolveConfig toml s a = .ok (a.over base) := by
  rw [resolveConfig, h, ← foldl_overrides]
  rfl

theorem resolveConfig_of_error (h : baseConfig toml s a = .error f) :
    resolveConfig toml s a = .error f := by
  rw [resolveConfig, h]
  rfl

/-- The flags and variables that were given are such as a valid file may hold. -/
def Arguments.OverridesValid (a : Arguments) : Prop :=
  (∀ seconds, a.timeout = some seconds → 0 < seconds) ∧
    ∀ model, a.model = some model → Text.isBlankText model = false

theorem over_valid_iff (h : base.Valid) : (a.over base).Valid ↔ a.OverridesValid := by
  obtain ⟨positive, named⟩ := h
  have timeout : 0 < a.timeout.getD base.timeoutSecs ↔
      ∀ seconds, a.timeout = some seconds → 0 < seconds := by
    cases a.timeout <;> simp [positive]
  have model : Text.isBlankText (a.model.getD base.model) = false ↔
      ∀ model, a.model = some model → Text.isBlankText model = false := by
    cases a.model <;> simp [named]
  exact and_congr timeout model

/-- How the calls of a conversation are answered under a configuration. -/
def answering (t : Transpiler) (send : Chat.Client → List Chat.Message → m Chat.Reply)
    (c : Config) : (call : Call) → m call.Answer
  | .parse text dialect => pure (t.parse text dialect)
  | .transpile text read write => pure (t.transpile text read write)
  | .complete messages => send (.ofConfig c) messages

variable {t : Transpiler} {send : Chat.Client → List Chat.Message → m Chat.Reply}

theorem invoke_of_refused (parsed : readers.arguments s.environment words = .ok a)
    (h : resolveConfig readers.toml s a = .error f) :
    invoke readers t send s words = pure (.failure f) := by
  rw [invoke, parsed]
  dsimp only
  rw [task, h]
  rfl

theorem invoke_of_resolved (parsed : readers.arguments s.environment words = .ok a)
    (h : resolveConfig readers.toml s a = .ok c) :
    invoke readers t send s words = (perform s t.readable a c).runM (answering t send c) := by
  rw [invoke, parsed]
  dsimp only
  rw [task, h]
  rfl

/-- Either the file that decides gives no configuration, and nothing is done but to say so; or it
gives a valid one, over which flags and variables are laid, and the converter that does the rest
works on the result, valid or not. -/
theorem reached_config_valid_iff (parsed : readers.arguments s.environment words = .ok a)
    (t : Transpiler) (send : Chat.Client → List Chat.Message → m Chat.Reply) :
    (∃ f, baseConfig readers.toml s a = .error f ∧
      invoke readers t send s words = pure (.failure f)) ∨
    ∃ base, baseConfig readers.toml s a = .ok base ∧ base.Valid ∧
      task readers.toml s t.readable a = .ok ⟨a.over base, perform s t.readable a (a.over base)⟩ ∧
      invoke readers t send s words =
        (perform s t.readable a (a.over base)).runM (answering t send (a.over base)) ∧
      ((a.over base).Valid ↔ a.OverridesValid) := by
  cases h : baseConfig readers.toml s a with
  | error f =>
    exact .inl ⟨f, rfl, invoke_of_refused parsed (resolveConfig_of_error h)⟩
  | ok base =>
    have resolved := resolveConfig_of_ok h
    refine .inr ⟨base, rfl, baseConfig_valid h, ?_, invoke_of_resolved parsed resolved,
      over_valid_iff (baseConfig_valid h)⟩
    rw [task, resolved]
    rfl

/-- The readers of the library. -/
def own : Readers := .own "this is not TOML"

/-- No files, no variables, nothing on the input stream. -/
def bare : Surroundings := ⟨fun _ => .absent, fun _ => none, some [], none⟩

theorem reached_config_valid_iff_model :
    own.arguments bare.environment ["--model", "codellama", "dialects"] =
        .ok { model := some "codellama", command := some .dialects } ∧
      (∃ base, baseConfig own.toml bare { model := some "codellama", command := some .dialects } =
          .ok base ∧ (({ model := some "codellama", command := some .dialects } :
            Arguments).over base).Valid) := by
  have parsed : own.arguments bare.environment ["--model", "codellama", "dialects"] =
      .ok { model := some "codellama", command := some .dialects } := rfl
  refine ⟨parsed, ?_⟩
  rcases reached_config_valid_iff (m := Id) parsed .byHeader (fun _ _ => .ok "") with
    ⟨f, failed, -⟩ | ⟨base, found, -, -, -, valid⟩
  · cases failed
  · refine ⟨base, found, valid.mpr ⟨?_, ?_⟩⟩
    · intro seconds none
      cases none
    · intro model given
      cases given
      decide

/-- A file may not say so, a flag may: no time to wait, and all goes well. -/
theorem zero_timeout_reaches_converter :
    own.arguments bare.environment ["--timeout", "0", "transpile", "select 1"] =
        .ok { timeout := some 0, command := some (.transpile "select 1") } ∧
      resolveConfig own.toml bare { timeout := some 0, command := some (.transpile "select 1") } =
        .ok { timeoutSecs := 0 } ∧
      ({ timeoutSecs := 0 } : Config).validate =
        .error (.config "timeout_secs must be positive") ∧
      ∀ send, invoke (m := Id) own .byHeader send bare
          ["--timeout", "0", "transpile", "select 1"] = ⟨0, "select 1\n", []⟩ := by
  have seconds : seconds? "0" = .ok 0 := by simp [seconds?, digits?, maxTimeout]
  have settled : ({ held := some (.timeout, some "0") } : Reading).settle =
      .ok { arguments := { timeout := some 0 }, seen := [some .timeout] } := by
    simp only [Reading.settle, Reading.accept, Arguments.withOption, seconds]
    rfl
  have read : ({} : Reading).words ["--timeout", "0", "transpile", "select 1"] =
      (({ held := some (.timeout, some "0") } : Reading).settle.bind fun r =>
        .ok { r with arguments :=
          { r.arguments with command := some (.transpile "select 1") } }) := rfl
  have parsed : own.arguments bare.environment ["--timeout", "0", "transpile", "select 1"] =
      .ok { timeout := some 0, command := some (.transpile "select 1") } := by
    change Arguments.parse bare.environment ["--timeout", "0", "transpile", "select 1"] = _
    rw [Arguments.parse, read, settled]
    rfl
  refine ⟨parsed, rfl, by decide, ?_⟩
  intro send
  rw [invoke_of_resolved parsed rfl]
  rfl

end CommandLine

end SqlConverter
