import Mathlib.Tactic.MkIffOfInductiveProp
import SqlConverter.Config.Load
import SqlConverter.Proofs.Text.Utf8
import SqlConverter.Proofs.Toml.Keys

namespace SqlConverter

open Toml (Table Value)

/-- A strategy is denoted by its name, or by a table whose one key it is and that holds nothing. -/
inductive Strategy.Denoted : Value → Strategy → Prop
  | name (s : Strategy) : Strategy.Denoted (.string s.name) s
  | table (s : Strategy) : Strategy.Denoted (.table [(s.name, .table [])]) s
  | array (s : Strategy) : Strategy.Denoted (.table [(s.name, .array [])]) s

namespace Config

/-- The keys that make a setting. -/
def known : List String := ["model", "endpoint", "source_dialect", "timeout_secs", "reassembly"]

/-- The setting of a known key and a value of its type. -/
inductive Setting.Spelled : String → Value → Setting → Prop
  | model (name : String) : Spelled "model" (.string name) (.model name)
  | endpoint (url : String) : Spelled "endpoint" (.string url) (.endpoint url)
  | sourceDialect (name : String) : Spelled "source_dialect" (.string name) (.sourceDialect name)
  | timeoutSecs (seconds : Nat) : Spelled "timeout_secs" (.integer seconds) (.timeoutSecs seconds)
  | reassembly {v : Value} {s : Strategy} (h : s.Denoted v) : Spelled "reassembly" v (.reassembly s)

/-- An entry is in order if its key is unknown, or known and its value of the key's type. -/
def Fits (key : String) (v : Value) : Prop := key ∈ known → ∃ s, Setting.Spelled key v s

/-- What a field is under a table: what its key says if it is there, else what it was. -/
def Chosen {α : Type} (table : Table) (key : String) (denotes : Value → α → Prop) (was x : α) :
    Prop :=
  match table.lookup key with
  | some v => denotes v x
  | none => x = was

/-- A configuration that is another one under the entries of a table. -/
@[mk_iff]
structure Overlaid (base : Config) (table : Table) (c : Config) : Prop where
  model : Chosen table "model" (fun v s => v = .string s) base.model c.model
  endpoint : Chosen table "endpoint" (fun v s => v = .string s) base.endpoint c.endpoint
  sourceDialect :
    Chosen table "source_dialect" (fun v s => v = .string s) base.sourceDialect c.sourceDialect
  timeoutSecs :
    Chosen table "timeout_secs" (fun v (n : Nat) => v = .integer n) base.timeoutSecs c.timeoutSecs
  reassembly : Chosen table "reassembly" Strategy.Denoted base.reassembly c.reassembly

variable {table rest : Table} {key : String} {v : Value} {base c : Config}

theorem textOf_eq_ok_iff {s : String} : textOf v = .ok s ↔ v = .string s := by
  cases v <;> simp [textOf]

theorem secondsOf_eq_ok_iff {n : Nat} : secondsOf v = .ok n ↔ v = .integer n := by
  cases v with
  | integer k =>
    rw [secondsOf, Value.integer.injEq]
    split
    · next negative =>
      constructor
      · intro h
        cases h
      · intro same
        omega
    · next positive =>
      rw [Except.ok.injEq]
      omega
  | _ => simp [secondsOf]

theorem strategyNamed_eq_ok_iff {name : String} {s : Strategy} :
    strategyNamed name = .ok s ↔ name = s.name := by
  unfold strategyNamed
  constructor
  · intro h
    split at h
    · next t known =>
      cases h
      unfold Strategy.ofName? at known
      split at known <;> cases known <;> rfl
    · cases h
  · rintro rfl
    rw [Strategy.ofName?_name]

theorem nothing_eq_ok_iff : nothing v = .ok () ↔ v = .table [] ∨ v = .array [] := by
  unfold nothing
  split <;> simp_all

theorem strategyOf_eq_ok_iff {s : Strategy} : strategyOf v = .ok s ↔ Strategy.Denoted v s := by
  constructor
  · intro h
    unfold strategyOf at h
    split at h
    · next name =>
      rw [strategyNamed_eq_ok_iff.mp h]
      exact .name s
    · cases h
    · next name inner =>
      obtain ⟨t, named, h⟩ := bind_eq_ok_iff.mp h
      obtain ⟨_, empty, same⟩ := bind_eq_ok_iff.mp h
      cases same
      rw [strategyNamed_eq_ok_iff.mp named]
      rcases nothing_eq_ok_iff.mp empty with rfl | rfl
      · exact .table s
      · exact .array s
    · cases h
    · cases h
  · rintro (_ | _ | _)
    · exact strategyNamed_eq_ok_iff.mpr rfl
    · rw [strategyOf, strategyNamed_eq_ok_iff.mpr rfl]
      rfl
    · rw [strategyOf, strategyNamed_eq_ok_iff.mpr rfl]
      rfl

theorem mem_known_iff :
    key ∈ known ↔ key = "model" ∨ key = "endpoint" ∨ key = "source_dialect" ∨
      key = "timeout_secs" ∨ key = "reassembly" := by
  simp [known]

theorem settingOf_unknown (h : key ∉ known) (v : Value) : settingOf key v = .ok none := by
  rw [settingOf]
  · rfl
  all_goals
    rintro rfl
    exact h (by decide)

/-- A setting is made exactly by a known key with a value of its type. -/
theorem settingOf_eq_ok_some_iff {s : Setting} :
    settingOf key v = .ok (some s) ↔ Setting.Spelled key v s := by
  constructor
  · intro h
    unfold settingOf at h
    split at h
    · obtain ⟨name, read, same⟩ := bind_eq_ok_iff.mp h
      cases same
      rw [textOf_eq_ok_iff.mp read]
      exact .model name
    · obtain ⟨url, read, same⟩ := bind_eq_ok_iff.mp h
      cases same
      rw [textOf_eq_ok_iff.mp read]
      exact .endpoint url
    · obtain ⟨name, read, same⟩ := bind_eq_ok_iff.mp h
      cases same
      rw [textOf_eq_ok_iff.mp read]
      exact .sourceDialect name
    · obtain ⟨seconds, read, same⟩ := bind_eq_ok_iff.mp h
      cases same
      rw [secondsOf_eq_ok_iff.mp read]
      exact .timeoutSecs seconds
    · obtain ⟨strategy, read, same⟩ := bind_eq_ok_iff.mp h
      cases same
      exact .reassembly (strategyOf_eq_ok_iff.mp read)
    · cases h
  · rintro (name | url | name | seconds | denoted)
    · rfl
    · rfl
    · rfl
    · rw [settingOf, secondsOf_eq_ok_iff.mpr rfl]
      rfl
    · rw [settingOf, strategyOf_eq_ok_iff.mpr denoted]
      rfl

theorem settingOf_ne_none (h : key ∈ known) : settingOf key v ≠ .ok none := by
  intro silent
  rcases mem_known_iff.mp h with rfl | rfl | rfl | rfl | rfl
  all_goals
    rw [settingOf] at silent
    obtain ⟨x, -, same⟩ := bind_eq_ok_iff.mp silent
    cases same

/-- Of an entry that is not in order something is said, and of no other. -/
theorem fits_iff : Fits key v ↔ ∃ setting, settingOf key v = .ok setting := by
  constructor
  · intro h
    by_cases k : key ∈ known
    · obtain ⟨s, spelled⟩ := h k
      exact ⟨some s, settingOf_eq_ok_some_iff.mpr spelled⟩
    · exact ⟨none, settingOf_unknown k v⟩
  · rintro ⟨setting, read⟩ k
    cases setting with
    | none => exact absurd read (settingOf_ne_none k)
    | some s => exact ⟨s, settingOf_eq_ok_some_iff.mp read⟩

section Fields

variable {α : Type} {denotes : Value → α → Prop} {was x : α} {key' : String}

theorem chosen_cons_self : Chosen ((key, v) :: rest) key denotes was x ↔ denotes v x := by
  rw [Chosen, List.lookup_cons_self]

theorem chosen_cons (other : key ≠ key') :
    Chosen ((key', v) :: rest) key denotes was x ↔ Chosen rest key denotes was x := by
  rw [Chosen, List.lookup_cons, beq_eq_false_iff_ne.mpr other]
  rfl

theorem chosen_found (h : table.lookup key = some v) :
    Chosen table key denotes was x ↔ denotes v x := by
  rw [Chosen, h]

theorem chosen_absent (h : rest.lookup key = none) :
    Chosen rest key denotes was x ↔ x = was := by
  rw [Chosen, h]

end Fields

theorem denoted_unique {s t : Strategy} (h : Strategy.Denoted v s)
    (h' : Strategy.Denoted v t) : s = t := by
  have first := strategyOf_eq_ok_iff.mpr h
  have second := strategyOf_eq_ok_iff.mpr h'
  exact Except.ok.inj (first.symm.trans second)

theorem overlaid_nil : Overlaid base [] c ↔ c = base := by
  constructor
  · rintro ⟨model, endpoint, dialect, seconds, strategy⟩
    cases c
    cases base
    cases model
    cases endpoint
    cases dialect
    cases seconds
    cases strategy
    rfl
  · rintro rfl
    exact ⟨rfl, rfl, rfl, rfl, rfl⟩

/-- An entry sets its field and leaves the others to the rest. -/
theorem overlaid_cons {s : Setting} (spelled : Setting.Spelled key v s)
    (fresh : rest.lookup key = none) :
    Overlaid base ((key, v) :: rest) c ↔ Overlaid (base.set s) rest c := by
  cases spelled with
  | model name =>
    simp [overlaid_iff, set, chosen_cons_self, chosen_cons, chosen_absent fresh, eq_comm]
  | endpoint url =>
    simp [overlaid_iff, set, chosen_cons_self, chosen_cons, chosen_absent fresh, eq_comm]
  | sourceDialect name =>
    simp [overlaid_iff, set, chosen_cons_self, chosen_cons, chosen_absent fresh, eq_comm]
  | timeoutSecs seconds =>
    have head (n : Nat) : Value.integer seconds = .integer n ↔ n = seconds := by
      rw [Value.integer.injEq]
      omega
    simp [overlaid_iff, set, chosen_cons_self, chosen_cons, chosen_absent fresh, head]
  | @reassembly _ strategy denoted =>
    have head (x : Strategy) : Strategy.Denoted v x ↔ x = strategy := by
      constructor
      · intro h
        exact denoted_unique h denoted
      · rintro rfl
        exact denoted
    simp [overlaid_iff, set, chosen_cons_self, chosen_cons, chosen_absent fresh, head]

theorem overlaid_cons_unknown (h : key ∉ known) :
    Overlaid base ((key, v) :: rest) c ↔ Overlaid base rest c := by
  have other : ∀ k ∈ known, k ≠ key := by
    rintro k among rfl
    exact h among
  rw [overlaid_iff, overlaid_iff, chosen_cons (other "model" (by decide)),
    chosen_cons (other "endpoint" (by decide)), chosen_cons (other "source_dialect" (by decide)),
    chosen_cons (other "timeout_secs" (by decide)), chosen_cons (other "reassembly" (by decide))]

/-- Each known key of an overlaid table has a value of its type. -/
theorem Overlaid.spelled (h : Overlaid base table c) (k : key ∈ known)
    (found : table.lookup key = some v) : ∃ s, Setting.Spelled key v s := by
  rcases mem_known_iff.mp k with rfl | rfl | rfl | rfl | rfl
  · rw [(chosen_found found).mp h.model]
    exact ⟨_, .model c.model⟩
  · rw [(chosen_found found).mp h.endpoint]
    exact ⟨_, .endpoint c.endpoint⟩
  · rw [(chosen_found found).mp h.sourceDialect]
    exact ⟨_, .sourceDialect c.sourceDialect⟩
  · rw [(chosen_found found).mp h.timeoutSecs]
    exact ⟨_, .timeoutSecs c.timeoutSecs⟩
  · exact ⟨_, .reassembly ((chosen_found found).mp h.reassembly)⟩

/-- Entries are laid over a configuration one by one, and what comes of it is told by each field
alone. -/
theorem overlay_eq_ok_iff (nodup : (table.map Prod.fst).Nodup) :
    overlay base table = .ok c ↔ Overlaid base table c := by
  induction table generalizing base with
  | nil => rw [overlay, Except.ok.injEq, overlaid_nil, eq_comm]
  | cons e rest ih =>
    obtain ⟨key, v⟩ := e
    rw [List.map_cons, List.nodup_cons] at nodup
    have fresh : rest.lookup key = none := Toml.Entries.lookup_eq_none_iff_not_mem.mpr nodup.1
    rw [overlay, bind_eq_ok_iff]
    by_cases k : key ∈ known
    · constructor
      · rintro ⟨setting, read, h⟩
        cases setting with
        | none => exact absurd read (settingOf_ne_none k)
        | some s =>
          rw [overlaid_cons (settingOf_eq_ok_some_iff.mp read) fresh]
          exact (ih nodup.2).mp h
      · intro h
        obtain ⟨s, spelled⟩ := h.spelled k List.lookup_cons_self
        refine ⟨some s, settingOf_eq_ok_some_iff.mpr spelled, ?_⟩
        exact (ih nodup.2).mpr ((overlaid_cons spelled fresh).mp h)
    · rw [settingOf_unknown k, overlaid_cons_unknown k, ← ih nodup.2]
      simp

theorem exists_overlay_iff :
    (∃ c, overlay base table = .ok c) ↔ ∀ e ∈ table, Fits e.1 e.2 := by
  induction table generalizing base with
  | nil => simp [overlay]
  | cons e rest ih =>
    obtain ⟨key, v⟩ := e
    rw [List.forall_mem_cons, fits_iff]
    constructor
    · rintro ⟨c, h⟩
      obtain ⟨setting, read, h⟩ := bind_eq_ok_iff.mp h
      refine ⟨⟨setting, read⟩, ?_⟩
      cases setting with
      | none => exact ih.mp ⟨c, h⟩
      | some s => exact ih.mp ⟨c, h⟩
    · rintro ⟨⟨setting, read⟩, others⟩
      rw [overlay, read]
      cases setting with
      | none => exact ih.mpr others
      | some s => exact ih.mpr others

/-- The first entry that is not in order is the one that something is said of. -/
theorem overlay_append_of_error {before after : Table} {detail : String}
    (others : ∀ e ∈ before, Fits e.1 e.2) (bad : settingOf key v = .error detail) :
    overlay base (before ++ (key, v) :: after) = .error detail := by
  induction before generalizing base with
  | nil =>
    rw [List.nil_append, overlay, bad]
    rfl
  | cons e before ih =>
    obtain ⟨key', v'⟩ := e
    rw [List.forall_mem_cons, fits_iff] at others
    obtain ⟨⟨setting, read⟩, others⟩ := others
    rw [List.cons_append, overlay, read]
    cases setting with
    | none => exact ih others
    | some s => exact ih others

variable {toml : Toml.Parser} {path text : String}

/-- What is loaded from a file that holds a text. -/
def loadText (toml : Toml.Parser) (path text : String) : Except ConvertError Config :=
  load toml path (.contents (Text.bytesOf text))

theorem loadText_eq (toml : Toml.Parser) (path text : String) :
    loadText toml path text = ofText toml path text := by
  have decoded : Text.Utf8.decode? (Text.bytesOf text) = some text :=
    Text.Utf8.decode?_eq_some_iff.mpr rfl
  rw [loadText, load, FileState.text, decoded]

theorem ofText_of_overlay (spelled : toml text = .ok table)
    (laid : overlay default table = .ok c) : ofText toml path text = c.validate := by
  rw [ofText, spelled]
  simp only [laid]

theorem ofText_of_error {detail : String} (spelled : toml text = .ok table)
    (bad : overlay default table = .error detail) :
    ofText toml path text = .error (.config (path ++ ": " ++ detail)) := by
  rw [ofText, spelled]
  simp only [bad]

theorem ofText_eq_ok_iff (distinct : toml.Distinct) (spelled : toml text = .ok table) :
    ofText toml path text = .ok c ↔ Overlaid default table c ∧ c.Valid := by
  rw [← overlay_eq_ok_iff (distinct _ _ spelled)]
  cases laid : overlay default table with
  | error detail => simp [ofText_of_error spelled laid]
  | ok d =>
    rw [ofText_of_overlay spelled laid, validate_eq_ok_iff, Except.ok.injEq]
    constructor
    · rintro ⟨rfl, valid⟩
      exact ⟨rfl, valid⟩
    · rintro ⟨rfl, valid⟩
      exact ⟨rfl, valid⟩

theorem validate_error {e : ConvertError} (h : c.validate = .error e) :
    ∃ detail, e = .config detail := by
  unfold validate at h
  split at h
  · cases h
    exact ⟨_, rfl⟩
  · split at h
    · cases h
      exact ⟨_, rfl⟩
    · cases h

theorem ofText_error {e : ConvertError} (h : ofText toml path text = .error e) :
    ∃ detail, e = .config detail := by
  unfold ofText at h
  split at h
  · cases h
    exact ⟨_, rfl⟩
  · split at h
    · cases h
      exact ⟨_, rfl⟩
    · exact validate_error h

theorem ofText_of_ill_typed {before after : Table} (spelled : toml text = .ok table)
    (split : table = before ++ (key, v) :: after) (others : ∀ e ∈ before, Fits e.1 e.2)
    (bad : ¬Fits key v) :
    ∃ detail, settingOf key v = .error detail ∧
      ofText toml path text = .error (.config (path ++ ": " ++ detail)) := by
  cases read : settingOf key v with
  | ok setting => exact absurd (fits_iff.mpr ⟨setting, read⟩) bad
  | error detail =>
    refine ⟨detail, rfl, ofText_of_error spelled ?_⟩
    rw [split]
    exact overlay_append_of_error others read

theorem exists_ofText_iff (distinct : toml.Distinct) (spelled : toml text = .ok table) :
    (∃ c, ofText toml path text = .ok c) ↔
      (∀ e ∈ table, Fits e.1 e.2) ∧ ∀ c, Overlaid default table c → c.Valid := by
  have laid (c : Config) : overlay default table = .ok c ↔ Overlaid default table c :=
    overlay_eq_ok_iff (distinct _ _ spelled)
  rw [← exists_overlay_iff]
  simp only [ofText_eq_ok_iff distinct spelled, ← laid]
  constructor
  · rintro ⟨c, made, valid⟩
    refine ⟨⟨c, made⟩, fun d made' => ?_⟩
    cases made.symm.trans made'
    exact valid
  · rintro ⟨⟨c, made⟩, valid⟩
    exact ⟨c, made, valid c made⟩

theorem overlaid_congr {table' : Table}
    (same : ∀ key ∈ known, table'.lookup key = table.lookup key) :
    Overlaid base table' c ↔ Overlaid base table c := by
  simp only [overlaid_iff, Chosen, same "model" (by decide), same "endpoint" (by decide),
    same "source_dialect" (by decide), same "timeout_secs" (by decide),
    same "reassembly" (by decide)]

/-- From a file that spells a table a configuration is loaded exactly if each known key has a value
of its type and what the table makes of the defaults has some time to wait and a model to ask; that
it is then, each field as its own key says or else as it is by default, whatever the order and
whatever stands under other keys. Else the error is one of configuration: the first entry that is
not in order is reported, ahead of no time to wait, and that ahead of no model. A text that is no
TOML is an error of configuration too; a file that is not UTF-8 or cannot be read is one of reading.
-/
theorem load_by_entries (distinct : toml.Distinct) (path : String) :
    (∀ text table, toml text = .ok table →
      (∀ c, loadText toml path text = .ok c ↔ Overlaid default table c ∧ c.Valid) ∧
      ((∃ c, loadText toml path text = .ok c) ↔
        (∀ e ∈ table, Fits e.1 e.2) ∧ ∀ c, Overlaid default table c → c.Valid) ∧
      (∀ path' text' table' c, toml text' = .ok table' →
        (∀ key ∈ known, table'.lookup key = table.lookup key) →
        (loadText toml path' text' = .ok c ↔ loadText toml path text = .ok c)) ∧
      (∀ e, loadText toml path text = .error e → ∃ detail, e = .config detail) ∧
      (∀ before key v after, table = before ++ (key, v) :: after →
        (∀ e ∈ before, Fits e.1 e.2) → ¬Fits key v →
        ∃ detail, settingOf key v = .error detail ∧
          loadText toml path text = .error (.config (path ++ ": " ++ detail))) ∧
      (∀ c, Overlaid default table c → c.timeoutSecs = 0 →
        loadText toml path text = .error (.config "timeout_secs must be positive")) ∧
      (∀ c, Overlaid default table c → 0 < c.timeoutSecs → Text.isBlankText c.model = true →
        loadText toml path text = .error (.config "model must not be empty"))) ∧
    (∀ text detail, toml text = .error detail →
      loadText toml path text = .error (.config (path ++ ": " ++ detail))) ∧
    (∀ bytes, (∀ text, bytes ≠ Text.bytesOf text) →
      load toml path (.contents bytes) = .error (.read .notUtf8)) ∧
    ∀ file : FileState, (∀ bytes, file ≠ .contents bytes) →
      ∃ cause, load toml path file = .error (.read cause) := by
  simp only [loadText_eq]
  refine ⟨?_, ?_, ?_, ?_⟩
  · intro text table spelled
    have made {c : Config} (h : Overlaid default table c) : ofText toml path text = c.validate :=
      ofText_of_overlay spelled ((overlay_eq_ok_iff (distinct _ _ spelled)).mpr h)
    refine ⟨fun c => ofText_eq_ok_iff distinct spelled, exists_ofText_iff distinct spelled, ?_,
      fun e => ofText_error, fun before key v after => ofText_of_ill_typed spelled, ?_, ?_⟩
    · intro path' text' table' c spelled' same
      rw [ofText_eq_ok_iff distinct spelled, ofText_eq_ok_iff distinct spelled',
        overlaid_congr same]
    · intro c laid zero
      rw [made laid, validate, if_pos zero]
    · intro c laid positive blank
      rw [made laid, validate, if_neg (Nat.pos_iff_ne_zero.mp positive), if_pos blank]
  · intro text detail bad
    rw [ofText, bad]
  · intro bytes other
    have refused : Text.Utf8.decode? bytes = none := by
      rw [Option.eq_none_iff_forall_ne_some]
      intro text decoded
      exact other text (Text.Utf8.decode?_eq_some_iff.mp decoded)
    rw [load, FileState.text, refused]
  · intro file other
    cases file with
    | contents bytes => exact absurd rfl (other bytes)
    | _ => exact ⟨_, rfl⟩

/-- The library's own reader of TOML. -/
def ownToml : Toml.Parser := Toml.parser "this is not TOML"

theorem load_by_entries_samples :
    ownToml.Distinct ∧
    (∃ table, ownToml "timeout_secs = 5\nreassembly = \"delimited\"\n" = .ok table ∧
      Overlaid default table { timeoutSecs := 5, reassembly := .delimited }) ∧
    loadText ownToml "c.toml" "timeout_secs = 0\nmodel = \"\"\n" =
      .error (.config "timeout_secs must be positive") ∧
    loadText ownToml "c.toml" "endpoint = 1\nmodel = 2\n" =
      .error (.config "c.toml: invalid type: integer `1`, expected a string") ∧
    loadText ownToml "c.toml" "model" = .error (.config "c.toml: this is not TOML") ∧
    load ownToml "c.toml" (.contents [0xff]) = .error (.read .notUtf8) ∧
    ∃ cause, load ownToml "c.toml" .absent = .error (.read cause) := by
  have distinct : ownToml.Distinct := Toml.parser_distinct _
  obtain ⟨spelled, unspelled, malformed, unreadable⟩ := load_by_entries distinct "c.toml"
  refine ⟨distinct, ?_, ?_, ?_, ?_, malformed _ ?_, unreadable _ ?_⟩
  · obtain ⟨table, read⟩ : ∃ table,
        Toml.read? "timeout_secs = 5\nreassembly = \"delimited\"\n" = some table :=
      Option.isSome_iff_exists.mp (by decide +kernel)
    have read' : ownToml "timeout_secs = 5\nreassembly = \"delimited\"\n" = .ok table :=
      Toml.parser_eq_ok_iff.mpr read
    refine ⟨table, read', (((spelled _ table read').1 _).mp ?_).1⟩
    rw [loadText_eq]
    decide +kernel
  · have laid : (Toml.read? "timeout_secs = 0\nmodel = \"\"\n").map (overlay default) =
        some (.ok { timeoutSecs := 0, model := "" }) := by decide +kernel
    obtain ⟨table, read, laid⟩ := Option.map_eq_some_iff.mp laid
    have overlaid := (overlay_eq_ok_iff (Toml.nodup_of_read? read)).mp laid
    exact (spelled _ table (Toml.parser_eq_ok_iff.mpr read)).2.2.2.2.2.1 _ overlaid rfl
  · have settings : (Toml.read? "endpoint = 1\nmodel = 2\n").map
        (·.map fun e => (e.1, settingOf e.1 e.2)) =
          some [("endpoint", .error "invalid type: integer `1`, expected a string"),
            ("model", .error "invalid type: integer `2`, expected a string")] := by decide +kernel
    obtain ⟨table, read, settings⟩ := Option.map_eq_some_iff.mp settings
    obtain ⟨⟨key, v⟩, rest, split, first, -⟩ := List.map_eq_cons_iff.mp settings
    obtain ⟨named, bad⟩ := Prod.mk.inj first
    have unfit : ¬Fits key v := by
      rw [fits_iff, bad]
      simp
    obtain ⟨detail, said, failed⟩ :=
      (spelled _ table (Toml.parser_eq_ok_iff.mpr read)).2.2.2.2.1 [] key v rest split (by simp)
        unfit
    cases bad.symm.trans said
    exact failed
  · have bad : Toml.read? "model" = none := by decide +kernel
    exact unspelled _ _ (Toml.parser_eq_error bad)
  · intro text same
    have decoded := Text.Utf8.decode?_eq_some_iff.mpr same
    revert decoded
    rw [(by decide +kernel : Text.Utf8.decode? [0xff] = none)]
    simp
  · intro bytes same
    cases same

end Config

end SqlConverter
