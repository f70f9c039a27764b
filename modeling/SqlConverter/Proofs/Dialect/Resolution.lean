import Mathlib.Data.List.Forall2
import SqlConverter.Proofs.Text.Words
import SqlConverter.Sql.Engine

namespace SqlConverter

/-- One character, or an ASCII letter in one case and the same letter in the other. -/
inductive Text.Recased : Char → Char → Prop
  | same (c : Char) : Recased c c
  | small {c d : Char} (capital : 65 ≤ c.toNat ∧ c.toNat ≤ 90) (h : d.toNat = c.toNat + 32) :
      Recased c d
  | capital {c d : Char} (capital : 65 ≤ d.toNat ∧ d.toNat ≤ 90) (h : c.toNat = d.toNat + 32) :
      Recased c d

/-- The small form of a capital ASCII letter; anything else is left as it is. -/
def Text.smallLetter (c : Char) : Char :=
  if 65 ≤ c.toNat ∧ c.toNat ≤ 90 then .ofNat (c.toNat + 32) else c

theorem Text.toLower_eq_smallLetter (c : Char) : c.toLower = Text.smallLetter c := by
  have lowered := Text.toNat_toLower c
  rw [Text.smallLetter, ← Char.toNat_inj]
  split
  · next capital =>
    have scalar : (c.toNat + 32).isValidChar := .inl (by omega)
    rw [lowered, if_pos capital, Char.ofNat, dif_pos scalar]
    rfl
  · next other => rw [lowered, if_neg other]

theorem Text.Recased.toLower_eq {c d : Char} (h : Text.Recased c d) : c.toLower = d.toLower := by
  have first := Text.toNat_toLower c
  have second := Text.toNat_toLower d
  rw [← Char.toNat_inj]
  cases h with
  | same => rfl
  | small capital h => split at first <;> split at second <;> omega
  | capital capital h => split at first <;> split at second <;> omega

theorem Text.lower_congr {cs ds : List Char} (h : List.Forall₂ Text.Recased cs ds) :
    Text.lower cs = Text.lower ds := by
  induction h with
  | nil => rfl
  | @cons c d cs ds first _ ih =>
    change c.toLower :: Text.lower cs = d.toLower :: Text.lower ds
    rw [first.toLower_eq, ih]

namespace Dialect

variable {name other before after d : String}

theorem folded_eq (name : String) :
    folded name = .ofList ((Text.trim name.toList).map Text.smallLetter) := by
  have small : Char.toLower = Text.smallLetter := funext Text.toLower_eq_smallLetter
  rw [folded, Text.lower, small]

theorem folded_padded (hb : Text.isBlankText before = true) (ha : Text.isBlankText after = true)
    (name : String) : folded (before ++ name ++ after) = folded name := by
  have bare := Text.trim_padded hb ha name.toList
  rw [folded, String.toList_append, String.toList_append, bare, folded]

/-- Folding letters first shows that trimming looks at no letter's case. -/
theorem folded_recased (h : List.Forall₂ Text.Recased name.toList other.toList) :
    folded name = folded other := by
  have inside (cs : List Char) : Text.lower (Text.trim cs) = Text.trim (Text.lower cs) :=
    (Text.trim_map Text.isBlank_toLower cs).symm
  rw [folded, folded, inside, inside, Text.lower_congr h]

theorem folded_of_known : ∀ d ∈ known, folded d = d := by decide +kernel

/-- No short form is a name of its own, none stands twice, and each stands for a known name. -/
theorem aliases_settled :
    ∀ a ∈ aliases, a.1 ∉ known ∧ a.2 ∈ known ∧ aliases.lookup a.1 = some a.2 := by
  decide

theorem lookup_alias_iff {short : String} :
    aliases.lookup short = some d ↔ (short, d) ∈ aliases := by
  constructor
  · intro found
    obtain ⟨before, after, split, -⟩ := List.lookup_eq_some_iff.mp found
    rw [split]
    exact List.mem_append_right _ List.mem_cons_self
  · intro listed
    exact (aliases_settled _ listed).2.2

theorem unalias_eq_iff (h : d ∈ known) {short : String} :
    unalias short = d ↔ short = d ∨ (short, d) ∈ aliases := by
  rw [unalias, ← lookup_alias_iff]
  cases found : aliases.lookup short with
  | none => simp
  | some long =>
    have short_ := (aliases_settled _ (lookup_alias_iff.mp found)).1
    have unlike : short ≠ d := fun same => short_ (same ▸ h)
    simp [unlike]

theorem mem_known_iff : d ∈ known ↔ d = target ∨ d ∈ sources := by
  have among : target ∈ known := by decide
  by_cases h : d = target
  · simp [h, among]
  · simp [h, sources]

theorem target_not_mem_sources : target ∉ sources := by decide

theorem resolve_eq_some_iff :
    resolve name = some d ↔ d ∈ known ∧ (folded name = d ∨ (folded name, d) ∈ aliases) := by
  have found : resolve name = some d ↔ d ∈ known ∧ unalias (folded name) = d := by
    constructor
    · intro h
      have same := List.find?_some h
      exact ⟨List.mem_of_find?_eq_some h, (beq_iff_eq.mp same).symm⟩
    · rintro ⟨among, rfl⟩
      have some_ : (resolve name).isSome = true :=
        List.find?_isSome.mpr ⟨_, among, beq_self_eq_true _⟩
      obtain ⟨e, h⟩ := Option.isSome_iff_exists.mp some_
      have same := List.find?_some h
      rw [h, beq_iff_eq.mp same]
  rw [found]
  exact and_congr_right fun among => unalias_eq_iff among

theorem resolve_congr (h : folded name = folded other) : resolve name = resolve other := by
  rw [resolve, h, resolve]

theorem mem_known_of_resolve (h : resolve name = some d) : d ∈ known :=
  (resolve_eq_some_iff.mp h).1

/-- A known name stands for itself. -/
theorem resolve_of_known (h : d ∈ known) : resolve d = some d :=
  resolve_eq_some_iff.mpr ⟨h, .inl (folded_of_known d h)⟩

theorem isTarget_iff : isTarget name = true ↔ resolve name = some target := by
  rw [isTarget, beq_iff_eq]

theorem mem_sources_iff_not_isTarget (h : resolve name = some d) :
    d ∈ sources ↔ ¬ isTarget name = true := by
  rw [isTarget_iff, h, Option.some.injEq]
  constructor
  · rintro readable rfl
    exact target_not_mem_sources readable
  · intro other
    exact (mem_known_iff.mp (mem_known_of_resolve h)).resolve_left other

end Dialect

/-- An engine is asked for the dialect that a name resolves to. -/
theorem Engine.dialect?_eq_ok_iff {engine : Engine} {name d : String} :
    engine.dialect? name = .ok d ↔ Dialect.resolve name = some d ∧ engine.knows d = true := by
  unfold Engine.dialect?
  cases Dialect.resolve name with
  | none => simp
  | some e =>
    by_cases known : engine.knows e
    · simp only [known, if_true, Except.ok.injEq, Option.some.injEq]
      constructor
      · rintro rfl
        exact ⟨rfl, known⟩
      · exact fun h => h.1
    · simp only [known, Option.some.injEq]
      constructor
      · intro h
        cases h
      · rintro ⟨rfl, known'⟩
        exact absurd known' known

namespace Dialect

/-- Resolving is a projection onto the known names. Blanks around a spelling and the cases of its
ASCII letters do not count; a spelling stands for a known name just if, without the blanks and with
small ASCII letters, it is that name or one of its short forms. A name that is stood for is the
target or can be read, never both, and stands for itself: to resolve once more, as an engine does,
changes nothing. -/
theorem resolve_is_projection :
    (∀ before name after, Text.isBlankText before = true → Text.isBlankText after = true →
      resolve (before ++ name ++ after) = resolve name) ∧
    (∀ name other, List.Forall₂ Text.Recased name.toList other.toList →
      resolve name = resolve other) ∧
    (∀ name, folded name = .ofList ((Text.trim name.toList).map Text.smallLetter)) ∧
    (∀ name d, resolve name = some d ↔
      (d = target ∨ d ∈ sources) ∧ (folded name = d ∨ (folded name, d) ∈ aliases)) ∧
    (∀ name d, resolve name = some d → resolve d = some d) ∧
    (∀ name, (resolve name).bind resolve = resolve name) ∧
    (∀ name, isTarget name = true ↔ resolve name = some target) ∧
    (∀ name d, resolve name = some d → Xor (isTarget name = true) (d ∈ sources)) ∧
    ∀ (engine : Engine) name d, resolve name = some d →
      ∀ e, engine.dialect? d = .ok e ↔ engine.dialect? name = .ok e := by
  have settled (name d : String) (h : resolve name = some d) : resolve d = some d :=
    resolve_of_known (mem_known_of_resolve h)
  refine ⟨?_, ?_, folded_eq, ?_, settled, ?_, fun _ => isTarget_iff, ?_, ?_⟩
  · intro before name after hb ha
    exact resolve_congr (folded_padded hb ha name)
  · intro name other recased
    exact resolve_congr (folded_recased recased)
  · intro name d
    rw [resolve_eq_some_iff, mem_known_iff]
  · intro name
    cases h : resolve name with
    | none => rfl
    | some d => rw [Option.bind_some, settled name d h]
  · intro name d h
    have apart := mem_sources_iff_not_isTarget h
    by_cases written : isTarget name = true
    · exact .inl ⟨written, fun readable => apart.mp readable written⟩
    · exact .inr ⟨apart.mpr written, written⟩
  · intro engine name d h e
    rw [Engine.dialect?_eq_ok_iff, Engine.dialect?_eq_ok_iff, h, settled name d h]

/-- A short form in capital letters between blanks, one that stands for the target, and a name with
a letter that only looks like one of ASCII. -/
theorem resolve_is_projection_samples :
    resolve ("\u3000" ++ "MsSql" ++ "\n") = some "tsql" ∧ resolve "tsql" = some "tsql" ∧
    (isTarget "S2" = true ∧ target ∉ sources) ∧
    resolve "databric\u212as" ≠ some "databricks" := by
  obtain ⟨padded, recased, -, spelled, settled, -, target_, apart, -⟩ := resolve_is_projection
  have short : resolve "mssql" = some "tsql" :=
    (spelled "mssql" "tsql").mpr ⟨.inr (by decide), .inr (by decide)⟩
  have letters : List.Forall₂ Text.Recased "MsSql".toList "mssql".toList := by
    refine .cons ?_ (.cons (.same 's') (.cons ?_ (.cons (.same 'q') (.cons (.same 'l') .nil))))
    · exact .small (by decide) rfl
    · exact .small (by decide) rfl
  have written : resolve "S2" = some target :=
    (spelled "S2" target).mpr ⟨.inl rfl, .inr (by decide)⟩
  have first : resolve ("\u3000" ++ "MsSql" ++ "\n") = some "tsql" :=
    (padded "\u3000" "MsSql" "\n" (by decide) (by decide)).trans
      ((recased "MsSql" "mssql" letters).trans short)
  refine ⟨first, settled _ _ first, ⟨(target_ "S2").mpr written, ?_⟩, ?_⟩
  · rcases apart "S2" target written with ⟨-, other⟩ | ⟨-, other⟩
    · exact other
    · exact absurd ((target_ "S2").mpr written) other
  · intro h
    have lookup := ((spelled _ _).mp h).2
    revert lookup
    decide

end Dialect

end SqlConverter
