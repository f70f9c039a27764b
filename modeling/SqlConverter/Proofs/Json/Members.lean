import SqlConverter.Json.Reader
import SqlConverter.Proofs.Failure

namespace SqlConverter.Json

variable {key : String} {keys : List String} {v : Value} {vs : List Value}
  {members extra : List (String × Value)}

/-- One member has the key and no other has it, and under it stands the value. -/
def Sole (key : String) (v : Value) (members : List (String × Value)) : Prop :=
  members.filter (fun m => m.1 == key) = [(key, v)]

/-- How often a key stands. -/
def occurrences (key : String) (members : List (String × Value)) : Nat :=
  members.countP fun m => m.1 == key

theorem Sole.value_eq {w : Value} (h : Sole key v members) (h' : Sole key w members) : v = w := by
  have same := h.symm.trans h'
  simpa using same

theorem Sole.occurrences_eq_one (h : Sole key v members) : occurrences key members = 1 := by
  rw [occurrences, List.countP_eq_length_filter, h]
  rfl

theorem sole_perm {members' : List (String × Value)} (h : members'.Perm members) :
    Sole key v members' ↔ Sole key v members := by
  have kept := h.filter fun m => m.1 == key
  constructor
  · intro sole
    rw [sole] at kept
    exact List.singleton_perm.mp kept |>.symm
  · intro sole
    rw [sole] at kept
    exact List.perm_singleton.mp kept

theorem sole_append (h : ∀ m ∈ extra, m.1 ≠ key) :
    Sole key v (members ++ extra) ↔ Sole key v members := by
  have none : extra.filter (fun m => m.1 == key) = [] := by
    rw [List.filter_eq_nil_iff]
    intro m among
    simpa using h m among
  rw [Sole, Sole, List.filter_append, none, List.append_nil]

theorem valuesAt_record (key : String) (members : List (String × Value)) :
    valuesAt key (members.map fun (key, v) => (some key, v)) =
      (members.filter fun m => m.1 == key).map (·.2) := by
  rw [valuesAt, List.filter_map, List.map_map]
  rfl

theorem only?_record :
    only? key (members.map fun (key, v) => (some key, v)) = some v ↔ Sole key v members := by
  rw [only?, valuesAt_record, Sole]
  have named : ∀ m ∈ members.filter (fun m => m.1 == key), m.1 = key := by
    intro m among
    simpa using (List.mem_filter.mp among).2
  cases found : members.filter (fun m => m.1 == key) with
  | nil => simp
  | cons m rest =>
    obtain ⟨k, w⟩ := m
    have same : k = key := named (k, w) (by simp [found])
    cases rest <;> simp [same]

theorem fields?_record :
    fields? keys (.record members) = some vs ↔
      List.Forall₂ (fun key v => Sole key v members) keys vs := by
  have texts : (members.map fun (key, v) => (some key, v)).all (·.1.isSome) = true := by simp
  rw [Value.record, fields?, if_pos texts, mapM_eq_some_iff]
  simp only [only?_record]

theorem sole_of_mem (distinct : (members.map Prod.fst).Nodup) (among : (key, v) ∈ members) :
    Sole key v members := by
  induction members with
  | nil => cases among
  | cons m members ih =>
    rw [List.map_cons, List.nodup_cons] at distinct
    rcases List.mem_cons.mp among with rfl | later
    · have others : ∀ m ∈ members, m.1 ≠ key := by
        intro m listed same
        exact distinct.1 (List.mem_map.mpr ⟨m, listed, same⟩)
      have alone : Sole key v [(key, v)] := by simp [Sole]
      exact (sole_append others).mpr alone
    · have differs : m.1 ≠ key := by
        intro same
        exact distinct.1 (List.mem_map.mpr ⟨(key, v), later, same.symm⟩)
      rw [Sole, List.filter_cons_of_neg (by simpa using differs)]
      exact ih distinct.2 later

/-- Of an object that holds the known keys and no others, each once, all values are found. -/
theorem fields?_of_nodup (distinct : (members.map Prod.fst).Nodup) :
    fields? (members.map Prod.fst) (.record members) = some (members.map Prod.snd) := by
  rw [fields?_record, List.forall₂_map_left_iff, List.forall₂_map_right_iff, List.forall₂_same]
  exact fun m among => sole_of_mem distinct among

/-- An object whose keys are all texts is a record. -/
theorem exists_record {members : List (Option String × Value)}
    (texts : members.all (·.1.isSome) = true) :
    ∃ record, Value.object members = .record record := by
  induction members with
  | nil => exact ⟨[], rfl⟩
  | cons m members ih =>
    obtain ⟨key, v⟩ := m
    rw [List.all_cons, Bool.and_eq_true] at texts
    obtain ⟨key, rfl⟩ := Option.isSome_iff_exists.mp texts.1
    obtain ⟨record, same⟩ := ih texts.2
    refine ⟨(key, v) :: record, ?_⟩
    rw [Value.record] at same ⊢
    rw [List.map_cons, Value.object.inj same]

/-- Known keys are found in an object in which each stands once, or in an array as long as they
are. -/
theorem fields?_eq_some_iff :
    fields? keys v = some vs ↔
      (∃ members, v = .record members ∧ List.Forall₂ (fun key w => Sole key w members) keys vs) ∨
      (v = .array vs ∧ vs.length = keys.length) := by
  constructor
  · intro h
    unfold fields? at h
    split at h
    · next members =>
      split at h
      · next texts =>
        obtain ⟨record, same⟩ := exists_record texts
        refine .inl ⟨record, same, fields?_record.mp ?_⟩
        rw [← same, fields?, if_pos texts, h]
      · cases h
    · next items =>
      split at h
      · next long =>
        cases h
        exact .inr ⟨rfl, long⟩
      · cases h
    · cases h
  · rintro (⟨members, rfl, found⟩ | ⟨rfl, long⟩)
    · exact fields?_record.mpr found
    · rw [fields?, if_pos long]

end SqlConverter.Json
