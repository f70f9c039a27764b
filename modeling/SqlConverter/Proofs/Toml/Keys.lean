import SqlConverter.Toml.Reader

namespace SqlConverter.Toml

namespace Entries

variable {es es' : Entries} {key : String}

/-- No key stands twice. -/
def Distinct (es : Entries) : Prop := (es.map Prod.fst).Nodup

theorem lookup_eq_none_iff_not_mem {α : Type} {es : List (String × α)} :
    es.lookup key = none ↔ key ∉ es.map Prod.fst := by
  rw [List.lookup_eq_none_iff, List.mem_map, not_exists]
  constructor
  · rintro other e ⟨present, named⟩
    have differs := other e present
    simp [named] at differs
  · intro absent e present
    have differs : key ≠ e.1 := fun same => absent e ⟨present, same.symm⟩
    simpa using differs

theorem Distinct.append (h : Distinct es) (fresh : es.lookup key = none) (node : Node) :
    Distinct (es ++ [(key, node)]) := by
  rw [Distinct, List.map_append, List.nodup_append]
  refine ⟨h, by simp, ?_⟩
  intro k among d single same
  rw [same, List.mem_singleton.mp single] at among
  exact lookup_eq_none_iff_not_mem.mp fresh among

theorem keys_replace (key : String) (node : Node) (es : Entries) :
    (es.replace key node).map Prod.fst = es.map Prod.fst := by
  rw [replace, List.map_map]
  apply List.map_congr_left
  intro e among
  by_cases same : e.1 = key <;> simp [same]

theorem Distinct.replace (h : Distinct es) (node : Node) : Distinct (es.replace key node) := by
  rwa [Distinct, keys_replace]

/-- What takes the place of a value may be made by something that can fail. -/
theorem Distinct.replaced {α : Type} {made : Option α} {node : α → Node} (h : Distinct es)
    (changed : (made >>= fun sub => some (es.replace key (node sub))) = some es') :
    Distinct es' := by
  rw [Option.bind_eq_bind, Option.bind_eq_some_iff] at changed
  obtain ⟨sub, -, same⟩ := changed
  cases same
  exact h.replace (node sub)

theorem Distinct.move (h : Distinct es) (node : Node) :
    Distinct (es.without key ++ [(key, node)]) := by
  have kept : Distinct (es.without key) := List.Nodup.sublist (List.filter_sublist.map _) h
  refine kept.append ?_ node
  rw [lookup_eq_none_iff_not_mem, List.mem_map]
  rintro ⟨e, present, named⟩
  have other := (List.mem_filter.mp present).2
  simp [named] at other

/-- A change that leaves no key twice. -/
def Keeps (f : Entries → Option Entries) : Prop :=
  ∀ es es', Distinct es → f es = some es' → Distinct es'

theorem keeps_insert (v : Value) (path : List String) : Keeps (insert v path) := by
  intro es es' h changed
  unfold insert at changed
  split at changed
  · cases changed
  · next key =>
    split at changed
    · cases changed
    · next fresh =>
      cases changed
      exact h.append (Option.not_isSome_iff_eq_none.mp fresh) _
  · split at changed
    · next fresh =>
      simp only [Option.bind_eq_bind, Option.bind_eq_some_iff] at changed
      obtain ⟨sub, -, same⟩ := changed
      cases same
      exact h.append fresh _
    · exact h.replaced changed
    · split at changed
      · cases changed
      · exact h.replaced changed
    · split at changed
      · cases changed
      · exact h.replaced changed
    · cases changed

theorem keeps_openTable (key : String) : Keeps (openTable key) := by
  intro es es' h changed
  unfold openTable at changed
  split at changed
  · next fresh =>
    cases changed
    exact h.append fresh _
  · cases changed
    exact h.move _
  · cases changed

theorem keeps_openNext (key : String) : Keeps (openNext key) := by
  intro es es' h changed
  unfold openNext at changed
  split at changed
  · next fresh =>
    cases changed
    exact h.append fresh _
  · cases changed
    exact h.replace _
  · cases changed

theorem keeps_within {f : Entries → Option Entries} (hf : Keeps f) (path : List String) :
    Keeps (within f path) := by
  intro es es' h changed
  unfold within at changed
  split at changed
  · exact hf es es' h changed
  · split at changed
    · next fresh =>
      obtain ⟨sub, -, same⟩ := Option.map_eq_some_iff.mp changed
      cases same
      exact h.append fresh _
    · exact h.replaced changed
    · exact h.replaced changed
    · cases changed

end Entries

open Entries (Distinct Keeps)

variable {s s' : Section} {cs rest : List Char}

theorem Section.distinct_add {key : List String} {v : Value} (h : Distinct s.root)
    (added : s.add key v = some s') : Distinct s'.root := by
  rw [Section.add, Option.bind_eq_bind, Option.bind_eq_some_iff] at added
  obtain ⟨root, changed, same⟩ := added
  cases same
  exact Entries.keeps_within (Entries.keeps_insert v key) _ _ _ h changed

theorem Section.distinct_openWith {f : String → Entries → Option Entries} {path : List String}
    (hf : ∀ key, Keeps (f key)) (h : Distinct s.root) (opened : s.openWith f path = some s') :
    Distinct s'.root := by
  simp only [Section.openWith, Option.bind_eq_bind, Option.bind_eq_some_iff] at opened
  obtain ⟨key, -, root, changed, same⟩ := opened
  cases same
  exact Entries.keeps_within (hf key) _ _ _ h changed

theorem distinct_entry? (h : Distinct s.root) (read : entry? s cs = some (s', rest)) :
    Distinct s'.root := by
  unfold entry? at read
  rw [Option.bind_eq_bind, Option.bind_eq_some_iff] at read
  obtain ⟨⟨key, after⟩, -, read⟩ := read
  dsimp only at read
  split at read
  · simp only [Option.bind_eq_bind, Option.bind_eq_some_iff] at read
    obtain ⟨⟨v, tail⟩, -, t, added, same⟩ := read
    cases same
    exact Section.distinct_add h added
  · cases read

theorem distinct_line? (h : Distinct s.root) (read : line? s cs = some (s', rest)) :
    Distinct s'.root := by
  unfold line? at read
  split at read
  · rw [Option.bind_eq_bind, Option.bind_eq_some_iff] at read
    obtain ⟨⟨path, after⟩, -, read⟩ := read
    dsimp only at read
    split at read
    · simp only [Option.bind_eq_bind, Option.bind_eq_some_iff] at read
      obtain ⟨t, opened, same⟩ := read
      cases same
      exact Section.distinct_openWith Entries.keeps_openNext h opened
    · cases read
  · rw [Option.bind_eq_bind, Option.bind_eq_some_iff] at read
    obtain ⟨⟨path, after⟩, -, read⟩ := read
    dsimp only at read
    split at read
    · simp only [Option.bind_eq_bind, Option.bind_eq_some_iff] at read
      obtain ⟨t, opened, same⟩ := read
      cases same
      exact Section.distinct_openWith Entries.keeps_openTable h opened
    · cases read
  · split at read
    · cases read
      exact h
    · exact distinct_entry? h read
  · cases read
    exact h

theorem distinct_document? {fuel : Nat} (h : Distinct s.root)
    (read : document? fuel s cs = some s') : Distinct s'.root := by
  induction fuel generalizing s cs with
  | zero => cases read
  | succ fuel ih =>
    rw [document?] at read
    split at read
    · cases read
      exact h
    · simp only [Option.bind_eq_bind, Option.bind_eq_some_iff] at read
      obtain ⟨⟨t, after⟩, one, rest, -, others⟩ := read
      exact ih (distinct_line? h one) others

theorem keys_values (es : Entries) : (values es).map Prod.fst = es.map Prod.fst := by
  induction es with
  | nil => rfl
  | cons e es ih => rw [values, List.map_cons, List.map_cons, ih]

/-- No key of a document's table stands twice. -/
theorem nodup_of_read? {text : String} {table : Table} (h : read? text = some table) :
    (table.map Prod.fst).Nodup := by
  rw [read?, Option.bind_eq_bind, Option.bind_eq_some_iff] at h
  obtain ⟨s, document, same⟩ := h
  cases same
  rw [keys_values]
  have start : Distinct Section.start.root := List.nodup_nil
  exact distinct_document? start document

theorem parser_eq_ok_iff {said text : String} {table : Table} :
    parser said text = .ok table ↔ read? text = some table := by
  unfold parser
  cases read? text <;> simp

theorem parser_eq_error {said text : String} (h : read? text = none) :
    parser said text = .error said := by
  rw [parser, h]

theorem parser_distinct (said : String) : (parser said).Distinct :=
  fun _ _ spelled => nodup_of_read? (parser_eq_ok_iff.mp spelled)

end SqlConverter.Toml
