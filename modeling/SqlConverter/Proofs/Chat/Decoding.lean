import SqlConverter.Chat.Wire
import SqlConverter.Proofs.Json.Members
import SqlConverter.Proofs.Json.RoundTrip

namespace SqlConverter.Chat

open Json (Document Sole Value occurrences)

/-- A role is denoted by its name, on its own or as the one key of an object that holds nothing. -/
inductive Role.Denoted : Value → Role → Prop
  | name (r : Role) : Role.Denoted (.text r.name) r
  | keyed (r : Role) : Role.Denoted (.record [(r.name, .null)]) r

theorem Role.ofName?_eq_some_iff {name : String} {r : Role} :
    Role.ofName? name = some r ↔ name = r.name := by
  constructor
  · intro found
    have named := List.find?_some found
    exact (beq_iff_eq.mp named).symm
  · rintro rfl
    exact r.ofName?_name

theorem Role.ofValue?_eq_some_iff {v : Value} {r : Role} :
    Role.ofValue? v = some r ↔ Role.Denoted v r := by
  constructor
  · intro h
    unfold Role.ofValue? at h
    split at h
    · cases Role.ofName?_eq_some_iff.mp h
      exact .name r
    · cases Role.ofName?_eq_some_iff.mp h
      exact .keyed r
    · cases h
  · rintro (_ | _) <;> exact r.ofName?_name

theorem textOf?_eq_some_iff {v : Value} {s : String} : textOf? v = some s ↔ v = .text s := by
  cases v <;> simp [textOf?, Value.text]

/-- The members of a message: one role and one content, and any others. -/
def Message.Among (members : List (String × Value)) (m : Message) : Prop :=
  ∃ role, Sole "role" role members ∧ Role.Denoted role m.role ∧
    Sole "content" (.text m.content) members

inductive Message.Denoted : Value → Message → Prop
  | object {members : List (String × Value)} {m : Message} (h : Message.Among members m) :
      Message.Denoted (.record members) m
  | array {role : Value} {m : Message} (h : Role.Denoted role m.role) :
      Message.Denoted (.array [role, .text m.content]) m

theorem Message.ofValue?_iff_fields {v : Value} {m : Message} :
    Message.ofValue? v = some m ↔
      ∃ role, Role.Denoted role m.role ∧
        Json.fields? ["role", "content"] v = some [role, .text m.content] := by
  rw [Message.ofValue?, Option.bind_eq_bind, Option.bind_eq_some_iff]
  constructor
  · rintro ⟨fields, found, h⟩
    split at h
    · next role content =>
      simp only [Option.bind_eq_bind, Option.bind_eq_some_iff] at h
      obtain ⟨r, denoted, s, text, same⟩ := h
      cases same
      rw [textOf?_eq_some_iff.mp text] at found
      exact ⟨role, Role.ofValue?_eq_some_iff.mp denoted, found⟩
    · cases h
  · rintro ⟨role, denoted, found⟩
    refine ⟨_, found, ?_⟩
    simp only [Role.ofValue?_eq_some_iff.mpr denoted, Option.bind_eq_bind, Option.bind_some]
    rfl

theorem Message.ofValue?_record {members : List (String × Value)} {m : Message} :
    Message.ofValue? (.record members) = some m ↔ Message.Among members m := by
  rw [Message.ofValue?_iff_fields]
  simp only [Json.fields?_record, List.forall₂_cons, List.forall₂_nil_left_iff, and_true]
  constructor
  · rintro ⟨role, denoted, one, two⟩
    exact ⟨role, one, denoted, two⟩
  · rintro ⟨role, one, denoted, two⟩
    exact ⟨role, denoted, one, two⟩

theorem Message.ofValue?_eq_some_iff {v : Value} {m : Message} :
    Message.ofValue? v = some m ↔ Message.Denoted v m := by
  constructor
  · intro h
    obtain ⟨role, denoted, fields⟩ := Message.ofValue?_iff_fields.mp h
    rcases Json.fields?_eq_some_iff.mp fields with ⟨members, rfl, -⟩ | ⟨rfl, -⟩
    · exact .object (Message.ofValue?_record.mp h)
    · exact .array denoted
  · rintro (among | denoted)
    · exact Message.ofValue?_record.mpr among
    · exact Message.ofValue?_iff_fields.mpr ⟨_, denoted, rfl⟩

/-- A message is denoted by what is written of it. -/
theorem Message.denoted_toValue (m : Message) : Message.Denoted m.toValue m :=
  .object ⟨.text m.role.name, rfl, .name m.role, rfl⟩

theorem Message.read?_eq_some_iff {text : String} {m : Message} :
    Message.read? text = some m ↔ ∃ v, Document text.toList v ∧ Message.Denoted v m := by
  rw [Message.read?, Option.bind_eq_bind, Option.bind_eq_some_iff]
  simp only [Json.read?_eq_some_iff, Message.ofValue?_eq_some_iff]

theorem Message.read?_record {text : String} {members : List (String × Value)}
    (spelled : Document text.toList (.record members)) {m : Message} :
    Message.read? text = some m ↔ Message.Among members m := by
  rw [Message.read?, Json.read?_eq_some_iff.mpr spelled]
  exact Message.ofValue?_record

/-- A reply holds a message, under the one key for it or as the one item of an array. -/
inductive Message.Replied : Value → Message → Prop
  | object {members : List (String × Value)} {v : Value} {m : Message}
      (sole : Sole "message" v members) (h : Message.Denoted v m) :
      Message.Replied (.record members) m
  | array {v : Value} {m : Message} (h : Message.Denoted v m) : Message.Replied (.array [v]) m

theorem replyMessage?_iff_fields {v : Value} {m : Message} :
    replyMessage? v = some m ↔
      ∃ w, Message.Denoted w m ∧ Json.fields? ["message"] v = some [w] := by
  rw [replyMessage?, Option.bind_eq_bind, Option.bind_eq_some_iff]
  constructor
  · rintro ⟨fields, found, h⟩
    split at h
    · next w => exact ⟨w, Message.ofValue?_eq_some_iff.mp h, found⟩
    · cases h
  · rintro ⟨w, denoted, found⟩
    exact ⟨[w], found, Message.ofValue?_eq_some_iff.mpr denoted⟩

theorem replyMessage?_eq_some_iff {v : Value} {m : Message} :
    replyMessage? v = some m ↔ Message.Replied v m := by
  rw [replyMessage?_iff_fields]
  constructor
  · rintro ⟨w, denoted, fields⟩
    rcases Json.fields?_eq_some_iff.mp fields with ⟨members, rfl, found⟩ | ⟨rfl, -⟩
    · simp only [List.forall₂_cons, List.forall₂_nil_left_iff, and_true] at found
      exact .object found denoted
    · exact .array denoted
  · rintro (⟨sole, denoted⟩ | denoted)
    · exact ⟨_, denoted, Json.fields?_record.mpr (.cons sole .nil)⟩
    · exact ⟨_, denoted, rfl⟩

theorem replyContent?_eq_some_iff {body c : String} :
    replyContent? body = some c ↔
      ∃ v m, Document body.toList v ∧ Message.Replied v m ∧ m.content = c := by
  simp only [replyContent?, Option.bind_eq_bind, Option.bind_eq_some_iff, Option.some.injEq,
    Json.read?_eq_some_iff, replyMessage?_eq_some_iff, Option.pure_def]
  constructor
  · rintro ⟨v, spelled, m, replied, same⟩
    exact ⟨v, m, spelled, replied, same⟩
  · rintro ⟨v, m, spelled, replied, same⟩
    exact ⟨v, spelled, m, replied, same⟩

/-- Neither the order of the members counts, nor what stands under other keys. -/
theorem Message.among_append {members members' extra : List (String × Value)}
    (others : ∀ e ∈ extra, e.1 ≠ "role" ∧ e.1 ≠ "content")
    (order : members'.Perm (members ++ extra)) (m : Message) :
    Message.Among members' m ↔ Message.Among members m := by
  have role (v : Value) : Sole "role" v members' ↔ Sole "role" v members :=
    (Json.sole_perm order).trans (Json.sole_append fun e among => (others e among).1)
  have content (v : Value) : Sole "content" v members' ↔ Sole "content" v members :=
    (Json.sole_perm order).trans (Json.sole_append fun e among => (others e among).2)
  simp only [Message.Among, role, content]

/-- Of a text that spells an object, a message is read exactly if one member is a role, one is a
content, the role denotes one of the three and the content is a text; and it is that role and that
content. A key that is missing or repeated, a role of another name and a content that is no text are
rejected; so is anything but white space behind the object. In another order, among other members of
whatever values and however it is laid out, the same is read. -/
theorem Message.read_by_members (members : List (String × Value)) (text : String)
    (spelled : Document text.toList (.record members)) :
    (∀ m, Message.read? text = some m ↔
      ∃ role, Sole "role" role members ∧ Role.Denoted role m.role ∧
        Sole "content" (.text m.content) members) ∧
    (occurrences "role" members ≠ 1 ∨ occurrences "content" members ≠ 1 ∨
      (∃ v, Sole "role" v members ∧ ∀ r, ¬Role.Denoted v r) ∨
      (∃ v, Sole "content" v members ∧ ∀ s, v ≠ .text s) → Message.read? text = none) ∧
    (∀ tail : String, tail.toList.all Json.isSpace = false → Message.read? (text ++ tail) = none) ∧
    ∀ (extra members' : List (String × Value)) (text' : String),
      (∀ e ∈ extra, e.1 ≠ "role" ∧ e.1 ≠ "content") → members'.Perm (members ++ extra) →
      Document text'.toList (.record members') → Message.read? text' = Message.read? text := by
  have accepted (m : Message) := Message.read?_record spelled (m := m)
  refine ⟨accepted, ?_, ?_, ?_⟩
  · intro bad
    rw [Option.eq_none_iff_forall_ne_some]
    intro m read
    obtain ⟨role, one, denoted, two⟩ := (accepted m).mp read
    rcases bad with count | count | ⟨v, sole, other⟩ | ⟨v, sole, other⟩
    · exact count one.occurrences_eq_one
    · exact count two.occurrences_eq_one
    · rw [sole.value_eq one] at other
      exact other m.role denoted
    · exact other m.content (sole.value_eq two)
  · intro tail more
    have object : Value.record members ≠ .number := by
      intro same
      cases same
    rw [Message.read?, Json.read?_append_eq_none spelled object more]
    rfl
  · intro extra members' text' others order spelled'
    have same (m : Message) : Message.read? text' = some m ↔ Message.read? text = some m := by
      rw [accepted, Message.read?_record spelled']
      exact Message.among_append others order m
    exact Option.ext same

theorem Message.read_by_members_samples :
    Message.read? "\x7b\"role\":\"user\",\"content\":\"SELECT 1\"\x7d" = some ⟨.user, "SELECT 1"⟩ ∧
    Message.read? ("\x7b\"role\":\"user\",\"content\":\"SELECT 1\"\x7d" ++ " x") = none ∧
    Message.read? ((Value.record [("content", .text "SELECT 1"), ("role", .text "user"),
      ("done", .array [.bool true, .string none]), ("done", .null)]).indented ++ "\n") =
        some ⟨.user, "SELECT 1"⟩ := by
  let members := [("role", Value.text "user"), ("content", .text "SELECT 1")]
  let others := [("done", Value.array [.bool true, .string none]), ("done", .null)]
  have written :
      (Value.record members).compact = "\x7b\"role\":\"user\",\"content\":\"SELECT 1\"\x7d" := by
    decide +kernel
  have spelled := Json.read?_eq_some_iff.mp (Json.read?_compact (.record members))
  rw [written] at spelled
  obtain ⟨accepted, -, closed, kept⟩ := Message.read_by_members members _ spelled
  have first := (accepted ⟨.user, "SELECT 1"⟩).mpr ⟨.text "user", rfl, .name .user, rfl⟩
  have unknown : ∀ e ∈ others, e.1 ≠ "role" ∧ e.1 ≠ "content" := by simp [others]
  have order := members.reverse_perm.append_right others
  have spelled' := Json.read?_eq_some_iff.mp
    (Json.read?_indented_line (.record (members.reverse ++ others)))
  exact ⟨first, closed " x" (by decide), (kept others _ _ unknown order spelled').trans first⟩

end SqlConverter.Chat
