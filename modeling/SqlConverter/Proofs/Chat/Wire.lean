import SqlConverter.Chat.Client
import SqlConverter.Proofs.Chat.Decoding

namespace SqlConverter.Chat

open Json (Value)

theorem Message.ofValue?_toValue (m : Message) : Message.ofValue? m.toValue = some m :=
  Message.ofValue?_eq_some_iff.mpr m.denoted_toValue

theorem Message.read?_write (m : Message) : Message.read? m.write = some m := by
  rw [Message.read?, Message.write, Json.read?_compact]
  exact m.ofValue?_toValue

theorem mapM_ofValue?_toValue (messages : List Message) :
    (messages.map Message.toValue).mapM Message.ofValue? = some messages := by
  rw [mapM_map_eq_some Message.ofValue?_toValue, List.map_id']

/-- What a request spells: its model, its messages, and whether the reply may come in pieces. Its
members are these three and stand in this order. -/
def ChatRequest.spelled? : Value → Option (String × List Message × Bool)
  | .object [(some "model", .string (some model)), (some "messages", .array items),
      (some "stream", .bool stream)] => do
    return (model, ← items.mapM Message.ofValue?, stream)
  | _ => none

theorem ChatRequest.spelled?_toValue (r : ChatRequest) :
    ChatRequest.spelled? r.toValue = some (r.model, r.messages, false) := by
  change (do return (r.model, ← (r.messages.map Message.toValue).mapM Message.ofValue?, false)) = _
  rw [mapM_ofValue?_toValue]
  rfl

end SqlConverter.Chat
