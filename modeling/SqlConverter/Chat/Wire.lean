import SqlConverter.Chat.Message
import SqlConverter.Json.Reader

namespace SqlConverter.Chat

open Json (Value)

def Message.toValue (m : Message) : Value :=
  .record [("role", .text m.role.name), ("content", .text m.content)]

/-- A role is its name, or an object that holds nothing under its name. -/
def Role.ofValue? : Value → Option Role
  | .string (some name) => Role.ofName? name
  | .object [(some name, .null)] => Role.ofName? name
  | _ => none

def textOf? : Value → Option String
  | .string text => text
  | _ => none

def Message.ofValue? (v : Value) : Option Message := do
  match ← Json.fields? ["role", "content"] v with
  | [role, content] => return ⟨← Role.ofValue? role, ← textOf? content⟩
  | _ => none

def Message.write (m : Message) : String := m.toValue.compact

def Message.read? (text : String) : Option Message := Json.read? text >>= Message.ofValue?

structure ChatRequest where
  model : String
  messages : List Message
  deriving DecidableEq, Repr

/-- The reply is wanted whole, not in pieces. -/
def ChatRequest.toValue (r : ChatRequest) : Value :=
  .record [("model", .text r.model), ("messages", .array (r.messages.map Message.toValue)),
    ("stream", .bool false)]

def ChatRequest.body (r : ChatRequest) : String := r.toValue.compact

def replyMessage? (v : Value) : Option Message := do
  match ← Json.fields? ["message"] v with
  | [m] => Message.ofValue? m
  | _ => none

def replyContent? (body : String) : Option String := do
  return (← replyMessage? (← Json.read? body)).content

end SqlConverter.Chat
