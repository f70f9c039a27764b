import SqlConverter.Chat.Wire
import SqlConverter.Config.Basic
import SqlConverter.Json.Encoded
import SqlConverter.Web.Library

namespace SqlConverter.Chat

open Web (Answer Fault Fetch Library)

def replyIn (lib : Library) (body : Text.Bytes) : Except Fault String :=
  match replyContent? (.ofList (Json.charsOf body)) with
  | some content => .ok content
  | none => .error lib.malformed

/-- A server, the model to ask of it, and how long to wait. -/
structure Client where
  endpoint : String
  model : String
  timeoutSecs : Nat
  deriving DecidableEq, Repr

namespace Client

def ofConfig (config : Config) : Client := ⟨config.endpoint, config.model, config.timeoutSecs⟩

/-- The address of the chat service, whatever number of slashes end the endpoint. -/
def address (client : Client) : String :=
  .ofList (Text.dropEndWhile (· == '/') client.endpoint.toList ++ "/api/chat".toList)

def request (client : Client) (messages : List Message) : ChatRequest := ⟨client.model, messages⟩

def post (client : Client) (messages : List Message) : Web.Request :=
  ⟨"POST", client.address, (client.request messages).body⟩

/-- The failure of the service that a fault amounts to: that the time was up, else that what came
cannot be read, else that nothing came. -/
def serviceError (client : Client) (fault : Fault) : ServiceError :=
  if fault.isTimeout then .timeout client.timeoutSecs
  else if fault.isDecode then .decode fault.text
  else .transport fault.text

/-- The status decides first; only the body of a success is read as a reply. -/
def reply (client : Client) (lib : Library) : Except Fault Answer → Reply
  | .error fault => .error (client.serviceError fault)
  | .ok a =>
    if a.isSuccess then (lib.received a.body >>= replyIn lib).mapError client.serviceError
    else .error (.status a.status (lib.shown a))

def complete (client : Client) (lib : Library) (messages : List Message) : Fetch Reply := do
  return client.reply lib (← lib.send (client.post messages))

end Client

end SqlConverter.Chat
