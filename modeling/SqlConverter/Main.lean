import SqlConverter.CommandLine.Invocation
import SqlConverter.Sql.Engine
import SqlConverter.Web.Http
import SqlConverter.Web.Plain
import Std.Async.DNS
import Std.Async.TCP
import Std.Async.Timer

namespace SqlConverter.Main

open Std.Async

def isDirectory (path : String) : IO Bool := do
  try
    let real ← IO.FS.realPath path
    real.isDir
  catch _ => return false

def fileState (path : String) : IO FileState := do
  if ← isDirectory path then return .directory
  try
    return .contents (← IO.FS.readBinFile path).toList
  catch
    | .inappropriateType .. => return .notDirectory
    | .permissionDenied _ code details =>
      return .locked (details ++ " (os error " ++ toString code ++ ")")
    | _ => return .absent

def collected {α : Type} (keys : List String) (look : String → IO α) : IO (List (String × α)) :=
  keys.mapM fun key => do return (key, ← look key)

def variableNames : List String :=
  ["S2CONVERT_MODEL", "S2CONVERT_ENDPOINT", "XDG_CONFIG_HOME", "HOME"]

def paths (a : CommandLine.Arguments) (userConfig : Option String) : List String :=
  a.config.toList ++ a.file.toList ++ userConfig.toList ++ [Config.localFile]

def streamBytes : IO (Option Text.Bytes) := do
  let input ← IO.getStdin
  if ← input.isTty then return none
  return some (← input.readBinToEnd).toList

def surroundings (words : List String) : IO CommandLine.Surroundings := do
  let values ← collected variableNames fun name => IO.getEnv name
  let environment := fun name => (values.lookup name).join
  let userConfig := CommandLine.userConfigPath environment
  match CommandLine.Arguments.parse environment words with
  | .error _ => return ⟨fun _ => .absent, environment, none, userConfig⟩
  | .ok a =>
    let files ← collected (paths a userConfig) fileState
    let stdin ← if a.readsStream then streamBytes else pure none
    return ⟨fun path => (files.lookup path).getD .absent, environment, stdin, userConfig⟩

/-- All that is sent until the other side closes the connection. -/
partial def received (socket : TCP.Socket.Client) (bytes : ByteArray) : Async ByteArray := do
  match ← socket.recv? 65536 with
  | some more => received socket (bytes ++ more)
  | none => return bytes

def exchangeWith (address : Std.Net.SocketAddress) (request : String) : Async ByteArray := do
  let socket ← TCP.Socket.Client.mk
  socket.connect address
  socket.send request.toUTF8
  received socket ByteArray.empty

def socketAddress (port : UInt16) : Std.Net.IPAddr → Std.Net.SocketAddress
  | .v4 addr => .v4 ⟨addr, port⟩
  | .v6 addr => .v6 ⟨addr, port⟩

/-- Tries addresses one after the other until a connection brings an answer. -/
def firstAnswer (request : String) : List Std.Net.SocketAddress → Async Web.Exchange
  | [] => return .failed
  | address :: rest => do
    try
      let bytes ← exchangeWith address request
      match Web.Http.answer? bytes.toList with
      | some answer => return .answered answer
      | none => return .failed
    catch _ => firstAnswer request rest

def hostAndPort (url : Web.Url) : String × Nat :=
  let (host, port) := Web.Url.splitPort (url.authority.getD "").toList
  let bare := host.filter fun c => !(c == '[' || c == ']')
  (.ofList bare, (Text.numeral? 10 (port.drop 1)).filter (· ≠ 0) |>.getD 80)

def ask (url : Web.Url) (request : String) : Async Web.Exchange := do
  let (host, port) := hostAndPort url
  try
    let found ← DNS.getAddrInfo host (toString port)
    firstAnswer request (found.toList.map (socketAddress (.ofNat port)))
  catch _ => return .failed

def expired (seconds : Nat) : Async Web.Exchange := do
  sleep (.ofNat (seconds * 1000))
  return .timedOut

/-- What becomes of a request within the time allowed. Only open connections are spoken: a request
to an `https` address always fails. -/
def exchange (seconds : Nat) (request : Web.Request) : IO Web.Exchange := do
  match Web.Url.read? request.address with
  | some url =>
    if url.scheme = "http" then
      (Async.race (ask url (Web.Http.request url request)) (expired seconds)).block
    else return .failed
  | none => return .failed

/-- Asks a chat service. An answer that points elsewhere is not followed. -/
def send (client : Chat.Client) (messages : List Chat.Message) : IO Chat.Reply :=
  (client.complete Web.plain messages).runM (exchange client.timeoutSecs)

end SqlConverter.Main

def main (words : List String) : IO UInt32 := do
  let around ← SqlConverter.Main.surroundings words
  let outcome ← SqlConverter.CommandLine.invoke (.own "this is not TOML")
    SqlConverter.Sql.engine.transpiler SqlConverter.Main.send around words
  IO.print outcome.stdout
  IO.eprint (outcome.stderr fun _ => "")
  return .ofNat outcome.status
