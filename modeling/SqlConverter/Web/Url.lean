import SqlConverter.Web.Host

namespace SqlConverter.Web

/-- An address in parts. The authority is a host with its port, empty where a file names none;
`rest` is the path with query and fragment. -/
structure Url where
  scheme : String
  authority : Option String
  rest : String
  deriving DecidableEq, Repr

namespace Url

/-- Schemes whose addresses always name a host, with the port each of them implies. -/
def hosted : List (String × Nat) :=
  [("http", 80), ("https", 443), ("ftp", 21), ("ws", 80), ("wss", 443)]

def isControl (c : Char) : Bool := c.toNat < 0x20 || c.toNat = 0x7f

def unsafeInFragment (c : Char) : Bool := isControl c || " \"<>\x60".toList.contains c

def unsafeInPath (c : Char) : Bool := unsafeInFragment c || "#?\x7b\x7d".toList.contains c

def unsafeInQuery (c : Char) : Bool := isControl c || " \"#<>".toList.contains c

/-- Without the controls and blanks at its ends, and without tabs and line ends inside. -/
def cleaned (cs : List Char) : List Char :=
  (Text.dropEndWhile (·.toNat ≤ 0x20) (cs.dropWhile (·.toNat ≤ 0x20))).filter
    fun c => !(c == '\t' || c == '\n' || c == '\r')

def isSchemeChar (c : Char) : Bool := c.isAlphanum || "+-.".toList.contains c

/-- The scheme before the first colon, in small letters, and what follows the colon. -/
def splitScheme? (cs : List Char) : Option (List Char × List Char) :=
  match cs.takeWhile isSchemeChar, cs.dropWhile isSchemeChar with
  | c :: scheme, ':' :: rest => if c.isAlpha then some (Text.lower (c :: scheme), rest) else none
  | _, _ => none

def isSlash (c : Char) : Bool := c == '/' || c == '\\'

def endsAuthority (c : Char) : Bool := isSlash c || c == '?' || c == '#'

/-- What follows the last `@`, all of it when there is none. -/
def withoutCredentials (cs : List Char) : List Char :=
  (cs.reverse.takeWhile (· != '@')).reverse

/-- Host and port; a colon inside brackets belongs to the host. -/
def splitPort (cs : List Char) : List Char × List Char :=
  if cs.head? == some '[' then
    let host := cs.takeWhile (· != ']') ++ (cs.dropWhile (· != ']')).take 1
    (host, cs.drop host.length)
  else (cs.takeWhile (· != ':'), cs.dropWhile (· != ':'))

/-- The port as it is written: with its colon, and not at all when the scheme implies it. -/
def port? (implied : Option Nat) : List Char → Option (List Char)
  | [] => some []
  | [':'] => some []
  | ':' :: digits => do
    let n ← Text.numeral? 10 digits
    if n > 65535 then none
    else if some n == implied then some [] else some (':' :: (toString n).toList)
  | _ => none

def isDot (segment : List Char) : Bool :=
  [".", "%2e"].contains (String.ofList (Text.lower segment))

def isDoubleDot (segment : List Char) : Bool :=
  ["..", ".%2e", "%2e.", "%2e%2e"].contains (String.ofList (Text.lower segment))

/-- The segments of a path without dots, read from the front over those kept so far. -/
def resolved (kept : List (List Char)) : List (List Char) → List (List Char)
  | [] => kept
  | [last] =>
    if isDoubleDot last then kept.dropLast ++ [[]]
    else if isDot last then kept ++ [[]]
    else kept ++ [percentEncode unsafeInPath last]
  | segment :: rest =>
    if isDoubleDot segment then resolved kept.dropLast rest
    else if isDot segment then resolved kept rest
    else resolved (kept ++ [percentEncode unsafeInPath segment]) rest

/-- A path that starts with a slash. -/
def path (cs : List Char) : List Char :=
  (resolved [] (pieces '/' (cs.drop 1))).flatMap fun segment => '/' :: segment

/-- The query and the fragment, as far as there are any. -/
def tail (escape : Char → Bool) (cs : List Char) : List Char :=
  let query := cs.takeWhile (· != '#')
  let fragment := cs.dropWhile (· != '#')
  percentEncode (fun c => escape c) query ++
    fragment.take 1 ++ percentEncode unsafeInFragment (fragment.drop 1)

def isTailStart (c : Char) : Bool := c == '?' || c == '#'

/-- The path, query and fragment of an address whose slashes lean either way. -/
def hostedRest (cs : List Char) : List Char :=
  let written := (cs.takeWhile (!isTailStart ·)).map fun c => if c == '\\' then '/' else c
  path written ++ tail (fun c => unsafeInQuery c || c == '\'') (cs.dropWhile (!isTailStart ·))

/-- The authority of an address that must name a host, and what follows it. -/
def hosted? (implied : Nat) (rest : List Char) : Option (List Char × List Char) := do
  let rest := rest.dropWhile isSlash
  let (host, port) := splitPort (withoutCredentials (rest.takeWhile (!endsAuthority ·)))
  return ((← Host.normal? host) ++ (← port? (some implied) port),
    hostedRest (rest.dropWhile (!endsAuthority ·)))

/-- A host may be left out, and the host of this machine is. -/
def file? (rest : List Char) : Option (List Char × List Char) :=
  if (rest.take 2).length = 2 ∧ (rest.take 2).all isSlash then do
    let host := (rest.drop 2).takeWhile (!endsAuthority ·)
    let after := (rest.drop 2).dropWhile (!endsAuthority ·)
    let name ← if host.isEmpty then some [] else Host.normal? host
    return (if name == "localhost".toList then [] else name, hostedRest after)
  else if rest.head?.any isSlash then some ([], hostedRest rest)
  else some ([], hostedRest ('/' :: rest))

/-- An address of a scheme about which nothing is known. -/
def other? (rest : List Char) : Option (Option (List Char) × List Char) :=
  let body := rest.takeWhile (!isTailStart ·)
  let after := tail unsafeInQuery (rest.dropWhile (!isTailStart ·))
  if ['/', '/'].isPrefixOf body then do
    let (host, port) := splitPort ((body.drop 2).takeWhile (· != '/'))
    if host.any Host.forbidden && host.head? != some '[' then none
    else
      let way := (body.drop 2).dropWhile (· != '/')
      return (some (percentEncode isControl host ++ (← port? none port)),
        (if way.isEmpty then [] else path way) ++ after)
  else if ['/'].isPrefixOf body then some (none, path body ++ after)
  else some (none, percentEncode isControl body ++ after)

def read? (text : String) : Option Url := do
  let (scheme, rest) ← splitScheme? (cleaned text.toList)
  let name := String.ofList scheme
  let (authority, rest) ←
    match hosted.lookup name with
    | some implied => (hosted? implied rest).map fun (a, r) => (some a, r)
    | none =>
      if name == "file" then (file? rest).map fun (a, r) => (some a, r) else other? rest
  return ⟨name, authority.map .ofList, .ofList rest⟩

/-- An address in normal form. -/
def text (url : Url) : String :=
  url.scheme ++ ":" ++ ((url.authority.map ("//" ++ ·)).getD "") ++ url.rest

/-- Whether the address is one that a request can be sent to. -/
def isWeb (url : Url) : Bool := url.scheme == "http" || url.scheme == "https"

end Url

end SqlConverter.Web
