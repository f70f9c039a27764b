import SqlConverter.Text.Numeral
import SqlConverter.Web.Exchange
import SqlConverter.Web.Url

namespace SqlConverter.Web.Http

open Text (Bytes)

def lineEnd : String := "\r\n"

/-- What is asked for: the path and the query, without the fragment. -/
def target (url : Url) : String :=
  let way := url.rest.toList.takeWhile (· != '#')
  if way.isEmpty then "/" else .ofList way

def headers (url : Url) (body : String) : List (String × String) :=
  [("content-type", "application/json"), ("accept", "*/*"), ("host", url.authority.getD ""),
   ("content-length", toString body.utf8ByteSize), ("connection", "close")]

def request (url : Url) (asked : Request) : String :=
  asked.method ++ " " ++ target url ++ " HTTP/1.1" ++ lineEnd ++
    String.join ((headers url asked.body).map fun (name, value) =>
      name ++ ": " ++ value ++ lineEnd) ++
    lineEnd ++ asked.body

/-- The bytes before the first end of a line, and those after it. -/
def splitLine? : Bytes → Option (Bytes × Bytes)
  | 13 :: 10 :: rest => some ([], rest)
  | b :: rest => (splitLine? rest).map fun (line, rest) => (b :: line, rest)
  | [] => none

def lineText (line : Bytes) : List Char := line.map fun b => .ofNat b.toNat

/-- The lines of a head up to the empty one, and the body behind it. -/
def headLines? (fuel : Nat) (bytes : Bytes) : Option (List (List Char) × Bytes) :=
  match fuel with
  | 0 => none
  | fuel + 1 => do
    let (line, rest) ← splitLine? bytes
    if line.isEmpty then some ([], rest)
    else (headLines? fuel rest).map fun (lines, body) => (lineText line :: lines, body)

def statusOf? (line : List Char) : Option Nat :=
  Text.numeral? 10 (((line.dropWhile (· != ' ')).drop 1).takeWhile (· != ' '))

def headerOf (line : List Char) : String × String :=
  (.ofList (Text.lower (line.takeWhile (· != ':'))),
    .ofList (Text.trim ((line.dropWhile (· != ':')).drop 1)))

/-- A body in chunks, each with its length before it, if the last one was met. -/
def chunks? (fuel : Nat) (bytes : Bytes) : Option Bytes :=
  match fuel with
  | 0 => none
  | fuel + 1 => do
    let (line, rest) ← splitLine? bytes
    match ← Text.numeral? 16 ((lineText line).takeWhile Char.isAlphanum) with
    | 0 => return []
    | n =>
      if rest.length < n then none
      else return rest.take n ++ (← chunks? fuel (rest.drop (n + 2)))

/-- The body behind a head. Answers of two statuses have none, whatever follows. -/
def body (status : Nat) (headers : List (String × String)) (bytes : Bytes) : Body :=
  if status == 204 || status == 304 then .whole []
  else if (headers.lookup "transfer-encoding").map String.toLower = some "chunked" then
    ((chunks? (bytes.length + 1) bytes).map Body.whole).getD .cut
  else
    match (headers.lookup "content-length").bind fun n => Text.numeral? 10 n.toList with
    | some n => if n ≤ bytes.length then .whole (bytes.take n) else .cut
    | none => .whole bytes

/-- What a closed connection brought; `none` if it is no answer. -/
def answer? (bytes : Bytes) : Option Answer := do
  let (lines, rest) ← headLines? (bytes.length + 1) bytes
  let status ← statusOf? (← lines.head?)
  let headers := (lines.drop 1).map headerOf
  return ⟨status, headers, body status headers rest⟩

end SqlConverter.Web.Http
