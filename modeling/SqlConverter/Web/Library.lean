import SqlConverter.Web.Exchange

namespace SqlConverter.Web

open Text (Bytes)

/-- A failure as it is reported. That the time was up may come with a body that cannot be read. -/
structure Fault where
  text : String
  isTimeout : Bool := false
  isDecode : Bool := false
  deriving DecidableEq, Repr

/-- A library for web requests. It brings addresses to the form in which they are asked for, follows
answers that point elsewhere, has a word for each failure, and reads the text of a body by the
headers that came with it. -/
structure Library where
  address : String → Except Fault String
  follow : Request → Answer → Fetch (Except Fault Answer)
  unanswered : String → Fault
  expired : String → Fault
  cut : Fault
  late : Fault
  malformed : Fault
  bodyText : List (String × String) → Bytes → String

namespace Library

/-- What is made of what becomes of a request. -/
def outcome (lib : Library) (request : Request) : Exchange → Fetch (Except Fault Answer)
  | .failed => .done (.error (lib.unanswered request.address))
  | .timedOut => .done (.error (lib.expired request.address))
  | .answered a => lib.follow request a

/-- Puts a request, if its address can be used, up to the head of the answer that is to be read. -/
def send (lib : Library) (request : Request) : Fetch (Except Fault Answer) :=
  match lib.address request.address with
  | .error fault => .done (.error fault)
  | .ok address => .ask (request.sentTo address) (lib.outcome (request.sentTo address))

/-- The bytes of a body, if all of them came. -/
def received (lib : Library) : Body → Except Fault Bytes
  | .whole bytes => .ok bytes
  | .cut => .error lib.cut
  | .late => .error lib.late

/-- The text of a body; a body that did not come whole reads as nothing. -/
def shown (lib : Library) (a : Answer) : String :=
  match lib.received a.body with
  | .ok bytes => lib.bodyText a.headers bytes
  | .error _ => ""

/-- What such a library is documented to do: it reports a timeout and an unreadable body as such and
nothing else as either, no body is read before an answer is handed over, and an answer that does not
point elsewhere is handed over as it came. -/
structure Documented (lib : Library) : Prop where
  unusable : ∀ {text : String} {fault : Fault}, lib.address text = .error fault →
    fault.isTimeout = false ∧ fault.isDecode = false
  unanswered : ∀ address, (lib.unanswered address).isTimeout = false ∧
    (lib.unanswered address).isDecode = false
  expired : ∀ address, (lib.expired address).isTimeout = true
  final : ∀ {request : Request} {a : Answer}, a.redirects = false →
    lib.follow request a = .done (.ok a)
  followed : ∀ request a, (lib.follow request a).Every fun came =>
    ∀ fault, came = .error fault → fault.isDecode = false
  cut : lib.cut.isTimeout = false ∧ lib.cut.isDecode = true
  late : lib.late.isTimeout = true
  malformed : lib.malformed.isTimeout = false ∧ lib.malformed.isDecode = true

end Library

end SqlConverter.Web
