import SqlConverter.Text.Utf8

namespace SqlConverter.Web

open Text (Bytes)

/-- What came of a body: all of it, or less because the connection ended or the time was up. -/
inductive Body
  | whole (bytes : Bytes)
  | cut
  | late
  deriving DecidableEq, Inhabited, Repr

/-- An answer, the names of its headers in small letters. -/
structure Answer where
  status : Nat
  headers : List (String × String)
  body : Body
  deriving DecidableEq, Inhabited, Repr

namespace Answer

def header? (a : Answer) (name : String) : Option String := a.headers.lookup name

def isSuccess (a : Answer) : Bool := 200 ≤ a.status && a.status < 300

/-- An answer that only says where else to ask. -/
def redirects (a : Answer) : Bool :=
  [301, 302, 303, 307, 308].contains a.status && (a.header? "location").isSome

end Answer

structure Request where
  method : String
  address : String
  body : String
  deriving DecidableEq, Inhabited, Repr

def Request.sentTo (request : Request) (address : String) : Request :=
  { request with address := address }

/-- What becomes of one request. -/
inductive Exchange
  | failed
  | timedOut
  | answered (answer : Answer)
  deriving DecidableEq, Inhabited, Repr

/-- Work that puts requests one after the other, going by what becomes of each. -/
inductive Fetch (α : Type)
  | done (value : α)
  | ask (request : Request) (next : Exchange → Fetch α)

namespace Fetch

variable {α β : Type}

def bind : Fetch α → (α → Fetch β) → Fetch β
  | done a, f => f a
  | ask request next, f => ask request fun exchange => (next exchange).bind f

instance : Monad Fetch where
  pure := done
  bind := bind

/-- Puts every request in turn by an action. -/
def runM {m : Type → Type} [Monad m] (act : Request → m Exchange) : Fetch α → m α
  | done a => pure a
  | ask request next => do (next (← act request)).runM act

/-- All that the work can come to has a property. -/
def Every (p : α → Prop) : Fetch α → Prop
  | done a => p a
  | ask _ next => ∀ exchange, (next exchange).Every p

end Fetch

end SqlConverter.Web
