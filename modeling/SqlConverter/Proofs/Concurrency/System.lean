import SqlConverter.Proofs.Conversion.Run
import SqlConverter.Proofs.Dialogue.Script

namespace SqlConverter.Concurrency

open Dialogue (Run answer)

variable {α : Type} {t : Transpiler}

/-- Where one conversation stands. -/
inductive Phase (α : Type)
  | ready (rest : Dialogue α)
  | waiting (ticket : Nat) (next : Chat.Reply → Dialogue α)
  | finished (value : α)

/-- A call to the assistant, with the reply once there is one. -/
structure Letter where
  messages : List Chat.Message
  reply : Option Chat.Reply

inductive Event
  | consulted (request : Nat) (call : Call)
  | sent (request ticket : Nat) (messages : List Chat.Message)
  | answered (ticket : Nat) (reply : Chat.Reply)
  | received (request ticket : Nat) (reply : Chat.Reply)
  | finished (request : Nat)

/-- The requests by their numbers, and the letters by their tickets. -/
structure System (α : Type) where
  phases : List (Phase α)
  letters : List Letter

def start (conversations : List (Dialogue α)) : System α := ⟨conversations.map .ready, []⟩

/-- What one request does. Only the ticket of its letter and the reply come from outside. -/
inductive Move (t : Transpiler) (request : Nat) : Phase α → Event → Phase α → Prop
  | consult {call : Call} {next : call.Answer → Dialogue α} (alone : call.isComplete = false) :
      Move t request (.ready (.ask call next)) (.consulted request call)
        (.ready (next (answer t (.of []) call).1))
  | send {messages : List Chat.Message} {next : Chat.Reply → Dialogue α} (ticket : Nat) :
      Move t request (.ready (.ask (.complete messages) next)) (.sent request ticket messages)
        (.waiting ticket next)
  | receive {ticket : Nat} {next : Chat.Reply → Dialogue α} (reply : Chat.Reply) :
      Move t request (.waiting ticket next) (.received request ticket reply)
        (.ready (next reply))
  | finish {value : α} :
      Move t request (.ready (.done value)) (.finished request) (.finished value)

/-- What becomes of the letters. A new letter has the next ticket, each letter is replied to once,
and a reply is received under the ticket of its letter. -/
inductive Booked (letters : List Letter) : Event → List Letter → Prop
  | consulted (request : Nat) (call : Call) : Booked letters (.consulted request call) letters
  | sent (request : Nat) (messages : List Chat.Message) :
      Booked letters (.sent request letters.length messages) (letters ++ [⟨messages, none⟩])
  | answered (ticket : Nat) {messages : List Chat.Message} (reply : Chat.Reply)
      (pending : letters[ticket]? = some ⟨messages, none⟩) :
      Booked letters (.answered ticket reply) (letters.set ticket ⟨messages, some reply⟩)
  | received {ticket : Nat} {messages : List Chat.Message} {reply : Chat.Reply} (request : Nat)
      (replied : letters[ticket]? = some ⟨messages, some reply⟩) :
      Booked letters (.received request ticket reply) letters
  | finished (request : Nat) : Booked letters (.finished request) letters

/-- Any one request moves, or the assistant answers any one letter. -/
inductive Step (t : Transpiler) (s : System α) : Event → System α → Prop
  | request {i : Nat} {p p' : Phase α} {event : Event} {letters : List Letter}
      (here : s.phases[i]? = some p) (move : Move t i p event p')
      (booked : Booked s.letters event letters) : Step t s event ⟨s.phases.set i p', letters⟩
  | assistant {ticket : Nat} {reply : Chat.Reply} {letters : List Letter}
      (booked : Booked s.letters (.answered ticket reply) letters) :
      Step t s (.answered ticket reply) ⟨s.phases, letters⟩

/-- What can have happened, in order, between two states of a system. -/
inductive Reaches (t : Transpiler) (s : System α) : List Event → System α → Prop
  | refl : Reaches t s [] s
  | step {trace : List Event} {event : Event} {s₁ s₂ : System α} (h : Reaches t s trace s₁)
      (h' : Step t s₁ event s₂) : Reaches t s (trace ++ [event]) s₂

def Event.request? : Event → Option Nat
  | .consulted request _ => some request
  | .sent request _ _ => some request
  | .answered _ _ => none
  | .received request _ _ => some request
  | .finished request => some request

def Event.call? : Event → Option Call
  | .consulted _ call => some call
  | .sent _ _ messages => some (.complete messages)
  | _ => none

def Event.reply? : Event → Option Chat.Reply
  | .received _ _ reply => some reply
  | _ => none

def Event.ticket? : Event → Option Nat
  | .sent _ ticket _ => some ticket
  | _ => none

def Event.answerTo? (ticket : Nat) : Event → Option Chat.Reply
  | .answered ticket' reply => if ticket' = ticket then some reply else none
  | _ => none

def own (request : Nat) (trace : List Event) : List Event :=
  trace.filter fun event => event.request? = some request

def callsBy (request : Nat) (trace : List Event) : List Call :=
  (own request trace).filterMap Event.call?

def receivedBy (request : Nat) (trace : List Event) : List Chat.Reply :=
  (own request trace).filterMap Event.reply?

def ticketsOf (request : Nat) (trace : List Event) : List Nat :=
  (own request trace).filterMap Event.ticket?

/-- The assistant's reply to a letter. -/
def answerTo? (trace : List Event) (ticket : Nat) : Option Chat.Reply :=
  trace.findSome? (Event.answerTo? ticket)

/-- The assistant's replies to the letters that a request sent, in the order it sent them. -/
def answersTo (request : Nat) (trace : List Event) : List Chat.Reply :=
  (ticketsOf request trace).filterMap (answerTo? trace)

/-- The run of what is left of a conversation. One that waits has made its call already. -/
def Phase.run (t : Transpiler) : Phase α → Script → Run α
  | .ready rest, script => rest.run t script
  | .waiting _ next, script => (next script.next).run t script.tail
  | .finished value, script => ⟨value, [], script⟩

theorem Move.request_eq {i : Nat} {p p' : Phase α} {event : Event} (h : Move t i p event p') :
    event.request? = some i := by
  cases h <;> rfl

/-- A move makes the call, and sees the reply, that come next in a run. -/
theorem Move.run_eq {i : Nat} {p p' : Phase α} {event : Event} (h : Move t i p event p')
    (later : Script) :
    p.run t (later.behind event.reply?.toList) = (p'.run t later).after event.call?.toList := by
  cases h with
  | @consult call next alone =>
    cases call with
    | parse text dialect => rfl
    | transpile text read write => rfl
    | complete messages => cases alone
  | send ticket => rfl
  | receive reply => rfl
  | finish => rfl

theorem own_append_of_ne {i : Nat} {event : Event} (h : event.request? ≠ some i)
    (trace : List Event) : own i (trace ++ [event]) = own i trace := by
  simp [own, List.filter_append, h]

theorem filterMap_own_append {β : Type} (f : Event → Option β) {i : Nat} {event : Event}
    (h : event.request? = some i) (trace : List Event) :
    (own i (trace ++ [event])).filterMap f = (own i trace).filterMap f ++ (f event).toList := by
  have grows : own i (trace ++ [event]) = own i trace ++ [event] := by
    simp [own, List.filter_append, h]
  rw [grows, List.filterMap_append]
  cases read : f event <;> simp [read]

/-- A request is where it was, unless the step is a move of its own. -/
theorem Step.other_or_own {s s' : System α} {event : Event} (h : Step t s event s') (i : Nat) :
    (event.request? ≠ some i ∧ s'.phases[i]? = s.phases[i]?) ∨
      ∃ p p', s.phases[i]? = some p ∧ Move t i p event p' ∧ s'.phases[i]? = some p' := by
  cases h with
  | @request j p p' event letters here move booked =>
    by_cases same : j = i
    · subst same
      refine .inr ⟨p, p', here, move, ?_⟩
      obtain ⟨bound, -⟩ := List.getElem?_eq_some_iff.mp here
      exact List.getElem?_set_self bound
    · left
      constructor
      · intro mine
        rw [move.request_eq] at mine
        exact same (Option.some.inj mine)
      · exact List.getElem?_set_ne same
  | assistant booked => exact .inl ⟨by simp [Event.request?], rfl⟩

theorem Step.booked {s s' : System α} {event : Event} (h : Step t s event s') :
    Booked s.letters event s'.letters := by
  cases h with
  | request here move booked => exact booked
  | assistant booked => exact booked

/-- Whatever the others do, a request goes on as it would alone on the replies it has received. -/
theorem Reaches.run_eq {s s' : System α} {trace : List Event} (h : Reaches t s trace s') {i : Nat}
    {p : Phase α} (here : s.phases[i]? = some p) :
    ∃ p', s'.phases[i]? = some p' ∧ ∀ later,
      p.run t (later.behind (receivedBy i trace)) = (p'.run t later).after (callsBy i trace) := by
  induction h with
  | refl => exact ⟨p, here, fun later => rfl⟩
  | @step trace event s₁ s₂ h h' ih =>
    obtain ⟨p₁, there, run⟩ := ih
    rcases h'.other_or_own i with ⟨other, stays⟩ | ⟨q, p₂, there', move, moved⟩
    · refine ⟨p₁, stays.trans there, ?_⟩
      simpa only [receivedBy, callsBy, own_append_of_ne other] using run
    · cases there.symm.trans there'
      refine ⟨p₂, moved, ?_⟩
      intro later
      have mine := move.request_eq
      rw [receivedBy, callsBy, filterMap_own_append _ mine, filterMap_own_append _ mine,
        Script.behind_append]
      calc p.run t ((later.behind event.reply?.toList).behind (receivedBy i trace))
          = (p₁.run t (later.behind event.reply?.toList)).after (callsBy i trace) := run _
        _ = ((p₂.run t later).after event.call?.toList).after (callsBy i trace) := by
          rw [move.run_eq]
        _ = (p₂.run t later).after (callsBy i trace ++ event.call?.toList) :=
          Run.after_after _ _ _

end SqlConverter.Concurrency
