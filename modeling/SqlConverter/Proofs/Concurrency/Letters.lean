import Mathlib.Data.List.Forall2
import SqlConverter.Proofs.Concurrency.System

namespace SqlConverter.Concurrency

variable {α : Type} {t : Transpiler} {conversations : List (Dialogue α)}
  {trace : List Event} {event : Event} {s : System α} {letters letters' : List Letter}

/-- The reply to the letter with a ticket. -/
def replyOn (letters : List Letter) (ticket : Nat) : Option Chat.Reply :=
  letters[ticket]?.bind Letter.reply

theorem replyOn_append (messages : List Chat.Message) (ticket : Nat) :
    replyOn (letters ++ [⟨messages, none⟩]) ticket = replyOn letters ticket := by
  unfold replyOn
  rw [List.getElem?_append]
  split
  · rfl
  · rename_i beyond
    rw [List.getElem?_eq_none (Nat.le_of_not_lt beyond)]
    cases ticket - letters.length <;> rfl

theorem Booked.replyOn_eq (h : Booked letters event letters') (ticket : Nat) :
    replyOn letters' ticket = (replyOn letters ticket).or (event.answerTo? ticket) := by
  cases h with
  | consulted request call => exact Option.or_none.symm
  | sent request messages => exact (replyOn_append messages ticket).trans Option.or_none.symm
  | answered ticket' reply pending =>
    by_cases same : ticket' = ticket
    · subst same
      obtain ⟨bound, -⟩ := List.getElem?_eq_some_iff.mp pending
      simp [replyOn, Event.answerTo?, pending, List.getElem?_set_self bound]
    · simp [replyOn, Event.answerTo?, same, List.getElem?_set_ne same]
  | received request replied => exact Option.or_none.symm
  | finished request => exact Option.or_none.symm

theorem Booked.of_sent {i ticket : Nat} {messages : List Chat.Message}
    (h : Booked letters (.sent i ticket messages) letters') :
    ticket = letters.length ∧ letters' = letters ++ [⟨messages, none⟩] := by
  cases h
  exact ⟨rfl, rfl⟩

theorem Booked.of_received {i ticket : Nat} {reply : Chat.Reply}
    (h : Booked letters (.received i ticket reply) letters') :
    replyOn letters ticket = some reply := by
  cases h with
  | received request replied => simp [replyOn, replied]

theorem Booked.length_le (h : Booked letters event letters') :
    letters.length ≤ letters'.length := by
  cases h <;> simp

theorem answerTo?_append (trace : List Event) (event : Event) (ticket : Nat) :
    answerTo? (trace ++ [event]) ticket = (answerTo? trace ticket).or (event.answerTo? ticket) := by
  simp [answerTo?, List.findSome?_append]

theorem answered_mem_of_answerTo? {ticket : Nat} {reply : Chat.Reply}
    (h : answerTo? trace ticket = some reply) : .answered ticket reply ∈ trace := by
  obtain ⟨event, mem, answers⟩ := List.exists_of_findSome?_eq_some h
  cases event with
  | answered ticket' reply' =>
    simp only [Event.answerTo?, Option.ite_none_right_eq_some, Option.some.injEq] at answers
    obtain ⟨rfl, rfl⟩ := answers
    exact mem
  | _ => cases answers

/-- The letters carry the replies that the assistant gave. -/
theorem Reaches.replyOn_eq (h : Reaches t (start conversations) trace s) (ticket : Nat) :
    replyOn s.letters ticket = answerTo? trace ticket := by
  induction h with
  | refl => rfl
  | step h h' ih => rw [h'.booked.replyOn_eq, ih, answerTo?_append]

theorem mem_ticketsOf_iff {i ticket : Nat} :
    ticket ∈ ticketsOf i trace ↔ ∃ messages, .sent i ticket messages ∈ trace := by
  simp only [ticketsOf, own, List.mem_filterMap, List.mem_filter, decide_eq_true_eq]
  constructor
  · rintro ⟨event, ⟨mem, mine⟩, sent⟩
    cases event with
    | sent request ticket' messages =>
      cases mine
      cases sent
      exact ⟨messages, mem⟩
    | _ => cases sent
  · rintro ⟨messages, mem⟩
    exact ⟨_, ⟨mem, rfl⟩, rfl⟩

theorem Reaches.ticket_lt_of_sent (h : Reaches t (start conversations) trace s) {i ticket : Nat}
    {messages : List Chat.Message} (sent : .sent i ticket messages ∈ trace) :
    ticket < s.letters.length := by
  induction h with
  | refl => cases sent
  | step h h' ih =>
    rcases List.mem_append.mp sent with before | now
    · exact Nat.lt_of_lt_of_le (ih before) h'.booked.length_le
    · cases List.mem_singleton.mp now
      obtain ⟨next, grown⟩ := h'.booked.of_sent
      rw [next, grown]
      simp

/-- A ticket belongs to the request that sent its letter. -/
theorem Reaches.sender_unique (h : Reaches t (start conversations) trace s) {i j ticket : Nat}
    {messages messages' : List Chat.Message} (sent : .sent i ticket messages ∈ trace)
    (sent' : .sent j ticket messages' ∈ trace) : i = j := by
  induction h with
  | refl => cases sent
  | @step trace event s₁ s₂ h h' ih =>
    -- A letter that has just been sent has a ticket that no earlier letter has.
    have fresh : ∀ {r ticket messages}, event = .sent r ticket messages →
        ticket = s₁.letters.length := by
      rintro r ticket messages rfl
      exact h'.booked.of_sent.1
    rcases List.mem_append.mp sent with before | now <;>
      rcases List.mem_append.mp sent' with before' | now'
    · exact ih before before'
    · have bound := h.ticket_lt_of_sent before
      rw [fresh (List.mem_singleton.mp now').symm] at bound
      exact absurd bound (Nat.lt_irrefl _)
    · have bound := h.ticket_lt_of_sent before'
      rw [fresh (List.mem_singleton.mp now).symm] at bound
      exact absurd bound (Nat.lt_irrefl _)
    · have same := (List.mem_singleton.mp now).trans (List.mem_singleton.mp now').symm
      cases same
      rfl

def Phase.ticket? : Phase α → Option Nat
  | .waiting ticket _ => some ticket
  | _ => none

theorem Move.sends_or_receives {i : Nat} {p p' : Phase α} (h : Move t i p event p') :
    (event.reply? = none ∧ p.ticket?.toList ++ event.ticket?.toList = p'.ticket?.toList) ∨
      ∃ ticket reply, event = .received i ticket reply ∧ p.ticket? = some ticket ∧
        p'.ticket? = none := by
  cases h with
  | consult alone => exact .inl ⟨rfl, rfl⟩
  | send ticket => exact .inl ⟨rfl, rfl⟩
  | receive reply => exact .inr ⟨_, reply, rfl, rfl, rfl⟩
  | finish => exact .inl ⟨rfl, rfl⟩

/-- Letter by letter, these are the replies to the letters with these tickets. -/
def Settled (trace : List Event) (tickets : List Nat) (replies : List Chat.Reply) : Prop :=
  List.Forall₂ (fun ticket reply => answerTo? trace ticket = some reply) tickets replies

theorem Settled.append {tickets : List Nat} {replies : List Chat.Reply}
    (h : Settled trace tickets replies) (event : Event) :
    Settled (trace ++ [event]) tickets replies := by
  apply List.Forall₂.imp _ h
  intro ticket reply answered
  rw [answerTo?_append, answered]
  rfl

theorem Settled.filterMap_eq {tickets : List Nat} {replies : List Chat.Reply}
    (h : Settled trace tickets replies) : tickets.filterMap (answerTo? trace) = replies := by
  induction h with
  | nil => rfl
  | cons answered _ ih => rw [List.filterMap_cons_some answered, ih]

/-- A request has received the replies to all of its letters but the one it waits for. -/
theorem Reaches.exists_settled (h : Reaches t (start conversations) trace s) {i : Nat}
    {p : Phase α} (here : s.phases[i]? = some p) :
    ∃ settled, ticketsOf i trace = settled ++ p.ticket?.toList ∧
      Settled trace settled (receivedBy i trace) := by
  induction h generalizing p with
  | refl =>
    obtain ⟨d, -, rfl⟩ := List.mem_map.mp (List.mem_of_getElem? here)
    exact ⟨[], rfl, .nil⟩
  | @step trace event s₁ s₂ h h' ih =>
    rcases h'.other_or_own i with ⟨other, stays⟩ | ⟨before, after, there, move, moved⟩
    · obtain ⟨settled, tickets, replies⟩ := ih (stays.symm.trans here)
      refine ⟨settled, ?_, ?_⟩
      · rw [ticketsOf, own_append_of_ne other]
        exact tickets
      · rw [receivedBy, own_append_of_ne other]
        exact replies.append event
    · cases moved.symm.trans here
      obtain ⟨settled, tickets, replies⟩ := ih there
      have mine := move.request_eq
      have tickets' : ticketsOf i (trace ++ [event]) =
          settled ++ (before.ticket?.toList ++ event.ticket?.toList) := by
        rw [ticketsOf, filterMap_own_append _ mine, ← List.append_assoc, ← tickets]
        rfl
      have received' : receivedBy i (trace ++ [event]) =
          receivedBy i trace ++ event.reply?.toList := filterMap_own_append _ mine trace
      rw [tickets', received']
      rcases move.sends_or_receives with ⟨unread, sent⟩ | ⟨ticket, reply, rfl, waited, idle⟩
      · refine ⟨settled, by rw [sent], ?_⟩
        rw [unread, Option.toList_none, List.append_nil]
        exact replies.append event
      · have answered : answerTo? trace ticket = some reply :=
          (h.replyOn_eq ticket).symm.trans h'.booked.of_received
        have replies' : Settled trace (settled ++ [ticket]) (receivedBy i trace ++ [reply]) :=
          List.rel_append replies (.cons answered .nil)
        exact ⟨settled ++ [ticket], by simp [waited, idle, Event.ticket?], replies'.append _⟩

/-- What a request has seen are replies to its own letters, in the order it sent them. -/
theorem Reaches.receivedBy_prefix (h : Reaches t (start conversations) trace s) {i : Nat}
    {p : Phase α} (here : s.phases[i]? = some p) :
    receivedBy i trace <+: answersTo i trace := by
  obtain ⟨settled, tickets, replies⟩ := h.exists_settled here
  rw [answersTo, tickets, List.filterMap_append, replies.filterMap_eq]
  exact List.prefix_append _ _

theorem Reaches.answersTo_eq (h : Reaches t (start conversations) trace s) {i : Nat}
    {p : Phase α} (here : s.phases[i]? = some p) (idle : p.ticket? = none) :
    answersTo i trace = receivedBy i trace := by
  obtain ⟨settled, tickets, replies⟩ := h.exists_settled here
  rw [answersTo, tickets, idle, Option.toList_none, List.append_nil, replies.filterMap_eq]

/-- A reply that a request receives was given to a letter of its own. -/
theorem Reaches.answered_and_sent (h : Reaches t (start conversations) trace s) {i ticket : Nat}
    {reply : Chat.Reply} (received : .received i ticket reply ∈ trace) :
    .answered ticket reply ∈ trace ∧ ∃ messages, .sent i ticket messages ∈ trace := by
  induction h with
  | refl => cases received
  | @step trace event s₁ s₂ h h' ih =>
    rcases List.mem_append.mp received with before | now
    · obtain ⟨answered, messages, sent⟩ := ih before
      exact ⟨List.mem_append_left _ answered, messages, List.mem_append_left _ sent⟩
    · cases List.mem_singleton.mp now
      have replied : answerTo? trace ticket = some reply :=
        (h.replyOn_eq ticket).symm.trans h'.booked.of_received
      rcases h'.other_or_own i with ⟨other, -⟩ | ⟨p, p', here, move, -⟩
      · exact absurd rfl other
      · cases move
        obtain ⟨settled, tickets, -⟩ := h.exists_settled here
        have mine : ticket ∈ ticketsOf i trace := by simp [tickets, Phase.ticket?]
        obtain ⟨messages, sent⟩ := mem_ticketsOf_iff.mp mine
        exact ⟨List.mem_append_left _ (answered_mem_of_answerTo? replied), messages,
          List.mem_append_left _ sent⟩

end SqlConverter.Concurrency
