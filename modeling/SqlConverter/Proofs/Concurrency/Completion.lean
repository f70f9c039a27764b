import Mathlib.Data.List.Perm.Basic
import Mathlib.Logic.Hydra
import SqlConverter.Proofs.Concurrency.Letters

namespace SqlConverter.Concurrency

open Relation (CutExpand)

variable {α : Type} {t : Transpiler} {conversations : List (Dialogue α)}
  {trace : List Event} {event : Event} {s s' : System α} {letters letters' : List Letter}

/-- A ready request can move without waiting for anybody. -/
theorem exists_step_of_ready {i : Nat} {d : Dialogue α}
    (here : s.phases[i]? = some (.ready d)) : ∃ event s', Step t s event s' := by
  cases d with
  | done value => exact ⟨_, _, .request here .finish (.finished i)⟩
  | ask call next =>
    cases call with
    | parse text dialect => exact ⟨_, _, .request here (.consult rfl) (.consulted i _)⟩
    | transpile text read write => exact ⟨_, _, .request here (.consult rfl) (.consulted i _)⟩
    | complete messages => exact ⟨_, _, .request here (.send _) (.sent i messages)⟩

/-- A request that waits has its letter with the assistant, or the reply is there. -/
theorem Reaches.exists_step_of_waiting (h : Reaches t (start conversations) trace s)
    {i ticket : Nat} {next : Chat.Reply → Dialogue α}
    (here : s.phases[i]? = some (.waiting ticket next)) : ∃ event s', Step t s event s' := by
  obtain ⟨settled, tickets, -⟩ := h.exists_settled here
  have mine : ticket ∈ ticketsOf i trace := by simp [tickets, Phase.ticket?]
  obtain ⟨messages, sent⟩ := mem_ticketsOf_iff.mp mine
  have bound := h.ticket_lt_of_sent sent
  cases letter : s.letters[ticket] with
  | mk messages reply =>
    have found : s.letters[ticket]? = some ⟨messages, reply⟩ :=
      List.getElem?_eq_some_iff.mpr ⟨bound, letter⟩
    cases reply with
    | none => exact ⟨_, _, .assistant (.answered ticket (.ok "") found)⟩
    | some reply => exact ⟨_, _, .request here (.receive reply) (.received i found)⟩

theorem Reaches.progress (h : Reaches t (start conversations) trace s) :
    (∃ event s', Step t s event s') ∨
      ∀ (i : Nat) p, s.phases[i]? = some p → ∃ value, p = .finished value := by
  by_cases unfinished : ∃ (i : Nat) (p : Phase α), s.phases[i]? = some p ∧
      ∀ value, p ≠ .finished value
  · obtain ⟨i, p, here, going⟩ := unfinished
    left
    cases p with
    | ready d => exact exists_step_of_ready here
    | waiting ticket next => exact h.exists_step_of_waiting here
    | finished value => exact absurd rfl (going value)
  · right
    intro i p here
    by_contra going
    exact unfinished ⟨i, p, here, fun value same => going ⟨value, same⟩⟩

/-- What is still to be done: where a request stands, or a reply that is due. -/
inductive Task (α : Type)
  | phase (p : Phase α)
  | reply

/-- What one step leaves of a task. -/
inductive Below : Task α → Task α → Prop
  | answered {call : Call} {next : call.Answer → Dialogue α} (answer : call.Answer) :
      Below (.phase (.ready (next answer))) (.phase (.ready (.ask call next)))
  | sent {messages : List Chat.Message} {next : Chat.Reply → Dialogue α} (ticket : Nat) :
      Below (.phase (.waiting ticket next)) (.phase (.ready (.ask (.complete messages) next)))
  | due {call : Call} {next : call.Answer → Dialogue α} :
      Below .reply (.phase (.ready (.ask call next)))
  | received {ticket : Nat} {next : Chat.Reply → Dialogue α} (reply : Chat.Reply) :
      Below (.phase (.ready (next reply))) (.phase (.waiting ticket next))
  | finished {value : α} : Below (.phase (.finished value)) (.phase (.ready (.done value)))

theorem acc_reply : Acc Below (.reply : Task α) := by
  constructor
  intro task below
  cases below

theorem acc_finished (value : α) : Acc Below (.phase (.finished value)) := by
  constructor
  intro task below
  cases below

theorem acc_waiting {next : Chat.Reply → Dialogue α}
    (h : ∀ reply, Acc Below (.phase (.ready (next reply)))) (ticket : Nat) :
    Acc Below (.phase (.waiting ticket next)) := by
  constructor
  intro task below
  cases below with
  | received reply => exact h reply

theorem acc_ready (d : Dialogue α) : Acc Below (.phase (.ready d)) := by
  induction d with
  | done value =>
    constructor
    intro task below
    cases below
    exact acc_finished value
  | ask call next ih =>
    constructor
    intro task below
    cases below with
    | answered answer => exact ih answer
    | sent ticket => exact acc_waiting ih ticket
    | due => exact acc_reply

theorem below_wellFounded : WellFounded (Below : Task α → Task α → Prop) := by
  constructor
  intro task
  cases task with
  | reply => exact acc_reply
  | phase p =>
    cases p with
    | ready d => exact acc_ready d
    | waiting ticket next => exact acc_waiting (fun reply => acc_ready (next reply)) ticket
    | finished value => exact acc_finished value

def Letter.due? : Letter → Option (Task α)
  | ⟨_, none⟩ => some .reply
  | ⟨_, some _⟩ => none

/-- The replies that letters still wait for. -/
def due (letters : List Letter) : Multiset (Task α) :=
  Multiset.ofList (letters.filterMap Letter.due?)

def System.tasks (s : System α) : Multiset (Task α) :=
  Multiset.ofList (s.phases.map Task.phase) + due s.letters

theorem cons_set_perm {β : Type} {l : List β} {i : Nat} {a : β} (h : l[i]? = some a) (b : β) :
    (a :: l.set i b).Perm (b :: l) := by
  obtain ⟨bound, rfl⟩ := List.getElem?_eq_some_iff.mp h
  calc (l[i] :: l.set i b).Perm (l[i] :: b :: l.eraseIdx i) :=
        (List.set_perm_cons_eraseIdx bound b).cons _
    List.Perm _ (b :: l[i] :: l.eraseIdx i) := .swap _ _ _
    List.Perm _ (b :: l) := (List.getElem_cons_eraseIdx_perm bound).cons _

/-- A move leaves a smaller phase and, if it sends a letter, a reply that is due. -/
theorem cutExpand_of_move {i : Nat} {p p' : Phase α} {new : Multiset (Task α)}
    (here : s.phases[i]? = some p) (smaller : Below (.phase p') (.phase p))
    (below : ∀ task ∈ new, Below task (.phase p)) (grown : due letters' = due s.letters + new) :
    CutExpand Below (System.tasks ⟨s.phases.set i p', letters'⟩) s.tasks := by
  refine ⟨Task.phase p' ::ₘ new, .phase p, ?_, ?_⟩
  · intro task mem
    rcases Multiset.mem_cons.mp mem with rfl | mem
    · exact smaller
    · exact below task mem
  · have moved : Task.phase p ::ₘ Multiset.ofList ((s.phases.set i p').map Task.phase) =
        Task.phase p' ::ₘ Multiset.ofList (s.phases.map Task.phase) :=
      Multiset.coe_eq_coe.mpr ((cons_set_perm here p').map Task.phase)
    simp only [← Multiset.singleton_add] at moved ⊢
    rw [System.tasks, System.tasks, grown, add_right_comm, add_comm _ {Task.phase p}, moved]
    ac_rfl

/-- Replying to a letter leaves nothing. -/
theorem cutExpand_of_answered {ticket : Nat} {messages : List Chat.Message} {reply : Chat.Reply}
    (pending : s.letters[ticket]? = some ⟨messages, none⟩) :
    CutExpand Below (System.tasks ⟨s.phases, s.letters.set ticket ⟨messages, some reply⟩⟩)
      s.tasks := by
  refine ⟨0, .reply, by simp, ?_⟩
  have replied : Task.reply ::ₘ due (s.letters.set ticket ⟨messages, some reply⟩) =
      (due s.letters : Multiset (Task α)) :=
    Multiset.coe_eq_coe.mpr ((cons_set_perm pending ⟨messages, some reply⟩).filterMap Letter.due?)
  rw [System.tasks, System.tasks, ← replied, ← Multiset.singleton_add]
  ac_rfl

theorem Step.cutExpand (h : Step t s event s') : CutExpand Below s'.tasks s.tasks := by
  cases h with
  | request here move booked =>
    cases move with
    | consult alone =>
      cases booked
      exact cutExpand_of_move here (.answered _) (by simp) (add_zero _).symm
    | send ticket =>
      obtain ⟨-, rfl⟩ := booked.of_sent
      apply cutExpand_of_move here (.sent ticket)
      · intro task mem
        cases Multiset.mem_singleton.mp mem
        exact .due
      · rw [due, List.filterMap_append, ← Multiset.coe_add]
        rfl
    | receive reply =>
      cases booked
      exact cutExpand_of_move here (.received reply) (by simp) (add_zero _).symm
    | finish =>
      cases booked
      exact cutExpand_of_move here .finished (by simp) (add_zero _).symm
  | assistant booked =>
    cases booked with
    | answered ticket reply pending => exact cutExpand_of_answered pending

/-- No system goes on for ever, whoever moves and however the assistant replies. -/
theorem step_wellFounded (t : Transpiler) :
    WellFounded fun after before : System α => ∃ event, Step t before event after := by
  have descends := InvImage.wf System.tasks (below_wellFounded (α := α)).cutExpand
  apply Subrelation.wf _ descends
  rintro after before ⟨event, h⟩
  exact h.cutExpand

end SqlConverter.Concurrency
