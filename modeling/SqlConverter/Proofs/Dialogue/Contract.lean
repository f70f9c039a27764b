import SqlConverter.Proofs.Dialogue.Script

namespace SqlConverter

namespace Dialogue

variable {α β σ : Type} {trusted : Turn → Prop} {allowed : Call → Prop} {post : α → Prop}

/-- Behind trusted answers, each call is allowed and the value is as promised. -/
inductive Ensures (trusted : Turn → Prop) (allowed : Call → Prop) (post : α → Prop) :
    Dialogue α → Prop
  | done {a : α} (kept : post a) : Ensures trusted allowed post (.done a)
  | ask {call : Call} {next : call.Answer → Dialogue α} (first : allowed call)
      (rest : ∀ answer, trusted ⟨call, answer⟩ → Ensures trusted allowed post (next answer)) :
      Ensures trusted allowed post (.ask call next)

theorem Ensures.bind {d : Dialogue α} {f : α → Dialogue β} {post : β → Prop}
    (h : d.Ensures trusted allowed fun a => (f a).Ensures trusted allowed post) :
    (d >>= f).Ensures trusted allowed post := by
  induction h with
  | done kept => exact kept
  | ask first _ ih => exact .ask first ih

theorem Ensures.mono {weaker : α → Prop} {d : Dialogue α} (h : d.Ensures trusted allowed post)
    (imp : ∀ a, post a → weaker a) : d.Ensures trusted allowed weaker := by
  induction h with
  | done kept => exact .done (imp _ kept)
  | ask first _ ih => exact .ask first ih

theorem Transcript.ensured {d : Dialogue α} {turns : List Turn} {a : α}
    (h : Transcript d turns a) (contract : d.Ensures trusted allowed post)
    (trust : ∀ turn ∈ turns, trusted turn) :
    (∀ turn ∈ turns, allowed turn.1) ∧ post a := by
  induction h with
  | done a =>
    cases contract with
    | done kept => exact ⟨fun turn none => absurd none List.not_mem_nil, kept⟩
  | @ask call next answer turns a _ ih =>
    cases contract with
    | ask first rest =>
      have next_ensures := rest answer (trust _ List.mem_cons_self)
      obtain ⟨later, kept⟩ := ih next_ensures fun turn among =>
        trust turn (List.mem_cons_of_mem _ among)
      refine ⟨?_, kept⟩
      intro turn among
      rcases List.mem_cons.mp among with rfl | among
      · exact first
      · exact later turn among

/-- What can be said of every answer can be said of every turn. -/
theorem trusted_turns {act : (call : Call) → StateM σ call.Answer}
    (h : ∀ call memory, trusted ⟨call, (act call memory).1⟩) (d : Dialogue α) (memory : σ) :
    ∀ turn ∈ d.turns act memory, trusted turn := by
  induction d generalizing memory with
  | done a => exact fun turn none => absurd none List.not_mem_nil
  | ask call next ih =>
    intro turn among
    rcases List.mem_cons.mp among with rfl | among
    · exact h call memory
    · exact ih _ _ turn among

end Dialogue

/-- An error ends a request, so that only a value has to meet the second part's contract. -/
theorem Request.ensures_bind {α β : Type} {trusted : Dialogue.Turn → Prop}
    {allowed : Call → Prop} {post : Except ConvertError β → Prop} {x : Request α}
    {f : α → Request β}
    (h : x.run.Ensures trusted allowed fun
      | .ok a => (f a).run.Ensures trusted allowed post
      | .error e => post (.error e)) :
    (x >>= f).run.Ensures trusted allowed post := by
  rw [ExceptT.run_bind]
  refine Dialogue.Ensures.bind (h.mono fun result kept => ?_)
  cases result with
  | ok a => exact kept
  | error e => exact .done kept

end SqlConverter
