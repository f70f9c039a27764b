import SqlConverter.Proofs.Dialogue.Transcript

namespace SqlConverter

namespace Script

/-- The same script with other replies ahead of it. -/
def behind (script : Script) (replies : List Chat.Reply) : Script :=
  { script with replies := replies ++ script.replies }

theorem drop_zero (script : Script) : script.drop 0 = script := rfl

theorem drop_drop (script : Script) (m n : Nat) : (script.drop m).drop n = script.drop (m + n) := by
  rw [drop, drop, drop, List.drop_drop]

theorem behind_append (script : Script) (replies more : List Chat.Reply) :
    script.behind (replies ++ more) = (script.behind more).behind replies := by
  rw [behind, behind, behind, List.append_assoc]

end Script

namespace Dialogue

variable {α β : Type} {t : Transpiler}

theorem run_map (f : α → β) (d : Dialogue α) (script : Script) :
    (f <$> d).run t script =
      ⟨f (d.run t script).value, (d.run t script).calls, (d.run t script).unread⟩ := by
  rw [← bind_pure_comp, run_bind]
  simp

theorem answer_unread (t : Transpiler) (script : Script) (call : Call) :
    (answer t script call).2 = script.drop (if call.isComplete then 1 else 0) := by
  cases call with
  | parse text dialect => rfl
  | transpile text read write => rfl
  | complete messages => rfl

theorem unread_eq_drop (t : Transpiler) (d : Dialogue α) (script : Script) :
    (d.run t script).unread = script.drop ((d.run t script).calls.countP Call.isComplete) := by
  induction d generalizing script with
  | done a => rfl
  | ask call next ih =>
    have rest := ih (answer t script call).1 (answer t script call).2
    rw [run]
    dsimp only
    rw [rest, answer_unread, Script.drop_drop, List.countP_cons]
    rw [Nat.add_comm]

/-- Never asks the assistant. -/
def Silent : Dialogue α → Prop
  | done _ => True
  | ask call next => call.isComplete = false ∧ ∀ answer, (next answer).Silent

theorem silent_bind {d : Dialogue α} {f : α → Dialogue β} (hd : d.Silent)
    (hf : ∀ a, (f a).Silent) : (d >>= f).Silent := by
  induction d with
  | done a => exact hf a
  | ask call next ih => exact ⟨hd.1, fun answer => ih answer (hd.2 answer)⟩

theorem Silent.countP_calls {d : Dialogue α} (h : d.Silent) (script : Script) :
    (d.run t script).calls.countP Call.isComplete = 0 := by
  induction d generalizing script with
  | done a => rfl
  | ask call next ih =>
    have rest := ih (answer t script call).1 (h.2 _) (answer t script call).2
    rw [run]
    dsimp only
    rw [List.countP_cons, rest, h.1]
    rfl

theorem Silent.unread_run {d : Dialogue α} (h : d.Silent) (script : Script) :
    (d.run t script).unread = script := by
  rw [unread_eq_drop, h.countP_calls, Script.drop_zero]

/-- Each assistant's call has its reply among the turns. -/
theorem countP_calls_eq_length_replies (turns : List Turn) :
    (turns.map Sigma.fst).countP Call.isComplete = (replies turns).length := by
  induction turns with
  | nil => rfl
  | cons turn rest ih =>
    obtain ⟨call, answer⟩ := turn
    rw [List.map_cons, List.countP_cons, ih]
    cases call <;> rfl

end Dialogue

end SqlConverter
