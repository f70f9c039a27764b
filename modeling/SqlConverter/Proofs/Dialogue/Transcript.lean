import SqlConverter.Dialogue

namespace SqlConverter.Dialogue

variable {α β σ : Type}

theorem done_bind (a : α) (f : α → Dialogue β) : (done a >>= f) = f a := rfl

theorem ask_bind (call : Call) (next : call.Answer → Dialogue α) (f : α → Dialogue β) :
    (ask call next >>= f) = ask call fun answer => next answer >>= f := rfl

theorem ask_congr {call : Call} {next next' : call.Answer → Dialogue α}
    (h : ∀ answer, next answer = next' answer) : ask call next = ask call next' :=
  congrArg (ask call) (funext h)

/-- A call with the answer that it got. -/
abbrev Turn := (call : Call) × call.Answer

/-- The parser's answer, if it was the one that was asked. -/
def Turn.parseAnswer? : Turn → Option (Except TranspileError SqlUnit)
  | ⟨.parse _ _, answer⟩ => some answer
  | ⟨.transpile _ _ _, _⟩ => none
  | ⟨.complete _, _⟩ => none

def Turn.transpileAnswer? : Turn → Option (Except TranspileError String)
  | ⟨.parse _ _, _⟩ => none
  | ⟨.transpile _ _ _, answer⟩ => some answer
  | ⟨.complete _, _⟩ => none

def Turn.reply? : Turn → Option Chat.Reply
  | ⟨.parse _ _, _⟩ => none
  | ⟨.transpile _ _ _, _⟩ => none
  | ⟨.complete _, reply⟩ => some reply

def parseAnswers (turns : List Turn) : List (Except TranspileError SqlUnit) :=
  turns.filterMap Turn.parseAnswer?

def transpileAnswers (turns : List Turn) : List (Except TranspileError String) :=
  turns.filterMap Turn.transpileAnswer?

def replies (turns : List Turn) : List Chat.Reply := turns.filterMap Turn.reply?

theorem parseAnswers_append (first second : List Turn) :
    parseAnswers (first ++ second) = parseAnswers first ++ parseAnswers second :=
  List.filterMap_append

theorem replies_append (first second : List Turn) :
    replies (first ++ second) = replies first ++ replies second :=
  List.filterMap_append

/-- A conversation may go through these turns and end with this value. -/
inductive Transcript : Dialogue α → List Turn → α → Prop
  | done (a : α) : Transcript (.done a) [] a
  | ask {call : Call} {next : call.Answer → Dialogue α} {answer : call.Answer}
      {turns : List Turn} {a : α} (h : Transcript (next answer) turns a) :
      Transcript (.ask call next) (⟨call, answer⟩ :: turns) a

theorem transcript_done_iff {a b : α} {turns : List Turn} :
    Transcript (.done a) turns b ↔ turns = [] ∧ b = a := by
  constructor
  · intro h
    cases h
    exact ⟨rfl, rfl⟩
  · rintro ⟨rfl, rfl⟩
    exact .done b

theorem transcript_ask_iff {call : Call} {next : call.Answer → Dialogue α}
    {turns : List Turn} {a : α} :
    Transcript (.ask call next) turns a ↔
      ∃ answer rest, turns = ⟨call, answer⟩ :: rest ∧ Transcript (next answer) rest a := by
  constructor
  · intro h
    cases h with
    | ask h => exact ⟨_, _, rfl, h⟩
  · rintro ⟨answer, rest, rfl, h⟩
    exact .ask h

theorem transcript_bind_iff {d : Dialogue α} {f : α → Dialogue β} {turns : List Turn} {b : β} :
    Transcript (d >>= f) turns b ↔
      ∃ a first second, turns = first ++ second ∧
        Transcript d first a ∧ Transcript (f a) second b := by
  constructor
  · intro h
    induction d generalizing turns with
    | done a => exact ⟨a, [], turns, rfl, .done a, h⟩
    | ask call next ih =>
      obtain ⟨answer, rest, rfl, hr⟩ := transcript_ask_iff.mp h
      obtain ⟨a, first, second, rfl, hf, hs⟩ := ih answer hr
      exact ⟨a, ⟨call, answer⟩ :: first, second, rfl, .ask hf, hs⟩
  · rintro ⟨a, first, second, rfl, hf, hs⟩
    induction hf with
    | done a => exact hs
    | ask _ ih => exact .ask (ih hs)

/-- The next call, or that there is none, is settled by the turns before it. -/
theorem Transcript.calls_take_succ {d : Dialogue α} {turns turns' : List Turn} {a a' : α}
    (h : Transcript d turns a) (h' : Transcript d turns' a') (n : Nat)
    (same : turns.take n = turns'.take n) :
    (turns.map Sigma.fst).take (n + 1) = (turns'.map Sigma.fst).take (n + 1) := by
  induction h generalizing turns' n with
  | done a =>
    cases h'
    rfl
  | ask h ih =>
    cases h' with
    | ask h' =>
      cases n with
      | zero => rfl
      | succ n =>
        simp only [List.take_succ_cons, List.cons.injEq, Sigma.mk.injEq, heq_eq_eq,
          true_and] at same
        obtain ⟨rfl, same⟩ := same
        simpa only [List.map_cons, List.take_succ_cons] using congrArg (List.cons _) (ih h' n same)

/-- The turns of a conversation with someone whose answers may depend on what was asked before. -/
def turns (act : (call : Call) → StateM σ call.Answer) : Dialogue α → σ → List Turn
  | done _, _ => []
  | ask call next, memory =>
    let (reply, memory) := act call memory
    ⟨call, reply⟩ :: (next reply).turns act memory

theorem transcript_turns (act : (call : Call) → StateM σ call.Answer) (d : Dialogue α)
    (memory : σ) : Transcript d (d.turns act memory) (d.runM act memory).1 := by
  induction d generalizing memory with
  | done a => exact .done a
  | ask call next ih => exact .ask (ih _ _)

theorem runM_bind (act : (call : Call) → StateM σ call.Answer) (d : Dialogue α)
    (f : α → Dialogue β) (memory : σ) :
    (d >>= f).runM act memory =
      (f (d.runM act memory).1).runM act (d.runM act memory).2 := by
  induction d generalizing memory with
  | done a => rfl
  | ask call next ih => exact ih _ _

/-- Answers by a transpiler and from a script. -/
def scripted (t : Transpiler) (call : Call) : StateM Script call.Answer :=
  fun script => answer t script call

theorem run_eq_runM (t : Transpiler) (d : Dialogue α) (script : Script) :
    d.run t script =
      ⟨(d.runM (scripted t) script).1, (d.turns (scripted t) script).map Sigma.fst,
        (d.runM (scripted t) script).2⟩ := by
  induction d generalizing script with
  | done a => rfl
  | ask call next ih =>
    simp only [run, ih]
    rfl

end SqlConverter.Dialogue
