import SqlConverter.Unit
import SqlConverter.Chat.Message

namespace SqlConverter

inductive Call
  | parse (text dialect : String)
  | transpile (text read write : String)
  | complete (messages : List Chat.Message)
  deriving DecidableEq, Repr, Inhabited

abbrev Call.Answer : Call → Type
  | .parse _ _ => Except TranspileError SqlUnit
  | .transpile _ _ _ => Except TranspileError String
  | .complete _ => Chat.Reply

def Call.isComplete : Call → Bool
  | .complete _ => true
  | _ => false

inductive Dialogue (α : Type)
  | done (value : α)
  | ask (call : Call) (next : call.Answer → Dialogue α)

/-- Reads and writes named dialects, without effects. -/
structure Transpiler where
  parse : String → String → Except TranspileError SqlUnit
  transpile : String → String → String → Except TranspileError String
  readable : List String := Dialect.sources

/-- Replies in the order in which they are given, and the one given when they are used up. -/
structure Script where
  replies : List Chat.Reply
  spare : Chat.Reply
  deriving Repr

namespace Script

/-- Behind the last reply nothing is said. -/
def of (replies : List Chat.Reply) : Script := ⟨replies, .ok ""⟩

def next (script : Script) : Chat.Reply := script.replies.headD script.spare

def drop (script : Script) (n : Nat) : Script := { script with replies := script.replies.drop n }

def tail (script : Script) : Script := script.drop 1

end Script

namespace Dialogue

variable {α β : Type}

def bind : Dialogue α → (α → Dialogue β) → Dialogue β
  | done a, f => f a
  | ask call next, f => ask call fun answer => (next answer).bind f

instance : Monad Dialogue where
  pure := done
  bind := bind

theorem bind_done (d : Dialogue α) : d.bind done = d := by
  induction d with
  | done a => rfl
  | ask call next ih => exact congrArg (ask call) (funext ih)

theorem bind_bind {γ : Type} (d : Dialogue α) (f : α → Dialogue β) (g : β → Dialogue γ) :
    (d.bind f).bind g = d.bind fun a => (f a).bind g := by
  induction d with
  | done a => rfl
  | ask call next ih => exact congrArg (ask call) (funext ih)

instance : LawfulMonad Dialogue :=
  LawfulMonad.mk' Dialogue bind_done (fun _ _ => rfl) bind_bind

def parse (text dialect : String) : Dialogue (Except TranspileError SqlUnit) :=
  ask (.parse text dialect) done

def transpile (text read write : String) : Dialogue (Except TranspileError String) :=
  ask (.transpile text read write) done

def complete (messages : List Chat.Message) : Dialogue Chat.Reply :=
  ask (.complete messages) done

/-- A finished run: its value, the calls it made in order, and the replies it left unread. -/
structure Run (α : Type) where
  value : α
  calls : List Call
  unread : Script

def answer (t : Transpiler) (script : Script) : (call : Call) → call.Answer × Script
  | .parse text dialect => (t.parse text dialect, script)
  | .transpile text read write => (t.transpile text read write, script)
  | .complete _ => (script.next, script.tail)

def run (t : Transpiler) : Dialogue α → Script → Run α
  | done a, script => ⟨a, [], script⟩
  | ask call next, script =>
    let (reply, rest) := answer t script call
    let r := (next reply).run t rest
    { r with calls := call :: r.calls }

@[simp] theorem run_pure (t : Transpiler) (a : α) (script : Script) :
    (pure a : Dialogue α).run t script = ⟨a, [], script⟩ := rfl

/-- A conversation that goes on runs its second part on the replies left by the first. -/
theorem run_bind (t : Transpiler) (d : Dialogue α) (f : α → Dialogue β) (script : Script) :
    (d >>= f).run t script =
      let first := d.run t script
      let second := (f first.value).run t first.unread
      ⟨second.value, first.calls ++ second.calls, second.unread⟩ := by
  induction d generalizing script with
  | done a => rfl
  | ask call next ih =>
    simp only [run, Bind.bind, bind] at ih ⊢
    rw [ih]
    rfl

/-- Answers every call in turn by an action. -/
def runM {m : Type → Type} [Monad m] (act : (call : Call) → m call.Answer) : Dialogue α → m α
  | done a => pure a
  | ask call next => do (next (← act call)).runM act

end Dialogue

/-- A conversation that may end in an error; after one, nothing more is asked. -/
abbrev Request (α : Type) := ExceptT ConvertError Dialogue α

end SqlConverter
