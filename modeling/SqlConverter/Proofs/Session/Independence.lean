import SqlConverter.Session
import SqlConverter.Proofs.Conversion.Ending
import SqlConverter.Proofs.Conversion.Run

namespace SqlConverter

open Dialogue (Run)

variable {α : Type} {t : Transpiler} {c : Config}

namespace Operation

/-- The operations that never ask the assistant. -/
def isSilent : Operation → Bool
  | classify _ _ | transpile _ _ | sourceDialects | config => true
  | convert _ _ | report _ _ | convertToTarget _ => false

theorem silent_request {op : Operation} (h : op.isSilent = true) (c : Config)
    (readable : List String) : (op.request c readable).run.Silent := by
  cases op with
  | classify sql dialect => exact Request.silent_map _ (Converter.classify_silent sql dialect)
  | transpile sql dialect => exact Request.silent_map _ (Converter.transpile_silent sql dialect)
  | sourceDialects => trivial
  | config => trivial
  | convert | report | convertToTarget => cases h

/-- All other operations show some part of a conversion. -/
theorem exists_request_eq_map {op : Operation} (h : op.isSilent = false) (c : Config)
    (readable : List String) :
    ∃ (sql dialect : String) (f : Report → Result),
      op.request c readable = f <$> Converter.report c sql dialect := by
  cases op with
  | convert sql dialect =>
    refine ⟨sql, dialect, Result.text ∘ Report.output, ?_⟩
    rw [request, Converter.convert_eq_map, Functor.map_map]
    rfl
  | report sql dialect => exact ⟨sql, dialect, Result.report, rfl⟩
  | convertToTarget sql =>
    refine ⟨sql, c.sourceDialect, Result.text ∘ Report.output, ?_⟩
    rw [request, Converter.convertToTarget, Converter.convert_eq_map, Functor.map_map]
    rfl
  | classify | transpile | sourceDialects | config => cases h

theorem unread_run (c : Config) (t : Transpiler) (script : Script) (op : Operation) :
    (op.run c t script).unread =
      script.drop ((op.run c t script).calls.countP Call.isComplete) :=
  Dialogue.unread_eq_drop t _ script

theorem countP_calls_of_isSilent {op : Operation} (h : op.isSilent = true) (c : Config)
    (t : Transpiler) (script : Script) :
    (op.run c t script).calls.countP Call.isComplete = 0 :=
  (silent_request h c t.readable).countP_calls script

theorem countP_calls_le (c : Config) (t : Transpiler) (script : Script)
    (op : Operation) : (op.run c t script).calls.countP Call.isComplete ≤ 2 := by
  cases silent : op.isSilent with
  | true =>
    rw [countP_calls_of_isSilent silent]
    exact Nat.zero_le 2
  | false =>
    obtain ⟨sql, dialect, f, request⟩ := exists_request_eq_map silent c t.readable
    rw [run, request, Request.run_map]
    dsimp only
    rw [Converter.countP_calls_report]
    exact Converter.repliesAsked_le _ _

/-- An operation whose error is not the service's has not asked the assistant. -/
theorem countP_calls_of_error {op : Operation} {script : Script} {e : ConvertError}
    (failed : (op.run c t script).value = .error e) (h : e.isServiceFailure = false) :
    (op.run c t script).calls.countP Call.isComplete = 0 := by
  cases silent : op.isSilent with
  | true => exact countP_calls_of_isSilent silent c t script
  | false =>
    obtain ⟨sql, dialect, f, request⟩ := exists_request_eq_map silent c t.readable
    rw [run, request, Request.run_map] at failed ⊢
    dsimp only at failed ⊢
    rw [Converter.countP_calls_report]
    cases outcome : ((Converter.report c sql dialect).run.run t script).value with
    | ok r =>
      rw [outcome] at failed
      cases failed
    | error e' =>
      rw [outcome] at failed
      cases failed
      exact Converter.repliesAsked_of_not_isServiceFailure c.reassembly h

end Operation

namespace Session

/-- How often the assistant was asked in some runs. -/
def asked (runs : List (Run α)) : Nat := (runs.flatMap Run.calls).countP Call.isComplete

theorem asked_cons (r : Run α) (runs : List (Run α)) :
    asked (r :: runs) = r.calls.countP Call.isComplete + asked runs := by
  simp [asked]

theorem length_run (script : Script) (ops : List Operation) :
    (run c t script ops).length = ops.length := by
  induction ops generalizing script with
  | nil => rfl
  | cons op rest ih => simp [run, ih]

theorem getElem?_run (script : Script) {ops : List Operation} {k : Nat}
    {op : Operation} (h : ops[k]? = some op) :
    (run c t script ops)[k]? =
      some (op.run c t (script.drop (asked ((run c t script ops).take k)))) := by
  induction ops generalizing script k with
  | nil => simp at h
  | cons first rest ih =>
    cases k with
    | zero =>
      cases h
      rfl
    | succ k =>
      -- The rest is a session of its own, on what the first operation left unread.
      have later := ih (first.run c t script).unread h
      rw [run, List.getElem?_cons_succ, List.take_succ_cons, asked_cons, later,
        ← Script.drop_drop, ← first.unread_run]

theorem run_eraseIdx (script : Script) {ops : List Operation} {k : Nat}
    {op : Operation} (h : ops[k]? = some op) (silent : op.isSilent = true) :
    run c t script (ops.eraseIdx k) = (run c t script ops).eraseIdx k := by
  induction ops generalizing script k with
  | nil => simp at h
  | cons first rest ih =>
    cases k with
    | zero =>
      cases h
      have kept : (op.run c t script).unread = script :=
        (Operation.silent_request silent c t.readable).unread_run script
      rw [List.eraseIdx_cons_zero, run, List.eraseIdx_cons_zero, kept]
    | succ k =>
      have later := ih (first.run c t script).unread h
      rw [List.eraseIdx_cons_succ, run, run, List.eraseIdx_cons_succ, later]

theorem eraseIdx_run_insertIdx (script : Script) {ops : List Operation} {k : Nat}
    {op : Operation} (bound : k ≤ ops.length) (silent : op.isSilent = true) :
    (run c t script (ops.insertIdx k op)).eraseIdx k = run c t script ops := by
  have there : (ops.insertIdx k op)[k]? = some op := by
    simp [List.getElem?_insertIdx_self, bound]
  rw [← run_eraseIdx script there silent, List.eraseIdx_insertIdx_self]

/-- A whole session as one conversation. -/
def conversation (c : Config) (readable : List String) (ops : List Operation) :
    Dialogue (List (Except ConvertError Operation.Result)) :=
  ops.mapM fun op => (op.request c readable).run

theorem run_conversation (script : Script) (ops : List Operation) :
    (conversation c t.readable ops).run t script =
      ⟨(run c t script ops).map Run.value, (run c t script ops).flatMap Run.calls,
        script.drop (asked (run c t script ops))⟩ := by
  induction ops generalizing script with
  | nil => rfl
  | cons op rest ih =>
    have first : (op.request c t.readable).run.run t script = op.run c t script := rfl
    have later := ih (op.run c t script).unread
    have read : script.drop (asked (run c t script (op :: rest))) =
        (op.run c t script).unread.drop (asked (run c t (op.run c t script).unread rest)) := by
      rw [run, asked_cons, ← Script.drop_drop, ← op.unread_run]
    rw [read, conversation, List.mapM_cons]
    simp only [Dialogue.run_bind, Dialogue.run_pure, first]
    rw [← conversation, later]
    simp [run]

/-- A session is its operations, each by itself. An operation answers and calls as it would alone,
on the script without the replies that were asked for before it; together they answer and call as
one conversation on the whole script. Operations that never ask the assistant can be put in or taken
out anywhere; an operation asks twice at most, and not at all before an error that is not the
service's; and the configuration is always the one that the session started with. -/
theorem operations_run_as_alone (c : Config) (t : Transpiler) (script : Script)
    (ops : List Operation) :
    (run c t script ops).length = ops.length ∧
    (∀ (k : Nat) (op : Operation), ops[k]? = some op →
      (run c t script ops)[k]? =
        some (op.run c t (script.drop (asked ((run c t script ops).take k))))) ∧
    (conversation c t.readable ops).run t script =
      ⟨(run c t script ops).map Run.value, (run c t script ops).flatMap Run.calls,
        script.drop (asked (run c t script ops))⟩ ∧
    (∀ (k : Nat) (op : Operation), ops[k]? = some op → op.isSilent = true →
      run c t script (ops.eraseIdx k) = (run c t script ops).eraseIdx k) ∧
    (∀ (k : Nat) (op : Operation), k ≤ ops.length → op.isSilent = true →
      (run c t script (ops.insertIdx k op)).eraseIdx k = run c t script ops) ∧
    (∀ (op : Operation) (script' : Script),
      (op.run c t script').unread =
          script'.drop ((op.run c t script').calls.countP Call.isComplete) ∧
        (op.run c t script').calls.countP Call.isComplete ≤ 2 ∧
        (op.isSilent = true → (op.run c t script').calls.countP Call.isComplete = 0) ∧
        ∀ e, (op.run c t script').value = .error e → e.isServiceFailure = false →
          (op.run c t script').calls.countP Call.isComplete = 0 ∧
            (op.run c t script').unread = script') ∧
    (∀ sql dialect script',
      ((Converter.report c sql dialect).run.run t script').calls.countP Call.isComplete =
        Converter.repliesAsked c.reassembly
          ((Converter.report c sql dialect).run.run t script').value) ∧
    ∀ k : Nat, ops[k]? = some .config →
      ∃ rest, (run c t script ops)[k]? = some ⟨.ok (.config c), [], rest⟩ := by
  refine ⟨length_run script ops, ?_, run_conversation script ops, ?_, ?_, ?_, ?_, ?_⟩
  · intro k op h
    exact getElem?_run script h
  · intro k op h silent
    exact run_eraseIdx script h silent
  · intro k op bound silent
    exact eraseIdx_run_insertIdx script bound silent
  · intro op script'
    refine ⟨op.unread_run c t script', op.countP_calls_le c t script', ?_, ?_⟩
    · intro silent
      exact Operation.countP_calls_of_isSilent silent c t script'
    · intro e failed notService
      have none_asked := Operation.countP_calls_of_error failed notService
      refine ⟨none_asked, ?_⟩
      rw [op.unread_run, none_asked, Script.drop_zero]
  · intro sql dialect script'
    exact Converter.countP_calls_report c sql dialect t script'
  · intro k h
    exact ⟨_, getElem?_run script h⟩

/-- A procedure is asked about twice, between a classification and the configuration; the query
behind them gets the third reply. -/
def mixed : List Operation :=
  [.classify "create proc p" "tsql", .report "create proc p" "tsql", .config,
    .convert "SELECT 1" "mssql"]

def mixedReplies : Script := .of [.ok "bad;", .ok " done ", .error (.timeout 60)]

theorem operations_run_as_alone_mixed :
    (run Config.default .byHeader mixedReplies mixed)[3]? =
      some ((Operation.convert "SELECT 1" "mssql").run Config.default .byHeader
        (.of [.error (.timeout 60)])) ∧
    run Config.default .byHeader mixedReplies (mixed.eraseIdx 0) =
      (run Config.default .byHeader mixedReplies mixed).eraseIdx 0 ∧
    (run Config.default .byHeader mixedReplies
        (mixed.insertIdx 4 (.transpile "SELECT 2" "pg"))).eraseIdx 4 =
      run Config.default .byHeader mixedReplies mixed ∧
    ((Operation.report " " "tsql").run Config.default .byHeader mixedReplies).unread =
      mixedReplies ∧
    ∃ rest, (run Config.default .byHeader mixedReplies mixed)[2]? =
      some ⟨.ok (.config Config.default), [], rest⟩ := by
  obtain ⟨-, alone, -, erase, insert, operation, -, configured⟩ :=
    operations_run_as_alone Config.default .byHeader mixedReplies mixed
  have blank : ((Operation.report " " "tsql").run Config.default .byHeader mixedReplies).value =
      .error (.invalidInput "input is empty") := rfl
  refine ⟨alone 3 _ rfl, erase 0 _ rfl rfl, insert 4 _ (by decide) rfl, ?_, configured 2 rfl⟩
  obtain ⟨-, -, -, failing⟩ := operation (.report " " "tsql") mixedReplies
  exact (failing _ blank rfl).2

end Session

end SqlConverter
