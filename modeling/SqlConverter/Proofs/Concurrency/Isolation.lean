import SqlConverter.Proofs.Concurrency.Completion

namespace SqlConverter.Concurrency

variable {α : Type} {t : Transpiler} {conversations : List (Dialogue α)}
  {trace : List Event} {s : System α} {i : Nat}

theorem start_phases {d : Dialogue α} (asked : conversations[i]? = some d) :
    (start conversations).phases[i]? = some (.ready d) := by
  rw [start, List.getElem?_map, asked]
  rfl

/-- The calls of a request so far begin its run alone on the replies to its letters. -/
theorem Reaches.callsBy_prefix (h : Reaches t (start conversations) trace s) {d : Dialogue α}
    (asked : conversations[i]? = some d) (later : Script) :
    callsBy i trace <+: (d.run t (later.behind (answersTo i trace))).calls := by
  obtain ⟨p, here, run⟩ := h.run_eq (start_phases asked)
  obtain ⟨unread, answers⟩ := h.receivedBy_prefix here
  change ∀ later, d.run t _ = _ at run
  rw [← answers, Script.behind_append, run]
  exact List.prefix_append _ _

theorem Reaches.run_of_finished (h : Reaches t (start conversations) trace s) {d : Dialogue α}
    (asked : conversations[i]? = some d) {outcome : α}
    (finished : s.phases[i]? = some (.finished outcome)) (later : Script) :
    d.run t (later.behind (answersTo i trace)) = ⟨outcome, callsBy i trace, later⟩ := by
  obtain ⟨p, here, run⟩ := h.run_eq (start_phases asked)
  cases here.symm.trans finished
  change ∀ later, d.run t _ = _ at run
  rw [h.answersTo_eq here rfl, run]
  simp [Phase.run, Dialogue.Run.after]

/-- Conversions of any number of texts, all under one configuration. -/
def conversions (config : Config) (requests : List (String × String)) :
    List (Dialogue (Except ConvertError Report)) :=
  requests.map fun (sql, dialect) => (Converter.report config sql dialect).run

theorem conversions_getElem? (config : Config) {requests : List (String × String)}
    {sql dialect : String} (asked : requests[i]? = some (sql, dialect)) :
    (conversions config requests)[i]? = some (Converter.report config sql dialect).run := by
  rw [conversions, List.getElem?_map, asked]
  rfl

/-- In every state that conversions reach side by side: each has made the first calls of its run
alone on the replies to its own letters, and once it is finished, all of them, with the same
outcome; what it has received are those replies in the order of its letters, and never a reply to
a letter of another; and something can happen until all are finished, which takes no more than
finitely many steps. -/
theorem conversions_do_not_interfere (config : Config) (requests : List (String × String))
    {s : System (Except ConvertError Report)}
    (h : Reaches t (start (conversions config requests)) trace s) :
    (∀ i sql dialect, requests[i]? = some (sql, dialect) →
      (∀ later : Script, callsBy i trace <+:
        ((Converter.report config sql dialect).run.run t (later.behind (answersTo i trace))).calls) ∧
      (∀ outcome, s.phases[i]? = some (.finished outcome) → ∀ later : Script,
        (Converter.report config sql dialect).run.run t (later.behind (answersTo i trace)) =
          ⟨outcome, callsBy i trace, later⟩) ∧
      receivedBy i trace <+: answersTo i trace) ∧
    (∀ i ticket reply, .received i ticket reply ∈ trace →
      .answered ticket reply ∈ trace ∧ (∃ messages, .sent i ticket messages ∈ trace) ∧
        ∀ j messages, .sent j ticket messages ∈ trace → j = i) ∧
    ((∃ event s', Step t s event s') ∨
      ∀ i < requests.length, ∃ outcome, s.phases[i]? = some (.finished outcome)) ∧
    Acc (fun after before => ∃ event, Step t before event after) s := by
  refine ⟨?_, ?_, ?_, (step_wellFounded t).apply s⟩
  · intro i sql dialect asked
    have asked' := conversions_getElem? config asked
    obtain ⟨p, here, -⟩ := h.run_eq (start_phases asked')
    exact ⟨h.callsBy_prefix asked', fun outcome => h.run_of_finished asked',
      h.receivedBy_prefix here⟩
  · intro i ticket reply received
    obtain ⟨answered, messages, sent⟩ := h.answered_and_sent received
    refine ⟨answered, ⟨messages, sent⟩, ?_⟩
    intro j messages' sent'
    exact h.sender_unique sent' sent
  · rcases h.progress with goes | finished
    · exact .inl goes
    · right
      intro i bound
      have asked := conversions_getElem? config (List.getElem?_eq_getElem bound)
      obtain ⟨p, here, -⟩ := h.run_eq (start_phases asked)
      obtain ⟨outcome, rfl⟩ := finished i p here
      exact ⟨outcome, here⟩

/-- Takes every text for a query and leaves it as it is. -/
def echoing : Transpiler where
  parse := fun text dialect => .ok ⟨.other, text, dialect⟩
  transpile := fun text _ _ => .ok text

def lookedOver (sql : String) : List Chat.Message :=
  [⟨.system, Prompt.conversionSystem⟩, ⟨.user, Prompt.validation .generic sql⟩]

/-- Two queries of which the second asks first, and is told last that it is too late. -/
def crossing : List Event :=
  [.consulted 0 (.parse "SELECT 1" "tsql"), .consulted 1 (.parse "SELECT 2" "tsql"),
    .consulted 1 (.transpile "SELECT 2" "tsql" Dialect.target),
    .sent 1 0 (lookedOver "SELECT 2"),
    .consulted 0 (.transpile "SELECT 1" "tsql" Dialect.target),
    .sent 0 1 (lookedOver "SELECT 1"),
    .answered 1 (.ok " one "), .received 0 1 (.ok " one "), .answered 0 (.error (.timeout 60)),
    .finished 0, .received 1 0 (.error (.timeout 60)), .finished 1]

def queries : System (Except ConvertError Report) :=
  start (conversions Config.default [("SELECT 1", "tsql"), ("SELECT 2", "tsql")])

theorem reaches_crossing : ∃ s, Reaches echoing queries crossing s ∧
    s.phases = [.finished (.ok ⟨"tsql", .generic, [], "one"⟩),
      .finished (.error (.validation (.timeout 60)))] := by
  have h := Reaches.refl (t := echoing) (s := queries)
  have h := h.step (.request (i := 0) (p := .ready (.ask (.parse "SELECT 1" "tsql") _)) rfl
    (.consult rfl) (.consulted 0 _))
  have h := h.step (.request (i := 1) (p := .ready (.ask (.parse "SELECT 2" "tsql") _)) rfl
    (.consult rfl) (.consulted 1 _))
  have h := h.step (.request (i := 1)
    (p := .ready (.ask (.transpile "SELECT 2" "tsql" Dialect.target) _)) rfl
    (.consult rfl) (.consulted 1 _))
  have h := h.step (.request (i := 1)
    (p := .ready (.ask (.complete (lookedOver "SELECT 2")) _)) rfl (.send 0) (.sent 1 _))
  have h := h.step (.request (i := 0)
    (p := .ready (.ask (.transpile "SELECT 1" "tsql" Dialect.target) _)) rfl
    (.consult rfl) (.consulted 0 _))
  have h := h.step (.request (i := 0)
    (p := .ready (.ask (.complete (lookedOver "SELECT 1")) _)) rfl (.send 1) (.sent 0 _))
  have h := h.step (.assistant (.answered 1 (.ok " one ") rfl))
  have h := h.step (.request (i := 0) rfl (.receive _) (.received 0 rfl))
  have h := h.step (.assistant (.answered 0 (.error (.timeout 60)) rfl))
  have h := h.step (.request (i := 0) rfl .finish (.finished 0))
  have h := h.step (.request (i := 1) rfl (.receive _) (.received 1 rfl))
  have h := h.step (.request (i := 1) rfl .finish (.finished 1))
  exact ⟨_, h, rfl⟩

/-- Alone, each of two queries ends as it ended when their letters crossed, and the second letter
was the first query's. -/
theorem conversions_do_not_interfere_crossing :
    (∃ s, Reaches echoing queries crossing s) ∧
    (Converter.report Config.default "SELECT 1" "tsql").run.run echoing
        (.of [.ok " one "]) =
      ⟨.ok ⟨"tsql", .generic, [], "one"⟩, callsBy 0 crossing, .of []⟩ ∧
    (Converter.report Config.default "SELECT 2" "tsql").run.run echoing
        (.of [.error (.timeout 60)]) =
      ⟨.error (.validation (.timeout 60)), callsBy 1 crossing, .of []⟩ ∧
    ∀ j messages, .sent j 1 messages ∈ crossing → j = 0 := by
  obtain ⟨s, h, phases⟩ := reaches_crossing
  obtain ⟨alone, received, -⟩ := conversions_do_not_interfere _ _ h
  obtain ⟨-, first, -⟩ := alone 0 "SELECT 1" "tsql" rfl
  obtain ⟨-, second, -⟩ := alone 1 "SELECT 2" "tsql" rfl
  obtain ⟨-, -, sender⟩ := received 0 1 (.ok " one ") (by simp [crossing])
  exact ⟨⟨s, h⟩, first _ (by rw [phases]; rfl) (.of []),
    second _ (by rw [phases]; rfl) (.of []), sender⟩

end SqlConverter.Concurrency
