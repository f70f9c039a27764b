import SqlConverter.Chat.Client
import SqlConverter.Proofs.Chat.Decoding
import SqlConverter.Proofs.Text.Trimming
import SqlConverter.Proofs.Text.Utf8
import SqlConverter.Web.Plain

namespace SqlConverter

namespace Web

variable {σ α β : Type}

theorem Fetch.runM_bind (act : Request → StateM σ Exchange) (d : Fetch α) (f : α → Fetch β)
    (memory : σ) :
    (d >>= f).runM act memory = (f (d.runM act memory).1).runM act (d.runM act memory).2 := by
  induction d generalizing memory with
  | done a => rfl
  | ask request next ih => exact ih (act request memory).1 (act request memory).2

theorem Fetch.every_runM {p : α → Prop} {d : Fetch α} (h : d.Every p)
    (act : Request → StateM σ Exchange) (memory : σ) : p (d.runM act memory).1 := by
  induction d generalizing memory with
  | done a => exact h
  | ask request next ih => exact ih (act request memory).1 (h _) (act request memory).2

namespace Library

variable {lib : Library} {request : Request} {address : String} {exchange : Exchange}
  {act : Request → StateM σ Exchange} {memory memory' : σ}

/-- What a library hands over in the end: an answer with its head read, or a fault. -/
def came (lib : Library) (request : Request) (act : Request → StateM σ Exchange) (memory : σ) :
    Except Fault Answer :=
  ((lib.send request).runM act memory).1

theorem came_of_unusable {fault : Fault} (h : lib.address request.address = .error fault) :
    lib.came request act memory = .error fault := by
  rw [came, send, h]
  rfl

theorem came_of_exchange (usable : lib.address request.address = .ok address)
    (met : act (request.sentTo address) memory = (exchange, memory')) :
    lib.came request act memory =
      ((lib.outcome (request.sentTo address) exchange).runM act memory').1 := by
  have run : lib.came request act memory =
      ((lib.outcome (request.sentTo address) (act (request.sentTo address) memory).1).runM act
        (act (request.sentTo address) memory).2).1 := by
    rw [came, send, usable]
    rfl
  rw [run, met]

theorem came_of_final (documented : lib.Documented) {a : Answer}
    (usable : lib.address request.address = .ok address)
    (met : act (request.sentTo address) memory = (.answered a, memory'))
    (final : a.redirects = false) : lib.came request act memory = .ok a := by
  rw [came_of_exchange usable met, outcome, documented.final final]
  rfl

/-- No body is read before an answer is handed over. -/
theorem isDecode_of_came (documented : lib.Documented) {fault : Fault}
    (h : lib.came request act memory = .error fault) :
    fault.isTimeout = true ∨ fault.isDecode = false := by
  cases reached : lib.address request.address with
  | error refused =>
    rw [came_of_unusable reached] at h
    cases h
    exact .inr (documented.unusable reached).2
  | ok address =>
    cases met : act (request.sentTo address) memory with
    | mk exchange memory' =>
      rw [came_of_exchange reached met] at h
      cases exchange with
      | failed =>
        cases h
        exact .inr (documented.unanswered address).2
      | timedOut =>
        cases h
        exact .inl (documented.expired address)
      | answered a => exact .inr (Fetch.every_runM (documented.followed _ a) act memory' fault h)

end Library

end Web

namespace Chat

open Json (Document Sole Value)
open Text (Bytes)
open Web (Answer Body Exchange Fault Library)

/-- Of a text in UTF-8 no piece is malformed. -/
theorem charsOf_bytesOf (s : String) : Json.charsOf (Text.bytesOf s) = s.toList := by
  rw [Json.charsOf, Text.bytesOf_eq_flatMap, Text.Utf8.pieces_flatMap, List.flatMap_map]
  exact List.flatMap_singleton' s.toList

/-- The bytes are JSON of a reply whose message has a content. -/
def Replies (body : Bytes) (content : String) : Prop :=
  ∃ v m, Document (Json.charsOf body) v ∧ Message.Replied v m ∧ m.content = content

variable {lib : Library}

theorem replyIn_eq_ok_iff {body : Bytes} {c : String} :
    replyIn lib body = .ok c ↔ Replies body c := by
  have read := @replyContent?_eq_some_iff (.ofList (Json.charsOf body)) c
  rw [String.toList_ofList] at read
  rw [Replies, ← read, replyIn]
  cases replyContent? (.ofList (Json.charsOf body)) <;> simp

theorem replyIn_eq_error {body : Bytes} (h : ∀ c, ¬Replies body c) :
    replyIn lib body = .error lib.malformed := by
  cases read : replyIn lib body with
  | ok c => exact absurd (replyIn_eq_ok_iff.mp read) (h c)
  | error fault =>
    rw [replyIn] at read
    split at read <;> cases read
    rfl

theorem not_replies_nil (c : String) : ¬Replies [] c := by
  have read := @replyIn_eq_ok_iff Web.plain [] c
  rw [← read]
  have none : replyContent? (.ofList (Json.charsOf [])) = none := by decide +kernel
  rw [replyIn, none]
  simp

/-- A message under the key for it is the reply, among whatever other members. -/
theorem replies_encoded {m : Message} {extra members : List (String × Value)} {text : String}
    (others : ∀ e ∈ extra, e.1 ≠ "message")
    (order : members.Perm (("message", m.toValue) :: extra))
    (spelled : Document text.toList (.record members)) :
    Replies (Text.bytesOf text) m.content := by
  have alone : Sole "message" m.toValue [("message", m.toValue)] := rfl
  have sole : Sole "message" m.toValue members :=
    (Json.sole_perm order).mpr ((Json.sole_append others).mpr alone)
  refine ⟨_, m, ?_, .object sole m.denoted_toValue, rfl⟩
  rwa [charsOf_bytesOf]

namespace Client

variable {client : Client} {a : Answer}

/-- A success is any of the hundred statuses from 200 on. -/
def Succeeds (a : Answer) : Prop := 200 ≤ a.status ∧ a.status < 300

instance (a : Answer) : Decidable (Succeeds a) := inferInstanceAs (Decidable (_ ∧ _))

theorem isSuccess_iff : a.isSuccess = true ↔ Succeeds a := by
  simp [Answer.isSuccess, Succeeds]

theorem reply_success (h : Succeeds a) :
    client.reply lib (.ok a) =
      (lib.received a.body >>= replyIn lib).mapError client.serviceError := by
  rw [reply, if_pos (isSuccess_iff.mpr h)]

theorem reply_other (h : ¬Succeeds a) :
    client.reply lib (.ok a) = .error (.status a.status (lib.shown a)) := by
  rw [reply, if_neg (isSuccess_iff.not.mpr h)]

theorem serviceError_timeout {fault : Fault} (h : fault.isTimeout = true) :
    client.serviceError fault = .timeout client.timeoutSecs := by
  rw [serviceError, if_pos h]

theorem serviceError_decode {fault : Fault} (h : fault.isTimeout = false ∧ fault.isDecode = true) :
    client.serviceError fault = .decode fault.text := by
  rw [serviceError, h.1, h.2]
  rfl

theorem serviceError_transport {fault : Fault}
    (h : fault.isTimeout = false ∧ fault.isDecode = false) :
    client.serviceError fault = .transport fault.text := by
  rw [serviceError, h.1, h.2]
  rfl

theorem serviceError_ne_status (fault : Fault) (code : Nat) (body : String) :
    client.serviceError fault ≠ .status code body := by
  unfold serviceError
  split
  · simp
  · split <;> simp

theorem received_eq_ok_iff {body : Body} {bytes : Bytes} :
    lib.received body = .ok bytes ↔ body = .whole bytes := by
  cases body <;> simp [Library.received]

theorem reply_eq_ok_iff {came : Except Fault Answer} {c : String} :
    client.reply lib came = .ok c ↔
      ∃ a bytes, came = .ok a ∧ Succeeds a ∧ a.body = .whole bytes ∧ Replies bytes c := by
  cases came with
  | error fault => simp [reply]
  | ok a =>
    by_cases h : Succeeds a
    · rw [reply_success h, mapError_eq_ok_iff, bind_eq_ok_iff]
      simp [h, received_eq_ok_iff, replyIn_eq_ok_iff]
    · rw [reply_other h]
      simp [h]

theorem reply_eq_status_iff {came : Except Fault Answer} {code : Nat} {shown : String} :
    client.reply lib came = .error (.status code shown) ↔
      ∃ a, came = .ok a ∧ ¬Succeeds a ∧ code = a.status ∧ shown = lib.shown a := by
  cases came with
  | error fault => simpa [reply] using serviceError_ne_status fault code shown
  | ok a =>
    by_cases h : Succeeds a
    · have never : client.reply lib (.ok a) ≠ .error (.status code shown) := by
        rw [reply_success h]
        cases lib.received a.body >>= replyIn lib with
        | ok c => simp [Except.mapError]
        | error fault => simpa [Except.mapError] using serviceError_ne_status fault code shown
      simp [never, h]
    · rw [reply_other h]
      simp [h, eq_comm]

theorem reply_cut (documented : lib.Documented) (h : Succeeds a) (cut : a.body = .cut) :
    client.reply lib (.ok a) = .error (.decode lib.cut.text) := by
  rw [reply_success h, cut]
  exact congrArg Except.error (serviceError_decode documented.cut)

theorem reply_late (documented : lib.Documented) (h : Succeeds a) (late : a.body = .late) :
    client.reply lib (.ok a) = .error (.timeout client.timeoutSecs) := by
  rw [reply_success h, late]
  exact congrArg Except.error (serviceError_timeout documented.late)

theorem reply_undecodable (documented : lib.Documented) (h : Succeeds a) {bytes : Bytes}
    (whole : a.body = .whole bytes) (bad : ∀ c, ¬Replies bytes c) :
    client.reply lib (.ok a) = .error (.decode lib.malformed.text) := by
  have unread : (lib.received (.whole bytes) >>= replyIn lib) = .error lib.malformed :=
    replyIn_eq_error bad
  rw [reply_success h, whole, unread]
  exact congrArg Except.error (serviceError_decode documented.malformed)

theorem shown_of_not_whole (h : a.body = .cut ∨ a.body = .late) : lib.shown a = "" := by
  rcases h with cut | late
  · rw [Library.shown, cut]
    rfl
  · rw [Library.shown, late]
    rfl

/-- What a reply tells of what a library handed over for it. It has a content exactly if the status
is a success, the whole body came and it spells a reply with that content; so it has with a message
written under its key among any other members. It tells a status exactly if that is no success, with
the text of a body only if that came whole; of a success whose body is empty, cut off or no reply it
tells that this cannot be decoded. A fault ahead of that is one of transport, or of time. -/
structure Tells (client : Client) (lib : Library) (came : Except Fault Answer) (reply : Reply) :
    Prop where
  content : ∀ c, reply = .ok c ↔
    ∃ a bytes, came = .ok a ∧ Succeeds a ∧ a.body = .whole bytes ∧ Replies bytes c
  encoded : ∀ (a : Answer) (m : Message) (extra members : List (String × Value)) (text : String),
    came = .ok a → Succeeds a → a.body = .whole (Text.bytesOf text) →
    (∀ e ∈ extra, e.1 ≠ "message") → members.Perm (("message", m.toValue) :: extra) →
    Document text.toList (.record members) → reply = .ok m.content
  status : ∀ code shown, reply = .error (.status code shown) ↔
    ∃ a, came = .ok a ∧ ¬Succeeds a ∧ code = a.status ∧ shown = lib.shown a
  shown : ∀ a bytes, a.body = .whole bytes → lib.shown a = lib.bodyText a.headers bytes
  hidden : ∀ a : Answer, a.body = .cut ∨ a.body = .late → lib.shown a = ""
  cut : ∀ a, came = .ok a → Succeeds a → a.body = .cut → reply = .error (.decode lib.cut.text)
  unread : ∀ a bytes, came = .ok a → Succeeds a → a.body = .whole bytes →
    bytes = [] ∨ (∀ c, ¬Replies bytes c) → reply = .error (.decode lib.malformed.text)
  late : ∀ a, came = .ok a → Succeeds a → a.body = .late →
    reply = .error (.timeout client.timeoutSecs)
  fault : ∀ fault, came = .error fault →
    reply = .error (if fault.isTimeout then .timeout client.timeoutSecs else .transport fault.text)

theorem reply_fault {fault : Fault} (h : fault.isTimeout = true ∨ fault.isDecode = false) :
    client.reply lib (.error fault) =
      .error (if fault.isTimeout then .timeout client.timeoutSecs else .transport fault.text) := by
  cases timeout : fault.isTimeout with
  | true => exact congrArg Except.error (serviceError_timeout timeout)
  | false =>
    have undecoded : fault.isDecode = false := by simpa [timeout] using h
    exact congrArg Except.error (serviceError_transport ⟨timeout, undecoded⟩)

theorem tells_reply (documented : lib.Documented) {came : Except Fault Answer}
    (handed : ∀ fault, came = .error fault → fault.isTimeout = true ∨ fault.isDecode = false) :
    Tells client lib came (client.reply lib came) where
  content := fun c => reply_eq_ok_iff
  encoded := fun a m extra members text sent success whole others order spelled =>
    reply_eq_ok_iff.mpr ⟨a, _, sent, success, whole, replies_encoded others order spelled⟩
  status := fun code shown => reply_eq_status_iff
  shown := fun a bytes whole => by rw [Library.shown, whole]; rfl
  hidden := fun a => shown_of_not_whole
  cut := fun a sent success cut => by rw [sent, reply_cut documented success cut]
  unread := by
    intro a bytes sent success whole bad
    rw [sent]
    refine reply_undecodable documented success whole ?_
    rcases bad with rfl | bad
    · exact not_replies_nil
    · exact bad
  late := fun a sent success late => by rw [sent, reply_late documented success late]
  fault := fun fault sent => by rw [sent, reply_fault (handed fault sent)]

variable {σ : Type}

theorem runM_complete (client : Client) (lib : Library) (messages : List Message)
    (act : Web.Request → StateM σ Exchange) (memory : σ) :
    ((client.complete lib messages).runM act memory).1 =
      client.reply lib (lib.came (client.post messages) act memory) := by
  rw [complete, Web.Fetch.runM_bind]
  rfl

/-- The client whose endpoint ends in more slashes. -/
def withSlashes (client : Client) (n : Nat) : Client :=
  { client with endpoint := client.endpoint ++ .ofList (List.replicate n '/') }

theorem address_withSlashes (client : Client) (n : Nat) :
    (client.withSlashes n).address = client.address := by
  have slashes : (List.replicate n '/').all (· == '/') = true := by simp
  rw [address, withSlashes, String.toList_append, String.toList_ofList,
    Text.dropEndWhile_append_of_all slashes, address]

theorem post_withSlashes (client : Client) (n : Nat) (messages : List Message) :
    (client.withSlashes n).post messages = client.post messages := by
  rw [post, address_withSlashes]
  rfl

theorem complete_withSlashes (client : Client) (n : Nat) (lib : Library)
    (messages : List Message) :
    (client.withSlashes n).complete lib messages = client.complete lib messages := by
  rw [complete, post_withSlashes]
  rfl

/-- What the client makes of what a server does. An answer is what the library hands over, the first
one unless that points elsewhere, and the reply tells of it as it should; where no answer began, or
nothing could be sent, that is a failure of transport, or of time if that was up. The request and
all that follows from it are the same however many slashes end the endpoint. -/
theorem complete_by_answer (documented : lib.Documented) (client : Client)
    (messages : List Message) (act : Web.Request → StateM σ Exchange) (memory : σ) :
    let came := lib.came (client.post messages) act memory
    let reply := ((client.complete lib messages).runM act memory).1
    Tells client lib came reply ∧
    (∀ fault, lib.address client.address = .error fault →
      reply = .error (.transport fault.text)) ∧
    (∀ address memory', lib.address client.address = .ok address →
      (act ((client.post messages).sentTo address) memory = (.failed, memory') →
        reply = .error (.transport (lib.unanswered address).text)) ∧
      (act ((client.post messages).sentTo address) memory = (.timedOut, memory') →
        reply = .error (.timeout client.timeoutSecs)) ∧
      ∀ a, act ((client.post messages).sentTo address) memory = (.answered a, memory') →
        a.redirects = false → came = .ok a) ∧
    ∀ n, (client.withSlashes n).post messages = client.post messages ∧
      (client.withSlashes n).complete lib messages = client.complete lib messages := by
  intro came reply
  have replied : reply = client.reply lib came := runM_complete client lib messages act memory
  rw [replied]
  refine ⟨tells_reply documented fun fault => Library.isDecode_of_came documented, ?_, ?_, ?_⟩
  · intro fault unusable
    have stopped : lib.address (client.post messages).address = .error fault := unusable
    have refused : came = .error fault := Library.came_of_unusable stopped
    rw [refused]
    exact congrArg Except.error (serviceError_transport (documented.unusable unusable))
  · intro address memory' usable
    have reached : lib.address (client.post messages).address = .ok address := usable
    refine ⟨fun failed => ?_, fun timedOut => ?_, fun a answered final => ?_⟩
    · have silent : came = .error (lib.unanswered address) :=
        Library.came_of_exchange reached failed
      rw [silent]
      exact congrArg Except.error (serviceError_transport (documented.unanswered address))
    · have silent : came = .error (lib.expired address) :=
        Library.came_of_exchange reached timedOut
      rw [silent]
      exact congrArg Except.error (serviceError_timeout (documented.expired address))
    · exact Library.came_of_final documented reached answered final
  · intro n
    exact ⟨client.post_withSlashes n messages, client.complete_withSlashes n lib messages⟩

/-- A server that does the same to every request. -/
def always (exchange : Exchange) : Web.Request → StateM Unit Exchange := fun _ => pure exchange

def here : Client := ⟨"http://localhost:11434/", "codellama", 30⟩

/-- An answer in the western charset. -/
def missing : Answer :=
  ⟨404, [("content-type", "text/plain; charset=iso-8859-1")], .whole [0x6e, 0xe9]⟩

theorem complete_by_answer_samples :
    Web.plain.Documented ∧
    ((here.complete Web.plain []).runM (always (.answered ⟨200, [], .whole (Text.bytesOf
        "\x7b\"message\":\x7b\"role\":\"user\",\"content\":\" SELECT 1\"\x7d,\"done\":0\x7d")⟩))
      ()).1 = .ok " SELECT 1" ∧
    ((here.complete Web.plain []).runM (always (.answered missing)) ()).1 =
      .error (.status 404 "né") ∧
    ((here.complete Web.plain []).runM (always (.answered ⟨500, [], .cut⟩)) ()).1 =
      .error (.status 500 "") ∧
    ((here.complete Web.plain []).runM (always (.answered ⟨200, [], .whole []⟩)) ()).1 =
      .error (.decode "error decoding response body") ∧
    ((here.complete Web.plain []).runM (always .failed) ()).1 = .error (.transport
      "error sending request for url (http://localhost:11434/api/chat)") ∧
    ((here.complete Web.plain []).runM (always .timedOut) ()).1 = .error (.timeout 30) ∧
    ((Client.complete ⟨"localhost", "codellama", 30⟩ Web.plain []).runM (always .failed) ()).1 =
      .error (.transport "builder error") := by
  have url : Web.Url.read? here.address =
      some ⟨"http", some "localhost:11434", "/api/chat"⟩ := by decide +kernel
  have usable : Web.Plain.address here.address = .ok "http://localhost:11434/api/chat" := by
    rw [Web.Plain.address, url]
    rfl
  have unusable : Web.plain.address (Client.address ⟨"localhost", "codellama", 30⟩) =
      .error { text := "builder error" } := by decide +kernel
  have written : (Value.record [("message", (Message.mk .user " SELECT 1").toValue),
      ("done", .number)]).compact =
        "\x7b\"message\":\x7b\"role\":\"user\",\"content\":\" SELECT 1\"\x7d,\"done\":0\x7d" := by
    decide +kernel
  have spelled := Json.read?_eq_some_iff.mp (Json.read?_compact (.record
    [("message", (Message.mk .user " SELECT 1").toValue), ("done", .number)]))
  rw [written] at spelled
  have came (a : Answer) (final : a.redirects = false) :
      Web.plain.came (here.post []) (always (.answered a)) () = .ok a :=
    ((complete_by_answer Web.plain_documented here [] (always (.answered a)) ()).2.2.1
      _ () usable).2.2 a rfl final
  have tells (a : Answer) :=
    (complete_by_answer Web.plain_documented here [] (always (.answered a)) ()).1
  refine ⟨Web.plain_documented, ?_, ?_, ?_, ?_, ?_, ?_, ?_⟩
  · exact (tells _).encoded _ ⟨.user, " SELECT 1"⟩ [("done", .number)] _ _ (came _ rfl)
      ⟨by decide, by decide⟩ rfl (by simp) (List.Perm.refl _) spelled
  · refine ((tells missing).status _ _).mpr ⟨missing, came missing rfl, by decide, rfl, ?_⟩
    rw [(tells missing).shown missing [0x6e, 0xe9] rfl]
    decide +kernel
  · exact ((tells ⟨500, [], .cut⟩).status _ _).mpr
      ⟨_, came _ rfl, by decide, rfl, ((tells ⟨500, [], .cut⟩).hidden _ (.inl rfl)).symm⟩
  · exact (tells _).unread _ _ (came _ rfl) ⟨by decide, by decide⟩ rfl (.inl rfl)
  · exact ((complete_by_answer Web.plain_documented here [] (always .failed) ()).2.2.1
      _ () usable).1 rfl
  · exact ((complete_by_answer Web.plain_documented here [] (always .timedOut) ()).2.2.1
      _ () usable).2.1 rfl
  · exact (complete_by_answer Web.plain_documented ⟨"localhost", "codellama", 30⟩ []
      (always .failed) ()).2.1 _ unusable

end Client

end Chat

end SqlConverter
