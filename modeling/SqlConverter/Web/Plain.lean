import SqlConverter.Web.Charset
import SqlConverter.Web.Library
import SqlConverter.Web.Url

namespace SqlConverter.Web

namespace Plain

/-- The address as it is asked for, if it is one of the web. -/
def address (text : String) : Except Fault String :=
  match Url.read? text with
  | none => .error { text := "builder error" }
  | some url =>
    if url.isWeb then .ok url.text
    else .error { text := "builder error for url (" ++ url.text ++ ")" }

def unansweredText (address : String) : String :=
  "error sending request for url (" ++ address ++ ")"

def unreadable : Fault := { text := "error decoding response body", isDecode := true }

end Plain

/-- The library at hand. It takes hosts in ASCII only, hands over every answer without following
any, and reads bodies in UTF-8 and in the western charset. -/
def plain : Library where
  address := Plain.address
  follow := fun _ a => .done (.ok a)
  unanswered := fun address => { text := Plain.unansweredText address }
  expired := fun address => { text := Plain.unansweredText address, isTimeout := true }
  cut := Plain.unreadable
  late := { Plain.unreadable with isTimeout := true }
  malformed := Plain.unreadable
  bodyText := fun headers bytes => bodyText ((headers.lookup "content-type").getD "") bytes

theorem Plain.unusable_address {text : String} {fault : Fault}
    (h : Plain.address text = .error fault) : fault.isTimeout = false ∧ fault.isDecode = false := by
  unfold Plain.address at h
  split at h
  · cases h
    exact ⟨rfl, rfl⟩
  · split at h
    · cases h
    · cases h
      exact ⟨rfl, rfl⟩

theorem plain_documented : plain.Documented where
  unusable := Plain.unusable_address
  unanswered := fun _ => ⟨rfl, rfl⟩
  expired := fun _ => rfl
  final := fun _ => rfl
  followed := fun _ _ _ failed => nomatch failed
  cut := ⟨rfl, rfl⟩
  late := rfl
  malformed := ⟨rfl, rfl⟩

end SqlConverter.Web
