import SqlConverter.Error

namespace SqlConverter.Chat

inductive Role
  | system
  | user
  | assistant
  deriving DecidableEq, Repr, Inhabited

def Role.name : Role → String
  | system => "system"
  | user => "user"
  | assistant => "assistant"

def Role.all : List Role := [.system, .user, .assistant]

def Role.ofName? (name : String) : Option Role := Role.all.find? (·.name == name)

theorem Role.ofName?_name (r : Role) : Role.ofName? r.name = some r := by
  cases r <;> decide

structure Message where
  role : Role
  content : String
  deriving DecidableEq, Repr, Inhabited

/-- What the assistant gives back: a text, or a failure of the service. -/
abbrev Reply := Except ServiceError String

end SqlConverter.Chat
