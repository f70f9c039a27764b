import SqlConverter.Json.Reader
import SqlConverter.Text.Utf8

namespace SqlConverter.Json

/-- What stands for a piece of bytes that spells no character: a character that may follow no
backslash, and a surrogate that is alone. A string with it holds no text, and nothing but a string
may hold it. -/
def malformed : List Char := ['?', '\\', 'u', 'd', 'c', '0', '0']

/-- The characters that bytes spell, with a stand-in for each malformed piece. -/
def charsOf (bytes : Text.Bytes) : List Char :=
  (Text.Utf8.pieces Text.Utf8.idle bytes).flatMap fun c => c.elim malformed ([·])

end SqlConverter.Json
