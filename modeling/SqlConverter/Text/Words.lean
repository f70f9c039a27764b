import SqlConverter.Text.Blank

namespace SqlConverter.Text

/-- The pieces between line feeds; a text without one is a single line. -/
def lines : List Char → List (List Char)
  | [] => [[]]
  | c :: rest => if c = '\n' then [] :: lines rest else (lines rest).modifyHead (c :: ·)

theorem lines_ne_nil (cs : List Char) : lines cs ≠ [] := by
  cases cs with
  | nil => simp [lines]
  | cons c rest =>
    by_cases h : c = '\n'
    · simp [lines, h]
    · simpa [lines, h] using lines_ne_nil rest

theorem lines_append_newline (a b : List Char) :
    lines (a ++ '\n' :: b) = lines a ++ lines b := by
  induction a with
  | nil => simp [lines]
  | cons c a ih =>
    by_cases h : c = '\n'
    · simp [lines, h, ih]
    · cases hl : lines a with
      | nil => exact absurd hl (lines_ne_nil a)
      | cons x xs => simp [lines, h, ih, hl]

/-- Puts a character in front of the first line, which is a new one if there is none. -/
def consFirst (c : Char) : List (List Char) → List (List Char)
  | [] => [[c]]
  | row :: later => (c :: row) :: later

/-- The lines of a text without their ends, a line feed or a carriage return with a line feed. What
stands behind the last end is a line only if there is something. -/
def rows : List Char → List (List Char)
  | [] => []
  | '\n' :: rest => [] :: rows rest
  | '\r' :: '\n' :: rest => [] :: rows rest
  | c :: rest => consFirst c (rows rest)

/-- The maximal runs of characters that are not blank. -/
def words : List Char → List (List Char)
  | [] => []
  | c :: rest =>
    if isBlank c then words rest
    else match rest with
      | [] => [[c]]
      | d :: _ => if isBlank d then [c] :: words rest else (words rest).modifyHead (c :: ·)

def upper (cs : List Char) : List Char := cs.map Char.toUpper

def lower (cs : List Char) : List Char := cs.map Char.toLower

/-- Equality up to the case of ASCII letters. -/
def sameLetters (a b : List Char) : Bool := upper a == upper b

end SqlConverter.Text
