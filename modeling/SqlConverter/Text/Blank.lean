namespace SqlConverter.Text

/-- The characters with the White_Space property, in code point order. -/
def blanks : List Char :=
  ['\t', '\n', '\x0b', '\x0c', '\r', ' ', '\u0085', '\u00a0', '\u1680',
   '\u2000', '\u2001', '\u2002', '\u2003', '\u2004', '\u2005', '\u2006', '\u2007', '\u2008',
   '\u2009', '\u200a', '\u2028', '\u2029', '\u202f', '\u205f', '\u3000']

def isBlank (c : Char) : Bool := blanks.contains c

def dropEndWhile (p : Char → Bool) (cs : List Char) : List Char :=
  (cs.reverse.dropWhile p).reverse

def trim (cs : List Char) : List Char := dropEndWhile isBlank (cs.dropWhile isBlank)

def allBlank (cs : List Char) : Bool := cs.all isBlank

theorem dropEndWhile_append_takeWhile (p : Char → Bool) (cs : List Char) :
    dropEndWhile p cs ++ (cs.reverse.takeWhile p).reverse = cs := by
  rw [dropEndWhile, ← List.reverse_append, List.takeWhile_append_dropWhile, List.reverse_reverse]

theorem dropWhile_eq_nil_iff_all (p : Char → Bool) (cs : List Char) :
    cs.dropWhile p = [] ↔ cs.all p := by
  induction cs with
  | nil => simp
  | cons c cs ih => by_cases h : p c <;> simp [h, ih]

theorem dropEndWhile_eq_nil_iff (p : Char → Bool) (cs : List Char) :
    dropEndWhile p cs = [] ↔ cs.all p := by
  rw [dropEndWhile, List.reverse_eq_nil_iff, dropWhile_eq_nil_iff_all, List.all_reverse]

/-- The text without the blanks around it. -/
def trimmed (s : String) : String := .ofList (trim s.toList)

/-- A text of blanks only, or of nothing. -/
def isBlankText (s : String) : Bool := allBlank s.toList

@[simp] theorem toList_trimmed (s : String) : (trimmed s).toList = trim s.toList := by
  simp [trimmed]

end SqlConverter.Text
