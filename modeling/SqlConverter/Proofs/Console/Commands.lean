import Mathlib.Tactic.SplitIfs

namespace SqlConverter.Console

inductive Mark
  | apostrophe
  | quotation
  | backquote
  deriving DecidableEq, Repr

namespace Mark

def char : Mark → Char
  | apostrophe => '\''
  | quotation => '"'
  | backquote => '`'

def ofChar? : Char → Option Mark
  | '\'' => some apostrophe
  | '"' => some quotation
  | '`' => some backquote
  | _ => none

/-- Whether a backslash hides the character behind it; in the name of an identifier it is like any
other. -/
def escapes : Mark → Bool
  | apostrophe | quotation => true
  | backquote => false

end Mark

/-- What a client is in the middle of. A slash or dashes in the open may begin something, a star in a
comment may end it, and a backslash in a quote hides the next character. -/
inductive Place
  | plain
  | slash
  | dash
  | dashes
  | lineComment
  | comment
  | star
  | quoted (mark : Mark)
  | escaped (mark : Mark)
  deriving DecidableEq, Repr

/-- What a character begins that stands by itself. -/
def opened (c : Char) : Place :=
  if c = '/' then .slash
  else if c = '-' then .dash
  else if c = '#' then .lineComment
  else match Mark.ofChar? c with
    | some mark => .quoted mark
    | none => .plain

/-- Two dashes begin a comment if white space or a control character is behind them. -/
def isGap (c : Char) : Bool := c ≤ ' '

/-- Reads one character; the second slash of a delimiter leads nowhere. A mark inside a quote that
is written twice ends the quote and begins it again. -/
def step : Place → Char → Option Place
  | .plain, c => some (opened c)
  | .slash, c => if c = '/' then none else if c = '*' then some .comment else some (opened c)
  | .dash, c => if c = '-' then some .dashes else some (opened c)
  | .dashes, c =>
    if c = '\n' then some .plain
    else if isGap c then some .lineComment
    else if c = '-' then some .dashes
    else some (opened c)
  | .lineComment, c => if c = '\n' then some .plain else some .lineComment
  | .comment, c => if c = '*' then some .star else some .comment
  | .star, c =>
    if c = '/' then some .plain else if c = '*' then some .star else some .comment
  | .quoted mark, c =>
    if c = mark.char then some .plain
    else if mark.escapes ∧ c = '\\' then some (.escaped mark)
    else some (.quoted mark)
  | .escaped mark, _ => some (.quoted mark)

/-- Where a text leads that has no delimiter in the open. -/
def scan (p : Place) (cs : List Char) : Option Place := cs.foldlM step p

/-- A text up to the first delimiter in the open, with the first slash of it, and what is behind
its second slash. -/
def upTo? : Place → List Char → Option (List Char × List Char)
  | _, [] => none
  | p, c :: rest =>
    match step p c with
    | none => some ([], rest)
    | some q => (upTo? q rest).map fun (read, left) => (c :: read, left)

/-- The first command of a text, if its delimiter comes, and what is behind the delimiter. -/
def firstCommand? (cs : List Char) : Option (List Char × List Char) :=
  (upTo? .plain cs).map fun (read, left) => (read.dropLast, left)

/-- What a client receives as the first command behind the first line of a text, and what is left
to it then. -/
def received? (text : String) : Option (String × String) :=
  (firstCommand? ((text.toList.dropWhile (· ≠ '\n')).drop 1)).map fun (command, left) =>
    (String.ofList command, String.ofList left)

theorem opened_eq_slash_iff {c : Char} : opened c = .slash ↔ c = '/' := by
  rw [opened]
  split_ifs with slash
  · exact iff_of_true rfl slash
  · simp [slash]
  · simp [slash]
  · cases Mark.ofChar? c <;> simp [slash]

theorem step_eq_none_iff {p : Place} {c : Char} : step p c = none ↔ p = .slash ∧ c = '/' := by
  cases p with
  | plain => simp [step]
  | escaped mark => simp [step]
  | slash =>
    simp only [step]
    split_ifs with slash <;> simp [slash]
  | dash | dashes | lineComment | comment | star | quoted _ =>
    simp only [step]
    split_ifs <;> simp

theorem eq_slash_of_step {p : Place} {c : Char} (h : step p c = some .slash) : c = '/' := by
  cases p with
  | plain => exact opened_eq_slash_iff.mp (Option.some.inj h)
  | escaped mark => cases h
  | slash | dash | dashes =>
    simp only [step] at h
    split_ifs at h
    all_goals simp only [Option.some.injEq, opened_eq_slash_iff, reduceCtorEq] at h
    all_goals exact h
  | lineComment | comment | star | quoted _ =>
    simp only [step] at h
    split_ifs at h <;> cases h

/-- Behind the end of a line, nothing is open but a comment or a quote. -/
theorem step_newline {p q : Place} (h : step p '\n' = some q) :
    q = .plain ∨ q = .comment ∨ ∃ mark, q = .quoted mark := by
  cases p with
  | plain | slash | dash | dashes | lineComment =>
    cases h
    exact .inl rfl
  | comment | star =>
    cases h
    exact .inr (.inl rfl)
  | escaped mark =>
    cases h
    exact .inr (.inr ⟨mark, rfl⟩)
  | quoted mark =>
    cases mark
    all_goals
      cases h
      exact .inr (.inr ⟨_, rfl⟩)

variable {cs before left : List Char} {p : Place}

theorem scan_cons (p : Place) (c : Char) (rest : List Char) :
    scan p (c :: rest) = (step p c).bind (scan · rest) :=
  List.foldlM_cons

theorem scan_append (p : Place) (first second : List Char) :
    scan p (first ++ second) = (scan p first).bind (scan · second) :=
  List.foldlM_append

theorem scan_concat (p : Place) (cs : List Char) (c : Char) :
    scan p (cs ++ [c]) = (scan p cs).bind (step · c) := by
  rw [scan_append]
  simp [scan]

theorem upTo?_eq_none_iff : upTo? p cs = none ↔ ∃ q, scan p cs = some q := by
  induction cs generalizing p with
  | nil => exact iff_of_true rfl ⟨p, rfl⟩
  | cons c rest ih =>
    rw [upTo?, scan_cons]
    cases step p c with
    | none => simp
    | some q =>
      rw [Option.map_eq_none_iff]
      exact ih

theorem upTo?_sound {read : List Char} (h : upTo? p cs = some (read, left)) :
    cs = read ++ '/' :: left ∧ scan p read = some .slash := by
  induction cs generalizing p read with
  | nil => cases h
  | cons c rest ih =>
    rw [upTo?] at h
    cases next : step p c with
    | none =>
      rw [next] at h
      obtain ⟨rfl, rfl⟩ := step_eq_none_iff.mp next
      cases h
      exact ⟨rfl, rfl⟩
    | some q =>
      rw [next] at h
      obtain ⟨⟨read', left'⟩, later, same⟩ := Option.map_eq_some_iff.mp h
      cases same
      obtain ⟨split, slash⟩ := ih later
      rw [scan_cons, next]
      exact ⟨congrArg (List.cons c) split, slash⟩

theorem upTo?_complete {read : List Char} (h : scan p read = some .slash) (left : List Char) :
    upTo? p (read ++ '/' :: left) = some (read, left) := by
  induction read generalizing p with
  | nil =>
    cases h
    rfl
  | cons c read ih =>
    rw [scan_cons] at h
    obtain ⟨q, next, onward⟩ := Option.bind_eq_some_iff.mp h
    rw [List.cons_append, upTo?, next]
    dsimp only
    rw [ih onward, Option.map_some]

theorem exists_concat_of_scan (h : scan .plain cs = some .slash) :
    ∃ before, cs = before ++ ['/'] := by
  rcases List.eq_nil_or_concat cs with rfl | ⟨before, c, rfl⟩
  · cases h
  · rw [List.concat_eq_append, scan_concat] at h
    obtain ⟨q, -, last⟩ := Option.bind_eq_some_iff.mp h
    exact ⟨before, by rw [List.concat_eq_append, eq_slash_of_step last]⟩

/-- A command ends at two slashes if nothing is open at the first of them, and no two before them
are so. -/
theorem firstCommand?_eq_some_iff :
    firstCommand? cs = some (before, left) ↔
      cs = before ++ '/' :: '/' :: left ∧ scan .plain (before ++ ['/']) = some .slash := by
  rw [firstCommand?, Option.map_eq_some_iff]
  constructor
  · rintro ⟨⟨read, left'⟩, found, same⟩
    obtain ⟨split, slash⟩ := upTo?_sound found
    obtain ⟨before', rfl⟩ := exists_concat_of_scan slash
    rw [Prod.mk.injEq, List.dropLast_concat] at same
    obtain ⟨rfl, rfl⟩ := same
    exact ⟨by rw [split, List.append_assoc, List.singleton_append], slash⟩
  · rintro ⟨split, slash⟩
    refine ⟨(before ++ ['/'], left), ?_, by simp⟩
    rw [split, List.append_cons, upTo?_complete slash]

theorem firstCommand?_eq_none_iff : firstCommand? cs = none ↔ ∃ q, scan .plain cs = some q := by
  rw [firstCommand?, Option.map_eq_none_iff, upTo?_eq_none_iff]

/-- What comes later does not change a command that has ended. -/
theorem firstCommand?_append (h : firstCommand? cs = some (before, left)) (more : List Char) :
    firstCommand? (cs ++ more) = some (before, left ++ more) := by
  rw [firstCommand?_eq_some_iff] at h ⊢
  obtain ⟨rfl, slash⟩ := h
  exact ⟨by simp, slash⟩

/-- Where a text leads with the end of its last line. -/
def ending (sql : String) : Option Place := scan .plain (sql.toList ++ ['\n'])

/-- Has no delimiter in the open, and leaves neither a quote nor a comment open. -/
def Contained (sql : String) : Prop := ending sql = some .plain

instance (sql : String) : Decidable (Contained sql) :=
  inferInstanceAs (Decidable (ending sql = some .plain))

/-- Has a delimiter in the open. -/
def Interrupted (sql : String) : Prop := ending sql = none

/-- Has no delimiter in the open, but leaves a quote or a comment open. -/
def Unfinished (sql : String) : Prop := ∃ p, ending sql = some p ∧ p ≠ .plain

variable {sql : String}

theorem contained_or_interrupted_or_unfinished (sql : String) :
    Contained sql ∨ Interrupted sql ∨ Unfinished sql := by
  cases h : ending sql with
  | none => exact .inr (.inl h)
  | some p =>
    by_cases plain : p = .plain
    · exact .inl (h.trans (congrArg some plain))
    · exact .inr (.inr ⟨p, h, plain⟩)

theorem interrupted_iff :
    Interrupted sql ↔ ∃ before after, firstCommand? sql.toList = some (before, after) := by
  constructor
  · intro h
    rw [Interrupted, ending, scan_concat, Option.bind_eq_none_iff] at h
    cases first : firstCommand? sql.toList with
    | some pair => exact ⟨pair.1, pair.2, rfl⟩
    | none =>
      -- The end of the line is no second slash, so the delimiter is before it.
      obtain ⟨p, read⟩ := firstCommand?_eq_none_iff.mp first
      obtain ⟨-, slash⟩ := step_eq_none_iff.mp (h p read)
      exact absurd slash (by decide)
  · rintro ⟨before, after, first⟩
    cases h : ending sql with
    | none => exact h
    | some p =>
      have endless := firstCommand?_eq_none_iff.mpr ⟨p, h⟩
      cases endless.symm.trans (firstCommand?_append first _)

theorem Unfinished.comment_or_quoted (h : Unfinished sql) :
    ending sql = some .comment ∨ ∃ mark, ending sql = some (.quoted mark) := by
  obtain ⟨p, left, other⟩ := h
  have last := left
  rw [ending, scan_concat] at last
  obtain ⟨q, -, newline⟩ := Option.bind_eq_some_iff.mp last
  rcases step_newline newline with rfl | rfl | ⟨mark, rfl⟩
  · exact absurd rfl other
  · exact .inl left
  · exact .inr ⟨mark, left⟩

theorem contained_intercalate (texts : List String) (h : ∀ text ∈ texts, Contained text) :
    Contained ("\n".intercalate texts) := by
  induction texts with
  | nil => rfl
  | cons text rest ih =>
    have first : scan .plain (text.toList ++ ['\n']) = some .plain := h text (by simp)
    have others : scan .plain (("\n".intercalate rest).toList ++ ['\n']) = some .plain :=
      ih fun other among => h other (by simp [among])
    by_cases last : rest = []
    · subst last
      simpa [Contained, ending] using first
    · have split : ("\n".intercalate (text :: rest)).toList ++ ['\n'] =
          (text.toList ++ ['\n']) ++ (("\n".intercalate rest).toList ++ ['\n']) := by
        rw [String.intercalate_cons_of_ne_nil last]
        simp
      rw [Contained, ending, split, scan_append, first]
      exact others

end SqlConverter.Console
