import SqlConverter.Text.Numeral

namespace SqlConverter.Toml

def isInlineBlank (c : Char) : Bool := c == ' ' || c == '\t'

/-- Characters of a comment or a string on one line. -/
def isPlain (c : Char) : Bool := c == '\t' || (0x20 ≤ c.toNat && c.toNat ≠ 0x7f)

def isBareKeyChar (c : Char) : Bool := c.isAlphanum || c == '-' || c == '_'

/-- Line ends as single line feeds; a carriage return that stands alone stays. -/
def singleLineEnds : List Char → List Char
  | [] => []
  | '\r' :: '\n' :: rest => '\n' :: singleLineEnds rest
  | c :: rest => c :: singleLineEnds rest

def shortEscapes : List (Char × Char) :=
  [('b', '\x08'), ('t', '\t'), ('n', '\n'), ('f', '\x0c'), ('r', '\r'), ('"', '"'), ('\\', '\\')]

/-- The character of a code that hexadecimal digits spell. -/
def codeChar? (digits : List Char) : Option Char := do
  let n ← Text.numeral? 16 digits
  if n.isValidChar then some (.ofNat n) else none

/-- Characters read one at a time before the rest of a literal. -/
def cons? (c : Option Char) (rest : Option (List Char × List Char)) :
    Option (List Char × List Char) := do
  return ((← c) :: (← rest).1, (← rest).2)

def literal? : List Char → Option (List Char × List Char)
  | [] => none
  | c :: rest => if c = '\'' then some ([], rest) else if isPlain c then cons? c (literal? rest) else none

def basic? : List Char → Option (List Char × List Char)
  | [] => none
  | '"' :: rest => some ([], rest)
  | '\\' :: 'u' :: a :: b :: c :: d :: rest => cons? (codeChar? [a, b, c, d]) (basic? rest)
  | '\\' :: 'U' :: a :: b :: c :: d :: e :: f :: g :: h :: rest =>
    cons? (codeChar? [a, b, c, d, e, f, g, h]) (basic? rest)
  | '\\' :: c :: rest => cons? (shortEscapes.lookup c) (basic? rest)
  | c :: rest => if isPlain c ∧ c ≠ '\\' then cons? c (basic? rest) else none

/-- Up to two quotes right behind a closing of three belong to the text. -/
def closing (quote : Char) (rest : List Char) : List Char × List Char :=
  let extra := (rest.takeWhile (· == quote)).take 2
  (extra, rest.drop extra.length)

def multiLiteral? : List Char → Option (List Char × List Char)
  | '\'' :: '\'' :: '\'' :: rest => some (closing '\'' rest)
  | c :: rest => if isPlain c ∨ c = '\n' then cons? c (multiLiteral? rest) else none
  | [] => none

/-- Whether a backslash is followed by the end of its line. -/
def endsLine (rest : List Char) : Bool := (rest.dropWhile isInlineBlank).head? == some '\n'

/-- With `skipping` set, blanks and line ends are passed over. -/
def multiBasic? (skipping : Bool) : List Char → Option (List Char × List Char)
  | '"' :: '"' :: '"' :: rest => some (closing '"' rest)
  | '\\' :: rest =>
    if endsLine rest then multiBasic? true rest
    else match rest with
      | 'u' :: a :: b :: c :: d :: rest => cons? (codeChar? [a, b, c, d]) (multiBasic? false rest)
      | 'U' :: a :: b :: c :: d :: e :: f :: g :: h :: rest =>
        cons? (codeChar? [a, b, c, d, e, f, g, h]) (multiBasic? false rest)
      | c :: rest => cons? (shortEscapes.lookup c) (multiBasic? false rest)
      | [] => none
  | c :: rest =>
    if skipping ∧ (isInlineBlank c ∨ c = '\n') then multiBasic? true rest
    else if isPlain c ∨ c = '\n' then cons? c (multiBasic? false rest) else none
  | [] => none

/-- A line end right behind the opening is no part of the text. -/
def dropLineEnd : List Char → List Char
  | '\n' :: rest => rest
  | cs => cs

/-- A string of any of the four kinds; `none` if no quote stands in front. -/
def string? (cs : List Char) : Option (String × List Char) := do
  let (text, rest) ←
    match cs with
    | '"' :: '"' :: '"' :: rest => multiBasic? false (dropLineEnd rest)
    | '\'' :: '\'' :: '\'' :: rest => multiLiteral? (dropLineEnd rest)
    | '"' :: rest => basic? rest
    | '\'' :: rest => literal? rest
    | _ => none
  return (.ofList text, rest)

/-- One part of a key: bare, or in quotes on one line. -/
def keyPart? (cs : List Char) : Option (String × List Char) :=
  match cs with
  | '"' :: rest => (basic? rest).map fun (text, rest) => (.ofList text, rest)
  | '\'' :: rest => (literal? rest).map fun (text, rest) => (.ofList text, rest)
  | _ =>
    if (cs.takeWhile isBareKeyChar).isEmpty then none
    else some (.ofList (cs.takeWhile isBareKeyChar), cs.dropWhile isBareKeyChar)

def skipInline (cs : List Char) : List Char := cs.dropWhile isInlineBlank

/-- The parts of a key, blanks around its points skipped. -/
def key? (fuel : Nat) (cs : List Char) : Option (List String × List Char) :=
  match fuel with
  | 0 => none
  | fuel + 1 => do
    let (part, rest) ← keyPart? (skipInline cs)
    match skipInline rest with
    | '.' :: rest => (key? fuel rest).map fun (parts, rest) => (part :: parts, rest)
    | rest => some ([part], rest)

end SqlConverter.Toml
