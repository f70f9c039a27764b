import SqlConverter.Text.Invisible

namespace SqlConverter.Text

def lineEscapes : List (Char × Char) :=
  [('\x00', '0'), ('\t', 't'), ('\n', 'n'), ('\r', 'r'), ('"', '"'), ('\\', '\\')]

def visibleChar (c : Char) : List Char :=
  match lineEscapes.lookup c with
  | some letter => ['\\', letter]
  | none =>
    if isInvisible c then ['\\', 'u', '{'] ++ Nat.toDigits 16 c.toNat ++ ['}'] else [c]

def visible (s : String) : String :=
  .ofList ('"' :: s.toList.flatMap visibleChar ++ ['"'])

end SqlConverter.Text
