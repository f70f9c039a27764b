import SqlConverter.Json.Reader

namespace SqlConverter.Json

/-- Digits, and at least one. -/
def IsDigits (cs : List Char) : Prop := cs ≠ [] ∧ cs.all Char.isDigit = true

/-- Digits that start with a zero only where it is the only one. -/
inductive IntegerPart : List Char → Prop
  | zero : IntegerPart ['0']
  | digits {c : Char} {cs : List Char} (leads : c ≠ '0') (h : IsDigits (c :: cs)) :
      IntegerPart (c :: cs)

inductive FractionPart : List Char → Prop
  | absent : FractionPart []
  | present {cs : List Char} (h : IsDigits cs) : FractionPart ('.' :: cs)

inductive ExponentPart : List Char → Prop
  | absent : ExponentPart []
  | present {e : Char} {sign cs : List Char} (letter : e = 'e' ∨ e = 'E')
      (signed : sign = [] ∨ sign = ['+'] ∨ sign = ['-']) (h : IsDigits cs) :
      ExponentPart (e :: (sign ++ cs))

inductive Numeral : List Char → Prop
  | parts {sign integer fraction exponent : List Char} (signed : sign = [] ∨ sign = ['-'])
      (whole : IntegerPart integer) (broken : FractionPart fraction)
      (scaled : ExponentPart exponent) :
      Numeral (sign ++ (integer ++ (fraction ++ exponent)))

/-- Characters between two quotes and the units that they spell. -/
inductive SpellsUnits : List Char → List Nat → Prop
  | nil : SpellsUnits [] []
  | raw {c : Char} {cs : List Char} {us : List Nat} (notQuote : c ≠ '"') (notEscape : c ≠ '\\')
      (visible : 0x20 ≤ c.toNat) (later : SpellsUnits cs us) : SpellsUnits (c :: cs) (c.toNat :: us)
  | short {letter c : Char} {cs : List Char} {us : List Nat} (entry : (letter, c) ∈ shortEscapes)
      (later : SpellsUnits cs us) : SpellsUnits ('\\' :: letter :: cs) (c.toNat :: us)
  | digits {a b c d : Char} {u : Nat} {cs : List Char} {us : List Nat}
      (number : unit? a b c d = some u) (later : SpellsUnits cs us) :
      SpellsUnits ('\\' :: 'u' :: a :: b :: c :: d :: cs) (u :: us)

/-- A string in its quotes. Where its units leave a surrogate alone it holds no text. -/
inductive SpellsString : List Char → Option String → Prop
  | quoted {cs : List Char} {us : List Nat} (h : SpellsUnits cs us) :
      SpellsString ('"' :: (cs ++ ['"'])) ((ofUnits? us).map String.ofList)

mutual

/-- A text that spells a value, with nothing around it. -/
inductive Spells : List Char → Value → Prop
  | null : Spells ['n', 'u', 'l', 'l'] .null
  | true : Spells ['t', 'r', 'u', 'e'] (.bool true)
  | false : Spells ['f', 'a', 'l', 's', 'e'] (.bool false)
  | number {cs : List Char} (h : Numeral cs) : Spells cs .number
  | string {cs : List Char} {text : Option String} (h : SpellsString cs text) :
      Spells cs (.string text)
  | noItems {blank : List Char} (h : blank.all isSpace = true) :
      Spells ('[' :: (blank ++ [']'])) (.array [])
  | items {cs : List Char} {vs : List Value} (h : SpellsItems cs vs) :
      Spells ('[' :: (cs ++ [']'])) (.array vs)
  | noMembers {blank : List Char} (h : blank.all isSpace = true) :
      Spells ('{' :: (blank ++ ['}'])) (.object [])
  | members {cs : List Char} {ms : List (Option String × Value)} (h : SpellsMembers cs ms) :
      Spells ('{' :: (cs ++ ['}'])) (.object ms)

/-- A text that spells a value, with white space around it. -/
inductive Document : List Char → Value → Prop
  | padded {before cs after : List Char} {v : Value} (lead : before.all isSpace = true)
      (h : Spells cs v) (trail : after.all isSpace = true) : Document (before ++ (cs ++ after)) v

/-- Values with a comma between each two. -/
inductive SpellsItems : List Char → List Value → Prop
  | last {cs : List Char} {v : Value} (h : Document cs v) : SpellsItems cs [v]
  | more {cs rest : List Char} {v : Value} {vs : List Value} (h : Document cs v)
      (later : SpellsItems rest vs) : SpellsItems (cs ++ ',' :: rest) (v :: vs)

/-- Members with a comma between each two. -/
inductive SpellsMembers : List Char → List (Option String × Value) → Prop
  | last {cs : List Char} {m : Option String × Value} (h : SpellsMember cs m) :
      SpellsMembers cs [m]
  | more {cs rest : List Char} {m : Option String × Value} {ms : List (Option String × Value)}
      (h : SpellsMember cs m) (later : SpellsMembers rest ms) :
      SpellsMembers (cs ++ ',' :: rest) (m :: ms)

/-- A key, a colon and a value. -/
inductive SpellsMember : List Char → Option String × Value → Prop
  | keyed {before name after cs : List Char} {key : Option String} {v : Value}
      (lead : before.all isSpace = true) (named : SpellsString name key)
      (trail : after.all isSpace = true) (h : Document cs v) :
      SpellsMember (before ++ (name ++ (after ++ ':' :: cs))) (key, v)

end

end SqlConverter.Json
