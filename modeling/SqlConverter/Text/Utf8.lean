namespace SqlConverter.Text

abbrev Bytes := List UInt8

namespace Utf8

/-- A character of which some bytes are still to come, the next of them between two bounds. -/
structure Pending where
  missing : Nat
  least : Nat
  greatest : Nat
  value : Nat

/-- Between characters. -/
def idle : Pending := ⟨0, 0, 0, 0⟩

/-- What a first byte announces; `none` for a byte that starts no character. -/
def start? (b : Nat) : Option Pending :=
  if b < 0xC2 then none
  else if b < 0xE0 then some ⟨1, 0x80, 0xBF, b - 0xC0⟩
  else if b < 0xF0 then
    some ⟨2, if b = 0xE0 then 0xA0 else 0x80, if b = 0xED then 0x9F else 0xBF, b - 0xE0⟩
  else if b < 0xF5 then
    some ⟨3, if b = 0xF0 then 0x90 else 0x80, if b = 0xF4 then 0x8F else 0xBF, b - 0xF0⟩
  else none

/-- A byte between characters: what it completes, and what it leaves open. -/
def first (b : Nat) : List (Option Char) × Pending :=
  if b < 0x80 then ([some (.ofNat b)], idle)
  else match start? b with
    | some p => ([], p)
    | none => ([none], idle)

/-- A byte that does not continue the open character ends it and is then read afresh. -/
def step (p : Pending) (b : Nat) : List (Option Char) × Pending :=
  if p.missing = 0 then first b
  else if p.least ≤ b ∧ b ≤ p.greatest then
    let value := p.value * 0x40 + (b - 0x80)
    if p.missing = 1 then ([some (.ofNat value)], idle)
    else ([], ⟨p.missing - 1, 0x80, 0xBF, value⟩)
  else (none :: (first b).1, (first b).2)

/-- The characters that bytes spell after an open one, `none` for each malformed piece. -/
def pieces (p : Pending) : Bytes → List (Option Char)
  | [] => if p.missing = 0 then [] else [none]
  | b :: rest => (step p b.toNat).1 ++ pieces (step p b.toNat).2 rest

/-- The text that bytes spell, if they are well formed. -/
def decode? (bytes : Bytes) : Option String :=
  ((pieces idle bytes).mapM id).map String.ofList

/-- The text that bytes spell, with U+FFFD for each malformed piece. -/
def decodePatched (bytes : Bytes) : String :=
  .ofList ((pieces idle bytes).map (·.getD '\ufffd'))

def byteOrderMark : Char := '\ufeff'

/-- A text without the mark that may open it. -/
def dropMark (cs : List Char) : List Char :=
  match cs with
  | c :: rest => if c = byteOrderMark then rest else cs
  | [] => []

end Utf8

/-- The bytes that a text is written with. -/
def bytesOf (s : String) : Bytes := s.toUTF8.toList

end SqlConverter.Text
