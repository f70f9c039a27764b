import SqlConverter.Text.Numeral
import SqlConverter.Text.Utf8
import SqlConverter.Text.Words

namespace SqlConverter.Web

open Text (digitValue? numeral?)

def upperHex (n : Nat) : Char := (Nat.digitChar n).toUpper

def percent (b : UInt8) : List Char := ['%', upperHex (b.toNat / 16), upperHex (b.toNat % 16)]

/-- Writes the characters of a class as percent signs with the bytes of UTF-8. -/
def percentEncode (escape : Char → Bool) (cs : List Char) : List Char :=
  cs.flatMap fun c =>
    if escape c || c.toNat ≥ 0x80 then (Text.bytesOf (String.singleton c)).flatMap percent else [c]

/-- The bytes of a text in which a percent sign and two digits stand for one byte. -/
def percentDecode : List Char → Text.Bytes
  | [] => []
  | '%' :: a :: b :: rest =>
    match digitValue? 16 a, digitValue? 16 b with
    | some x, some y => .ofNat (x * 16 + y) :: percentDecode rest
    | _, _ => '%'.toUInt8 :: percentDecode (a :: b :: rest)
  | c :: rest => Text.bytesOf (String.singleton c) ++ percentDecode rest

def pieces (sep : Char) : List Char → List (List Char)
  | [] => [[]]
  | c :: rest => if c = sep then [] :: pieces sep rest else (pieces sep rest).modifyHead (c :: ·)

namespace Host

def forbidden (c : Char) : Bool :=
  c.toNat ≤ 0x20 || c.toNat = 0x7f || "#/:<>?@[\\]^|".toList.contains c

/-- A part of a numeric address, in base sixteen after `0x`, in base eight after `0`. -/
def part? : List Char → Option Nat
  | [] => none
  | '0' :: 'x' :: rest => numeral? 16 rest
  | '0' :: 'X' :: rest => numeral? 16 rest
  | '0' :: rest => numeral? 8 rest
  | cs => numeral? 10 cs

def labels (name : List Char) : List (List Char) :=
  let all := pieces '.' name
  if all.length > 1 && (all.getLast?.getD []).isEmpty then all.dropLast else all

/-- A name whose last label is a number must be a numeric address. -/
def endsInNumber (name : List Char) : Bool :=
  match (labels name).getLast? with
  | some label => !label.isEmpty && (label.all Char.isDigit ||
      (label.take 2 == ['0', 'x'] && (part? label).isSome))
  | none => false

def numeric? (name : List Char) : Option (List Char) := do
  let parts ← (labels name).mapM part?
  let last ← parts.getLast?
  let front := parts.dropLast
  let room := Nat.pow 256 (5 - parts.length)
  if parts.length > 4 || front.any (· > 255) || last ≥ room then none
  else
    let value := front.foldl (fun n p => n * 256 + p) 0 * room + last
    let bytes := [value / Nat.pow 256 3, value / Nat.pow 256 2 % 256, value / 256 % 256, value % 256]
    return ['.'].intercalate (bytes.map fun b => (toString b).toList)

/-- The groups of one side of a bracketed address; the last may be four numbers. -/
def groups? (cs : List Char) : Option (List Nat) :=
  if cs.isEmpty then some []
  else do
    let gs ← (pieces ':' cs).mapM fun g =>
      if g.contains '.' then do
        let bytes ← (pieces '.' g).mapM fun b =>
          if b.isEmpty || (b.length > 1 && b.head? == some '0') then none else numeral? 10 b
        match bytes with
        | [a, b, c, d] => if bytes.all (· < 256) then some [a * 256 + b, c * 256 + d] else none
        | _ => none
      else if g.isEmpty || g.length > 4 then none
      else (numeral? 16 g).map ([·])
    if (pieces ':' cs).dropLast.any (·.contains '.') then none else return gs.flatten

/-- The text before and after the first pair of colons. -/
def aroundGap? : List Char → Option (List Char × List Char)
  | ':' :: ':' :: rest => some ([], rest)
  | c :: rest => (aroundGap? rest).map fun (a, b) => (c :: a, b)
  | [] => none

def eightGroups? (cs : List Char) : Option (List Nat) := do
  match aroundGap? cs with
  | some (a, b) =>
    let front ← groups? a
    let back ← groups? b
    if front.length + back.length > 7 then none
    else return front ++ List.replicate (8 - front.length - back.length) 0 ++ back
  | none =>
    let gs ← groups? cs
    if gs.length = 8 then return gs else none

def zerosAt (gs : List Nat) (i : Nat) : Nat := ((gs.drop i).takeWhile (· == 0)).length

/-- The first of the longest runs of two or more zeros. -/
def longestGap (gs : List Nat) : Option (Nat × Nat) :=
  let runs := (List.range gs.length).map fun i => (i, zerosAt gs i)
  let best := runs.foldl (fun b r => if r.2 > b.2 then r else b) (0, 1)
  if best.2 > 1 then some best else none

def hexGroups (gs : List Nat) : List Char :=
  [':'].intercalate (gs.map (Nat.toDigits 16))

def writeGroups (gs : List Nat) : List Char :=
  match longestGap gs with
  | none => hexGroups gs
  | some (at_, n) => hexGroups (gs.take at_) ++ [':', ':'] ++ hexGroups (gs.drop (at_ + n))

/-- A host in normal form. Names must be given in ASCII. -/
def normal? (host : List Char) : Option (List Char) :=
  match host with
  | '[' :: rest =>
    if rest.getLast? == some ']' then
      (eightGroups? rest.dropLast).map fun gs => '[' :: writeGroups gs ++ [']']
    else none
  | _ => do
    let decoded ← Text.Utf8.decode? (percentDecode host)
    let name := Text.lower decoded.toList
    if name.isEmpty || name.any (fun c => forbidden c || c == '%' || c.toNat ≥ 0x80) then none
    else if endsInNumber name then numeric? name
    else return name

end Host

end SqlConverter.Web
