import SqlConverter.Text.Numeral
import SqlConverter.Toml.Value

namespace SqlConverter.Toml

open Text (isDigitOf numeral?)

/-- Digits with single underscores between them; the result is the digits alone. -/
def grouped? (isDigit : Char → Bool) : List Char → Option (List Char)
  | [] => none
  | [c] => if isDigit c then some [c] else none
  | c :: '_' :: rest => if isDigit c then (grouped? isDigit rest).map (c :: ·) else none
  | c :: rest => if isDigit c then (grouped? isDigit rest).map (c :: ·) else none

/-- Whether a minus sign stands in front, and what follows the sign. -/
def splitSign : List Char → Bool × List Char
  | '-' :: rest => (true, rest)
  | '+' :: rest => (false, rest)
  | cs => (false, cs)

/-- Decimal digits; only zero itself starts with a zero. -/
def decimalDigits? (cs : List Char) : Option (List Char) :=
  if cs.length > 1 ∧ cs.head? = some '0' then none else grouped? (isDigitOf 10) cs

/-- The first whole number that is too great. -/
def integerBound : Int := Nat.pow 2 63

/-- Integers have 64 bits, one of them the sign. -/
def inRange? (n : Int) : Option Int :=
  if -integerBound ≤ n ∧ n < integerBound then some n else none

def based? (base : Nat) (cs : List Char) : Option Int := do
  inRange? (← numeral? base (← grouped? (isDigitOf base) cs))

/-- A base other than ten takes no sign. -/
def integer? : List Char → Option Int
  | '0' :: 'x' :: rest => based? 16 rest
  | '0' :: 'o' :: rest => based? 8 rest
  | '0' :: 'b' :: rest => based? 2 rest
  | cs => do
    let (negative, body) := splitSign cs
    let n : Int := (← numeral? 10 (← decimalDigits? body) : Nat)
    inRange? (if negative then -n else n)

def isPoint (c : Char) : Bool := c == '.'

def isExponentMark (c : Char) : Bool := c == 'e' || c == 'E'

/-- The digits behind the point; without a point there are none. -/
def fraction? : List Char → Option (List Char)
  | [] => some []
  | '.' :: rest => grouped? (isDigitOf 10) rest
  | _ => none

def exponent? : List Char → Option Int
  | [] => some 0
  | _ :: rest => do
    let (negative, body) := splitSign rest
    let n : Int := (← numeral? 10 (← grouped? (isDigitOf 10) body) : Nat)
    return if negative then -n else n

/-- A number with a point or an exponent; one beyond the greatest double is refused if positive. -/
def finite? (cs : List Char) : Option Float := do
  let (negative, body) := splitSign cs
  if !body.any (fun c => isPoint c || isExponentMark c) then none
  let mantissa := body.takeWhile (!isExponentMark ·)
  let whole ← decimalDigits? (mantissa.takeWhile (!isPoint ·))
  let places ← fraction? (mantissa.dropWhile (!isPoint ·))
  let e ← exponent? (body.dropWhile (!isExponentMark ·))
  let size : Decimal.Scaled := ⟨← numeral? 10 (whole ++ places), e - places.length⟩
  if !negative && (Decimal.nearest size).isNone then none else some (.finite negative size)

def float? (cs : List Char) : Option Float :=
  match splitSign cs with
  | (negative, ['i', 'n', 'f']) => some (.infinite negative)
  | (_, ['n', 'a', 'n']) => some .nan
  | _ => finite? cs

def daysIn (year month : Nat) : Nat :=
  if month = 2 then
    if year % 4 = 0 ∧ (year % 100 ≠ 0 ∨ year % 400 = 0) then 29 else 28
  else if month = 4 ∨ month = 6 ∨ month = 9 ∨ month = 11 then 30 else 31

def isPair (least greatest : Nat) (a b : Char) : Bool :=
  match numeral? 10 [a, b] with
  | some n => least ≤ n && n ≤ greatest
  | none => false

def isDate : List Char → Bool
  | [y1, y2, y3, y4, '-', m1, m2, '-', d1, d2] =>
    match numeral? 10 [y1, y2, y3, y4], numeral? 10 [m1, m2] with
    | some year, some month => isPair 1 12 m1 m2 && isPair 1 (daysIn year month) d1 d2
    | _, _ => false
  | _ => false

/-- Nothing, or a point and digits, and then a zone if one may stand there. -/
def isZone : List Char → Bool
  | [] => true
  | ['Z'] => true
  | ['z'] => true
  | [s, h1, h2, ':', m1, m2] => (s == '+' || s == '-') && isPair 0 23 h1 h2 && isPair 0 59 m1 m2
  | _ => false

def afterSecond (zoned : Bool) (cs : List Char) : Bool :=
  let rest := match cs with
    | '.' :: c :: more => if c.isDigit then more.dropWhile Char.isDigit else cs
    | _ => cs
  if zoned then isZone rest else rest.isEmpty

def isTime (zoned : Bool) : List Char → Bool
  | h1 :: h2 :: ':' :: m1 :: m2 :: ':' :: s1 :: s2 :: rest =>
    isPair 0 23 h1 h2 && isPair 0 59 m1 m2 && isPair 0 60 s1 s2 && afterSecond zoned rest
  | _ => false

def isMoment (cs : List Char) : Bool :=
  isTime false cs || isDate cs ||
    (isDate (cs.take 10) && ((cs.drop 10).head?.any fun c => c == 'T' || c == 't' || c == ' ') &&
      isTime true (cs.drop 11))

def isScalarChar (c : Char) : Bool := c.isAlphanum || "+-_.:".toList.contains c

/-- The run of characters of a number or a date; a date and its time may have a blank between
them. -/
def scalarRun (cs : List Char) : List Char × List Char :=
  let run := cs.takeWhile isScalarChar
  let rest := cs.dropWhile isScalarChar
  match rest with
  | ' ' :: more =>
    let time := more.takeWhile isScalarChar
    if isDate run ∧ isTime true time then (run ++ ' ' :: time, more.dropWhile isScalarChar)
    else (run, rest)
  | _ => (run, rest)

def scalar? (run : List Char) : Option Value :=
  if run = "true".toList then some (.boolean true)
  else if run = "false".toList then some (.boolean false)
  else if isMoment run then some .moment
  else match integer? run with
    | some n => some (.integer n)
    | none => (float? run).map .float

end SqlConverter.Toml
