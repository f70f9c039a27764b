namespace SqlConverter.Decimal

/-- The number `digits * 10 ^ exponent`. -/
structure Scaled where
  digits : Nat
  exponent : Int
  deriving DecidableEq, Repr

/-- The double `mantissa * 2 ^ exponent`. -/
structure Double where
  mantissa : Nat
  exponent : Int
  deriving DecidableEq, Repr

structure Ratio where
  num : Nat
  den : Nat

def Ratio.scale (base : Nat) (exponent : Int) (r : Ratio) : Ratio :=
  if 0 ≤ exponent then ⟨r.num * base.pow exponent.toNat, r.den⟩
  else ⟨r.num, r.den * base.pow (-exponent).toNat⟩

def Ratio.lt (a b : Ratio) : Bool := a.num * b.den < b.num * a.den

/-- The nearest whole number; a half goes to the even neighbour. -/
def Ratio.round (r : Ratio) : Nat :=
  let q := r.num / r.den
  let twice := 2 * (r.num % r.den)
  if twice < r.den ∨ (twice = r.den ∧ q % 2 = 0) then q else q + 1

def Scaled.ratio (d : Scaled) : Ratio := Ratio.scale 10 d.exponent ⟨d.digits, 1⟩

def Double.ratio (x : Double) : Ratio := Ratio.scale 2 x.exponent ⟨x.mantissa, 1⟩

def digitCount (n : Nat) : Nat := (Nat.toDigits 10 n).length

def leastExponent : Int := -1074

def greatestExponent : Int := 971

/-- The exponent under which the leading bit of a fraction has weight `2 ^ 52`. -/
def normalExponent (r : Ratio) : Int :=
  let q : Int := (r.num.log2 : Int) - r.den.log2 - 52
  if r.lt (Ratio.scale 2 (q + 52) ⟨1, 1⟩) then q - 1 else q

/-- The nearest double of a fraction that is neither far too great nor far too small. -/
def nearestOfRatio (r : Ratio) : Option Double :=
  let q := max (normalExponent r) leastExponent
  let m := (Ratio.scale 2 (-q) r).round
  let x : Double := if m = Nat.pow 2 53 then ⟨Nat.pow 2 52, q + 1⟩ else ⟨m, q⟩
  if x.exponent > greatestExponent then none else some x

/-- The nearest double, `none` beyond the greatest. -/
def nearest (d : Scaled) : Option Double :=
  let magnitude : Int := digitCount d.digits + d.exponent
  if d.digits = 0 ∨ magnitude < -330 then some ⟨0, leastExponent⟩
  else if magnitude > 310 then none
  else nearestOfRatio d.ratio

/-- Whether a decimal reads back to a double. -/
def readsBack (x : Double) (d : Scaled) : Bool := nearest d == some x

/-- The two decimals with a given unit that enclose a double. -/
def neighbours (x : Double) (unit : Int) : Scaled × Scaled :=
  let r := Ratio.scale 10 (-unit) x.ratio
  (⟨r.num / r.den, unit⟩, ⟨r.num / r.den + 1, unit⟩)

/-- The nearer of the enclosing decimals that read back. -/
def candidate? (x : Double) (unit : Int) : Option Scaled :=
  let (below, above) := neighbours x unit
  let nearer : Scaled := ⟨(Ratio.scale 10 (-unit) x.ratio).round, unit⟩
  if readsBack x nearer then some nearer
  else if readsBack x below then some below
  else if readsBack x above then some above
  else none

/-- Units from the one under which a double has a single digit, downwards. -/
def units (x : Double) : List Int :=
  let r := x.ratio
  let top : Int := digitCount (r.num / r.den)
  let top := if r.num < r.den then -(digitCount (r.den / r.num) : Int) + 1 else top
  (List.range 20).map fun (i : Nat) => top - (i : Int)

/-- The decimal with the fewest digits that reads back to a double. -/
def shortest (x : Double) : Scaled :=
  if x.mantissa = 0 then ⟨0, 0⟩
  else ((units x).findSome? (candidate? x)).getD ⟨0, 0⟩

/-- A decimal without an exponent and always with a point. -/
def Scaled.positional (d : Scaled) : String :=
  let digits := Nat.toDigits 10 d.digits
  if 0 ≤ d.exponent then
    .ofList (digits ++ (if d.digits = 0 then [] else List.replicate d.exponent.toNat '0') ++ ['.', '0'])
  else
    let places := (-d.exponent).toNat
    let padded := List.replicate (places + 1 - digits.length) '0' ++ digits
    .ofList (padded.take (padded.length - places) ++ '.' :: padded.drop (padded.length - places))

end SqlConverter.Decimal
