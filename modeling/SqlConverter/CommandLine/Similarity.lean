namespace SqlConverter.CommandLine

/-- Takes the first free place of `c` between two bounds. -/
def partner? (c : Char) (from_ until_ : Nat) (b : List Char) (used : List Nat) : Option Nat :=
  (List.range until_).find? fun j => from_ ≤ j && b[j]? == some c && !used.contains j

/-- The places in `a` that have a partner in `b`, and the places of the partners. -/
def partners (a b : List Char) : List (Nat × Nat) :=
  let reach := max a.length b.length / 2 - 1
  let found := a.zipIdx.foldl (fun (pairs : List (Nat × Nat)) (c, i) =>
    match partner? c (i - reach) (min b.length (i + reach + 1)) b (pairs.map (·.2)) with
    | some j => pairs ++ [(i, j)]
    | none => pairs) []
  found

/-- Partners that differ when both sides are read in their own order. -/
def misplaced (a b : List Char) (pairs : List (Nat × Nat)) : Nat :=
  let left := pairs.map fun p => a[p.1]?
  let right := ((List.range b.length).filter fun j => pairs.any (·.2 == j)).map fun j => b[j]?
  ((left.zip right).filter fun (x, y) => x != y).length

/-- Whether two words are alike by more than seven tenths. -/
def areAlike (a b : List Char) : Bool :=
  let pairs := partners a b
  let m := pairs.length
  if a.isEmpty ∧ b.isEmpty then true
  else if m = 0 then false
  else
    let t := misplaced a b pairs / 2
    10 * (m * m * b.length + m * m * a.length + (m - t) * a.length * b.length) >
      21 * (a.length * b.length * m)

end SqlConverter.CommandLine
