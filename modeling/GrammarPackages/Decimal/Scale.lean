namespace GrammarPackages.Decimal

def powerOfTen (k : Nat) : Float := .ofScientific 1 false k

/-- Divides by `10 ^ k` in steps of at most 308 places. -/
def shrink (x : Float) (k : Nat) : Float :=
  if k ≤ 308 then x / powerOfTen k
  else if x == 0 then x
  else shrink (x / powerOfTen 308) (k - 308)
termination_by k

/-- Multiplies by `10 ^ k` once; `none` when the result is too large. -/
def grow (x : Float) (k : Nat) : Option Float :=
  if k ≤ 308 then
    let y := x * powerOfTen k
    if y.isInf then none else some y
  else if x == 0 then some x
  else none

/-- `n * 10 ^ e`, where `n` is rounded to a double before it is scaled. -/
def scaled (n : Nat) : Int → Option Float
  | .ofNat k => grow (.ofNat n) k
  | .negSucc k => some (shrink (.ofNat n) (k + 1))

end GrammarPackages.Decimal
