namespace GrammarPackages.Decimal

/-- The finite double `mantissa * 2 ^ exponent`, its sign apart. `narrow` tells that the next
smaller double is only half as far away as the next larger one. -/
structure Binary where
  mantissa : Nat
  exponent : Int
  narrow : Bool

/-- The bit of a mantissa that is not stored. -/
def hiddenBit : Nat := 0x10000000000000

def Binary.ofFloat (x : Float) : Binary :=
  let bits := x.toBits.toNat
  let fraction : Nat := bits % hiddenBit
  let field : Nat := bits / hiddenBit % 0x800
  if field = 0 then ⟨fraction, -1074, false⟩
  else ⟨hiddenBit + fraction, field - 1075, fraction = 0 && 1 < field⟩

/-- A decimal `digits * 10 ^ exponent`. -/
structure Scientific where
  digits : Nat
  exponent : Int

namespace Binary

/-- Four times the value is `quarters / unit`, both whole. -/
def quarters (b : Binary) : Nat := 4 * b.mantissa * Nat.pow 2 b.exponent.toNat

def unit (b : Binary) : Nat := Nat.pow 2 (-b.exponent).toNat

/-- A quarter of the distance to the next larger double, on the same scale. -/
def step (b : Binary) : Nat := Nat.pow 2 b.exponent.toNat

/-- `digits * 10 ^ e` on the scale of `quarters`, both multiplied by `10 ^ (-e)` where `e`
is negative. -/
def onScale (b : Binary) (digits : Nat) (e : Int) : Nat :=
  4 * digits * b.unit * Nat.pow 10 e.toNat

def gridScale (e : Int) : Nat := Nat.pow 10 (-e).toNat

/-- The decimal reads back as this double: it is nearer to it than to any other, the two
ends of that interval counted in when the mantissa is even. -/
def Covers (b : Binary) (digits : Nat) (e : Int) : Prop :=
  let below := if b.narrow then b.step else 2 * b.step
  let lo := (b.quarters - below) * gridScale e
  let hi := (b.quarters + 2 * b.step) * gridScale e
  let x := b.onScale digits e
  if b.mantissa % 2 = 0 then lo ≤ x ∧ x ≤ hi else lo < x ∧ x < hi

instance (b : Binary) (digits : Nat) (e : Int) : Decidable (b.Covers digits e) := by
  unfold Covers; infer_instance

/-- The largest multiple of `10 ^ e` that is not above the value. -/
def floorOn (b : Binary) (e : Int) : Nat :=
  b.quarters * gridScale e / (4 * b.unit * Nat.pow 10 e.toNat)

/-- Of the two neighbours on the grid of step `10 ^ e`, the one that reads back; the nearer
one if both do, the even one if they are equally near. -/
def onGrid? (b : Binary) (e : Int) : Option Nat :=
  let lower := b.floorOn e
  let upper := lower + 1
  let value := b.quarters * gridScale e
  let down := value - b.onScale lower e
  let up := b.onScale upper e - value
  if b.Covers lower e then
    if b.Covers upper e ∧ (up < down ∨ up = down ∧ upper % 2 = 0) then some upper else some lower
  else if b.Covers upper e then some upper
  else none

/-- The power of ten of the leading digit. -/
def magnitude (b : Binary) : Int :=
  let whole := b.floorOn 0
  if 0 < whole then (Nat.toDigits 10 whole).length - 1
  else -(((List.range 400).find? (fun k : Nat ↦ 0 < b.floorOn (-k))).getD 0 : Nat)

/-- The decimal with the fewest digits that reads back as this double. -/
def shortest (b : Binary) : Scientific :=
  let top := b.magnitude
  match (List.range 17).findSome? (fun n : Nat ↦ (b.onGrid? (top - n)).map (⟨·, top - n⟩)) with
  | some s => s
  | none => ⟨b.floorOn (top - 16), top - 16⟩

end Binary

/-- Trailing zeros moved into the exponent. -/
def Scientific.trim (s : Scientific) : Scientific :=
  if h : s.digits ≠ 0 ∧ s.digits % 10 = 0 then trim ⟨s.digits / 10, s.exponent + 1⟩ else s
termination_by s.digits
decreasing_by omega

/-- Where positional notation ends and how an exponent is written. -/
structure Layout where
  leastPositional : Int
  mostPositional : Int
  plusSign : Bool

namespace Layout

def zeros (n : Nat) : List Char := .replicate n '0'

/-- The text of `s` without its sign. There is always a digit on both sides of a point. -/
def unsigned (l : Layout) (s : Scientific) : List Char :=
  let digits := Nat.toDigits 10 s.digits
  let top : Int := s.exponent + digits.length - 1
  if top < l.leastPositional ∨ l.mostPositional < top then
    let lead := digits.take 1
    let rest := digits.drop 1
    let mark := if top < 0 then ['e', '-'] else if l.plusSign then ['e', '+'] else ['e']
    lead ++ (if rest = [] then [] else '.' :: rest) ++ mark ++ Nat.toDigits 10 top.natAbs
  else if top < 0 then '0' :: '.' :: zeros (-top - 1).toNat ++ digits
  else if 0 ≤ s.exponent then digits ++ zeros s.exponent.toNat ++ ['.', '0']
  else digits.take (top.toNat + 1) ++ '.' :: digits.drop (top.toNat + 1)

def text (l : Layout) (x : Float) : List Char :=
  let negative := 0x8000000000000000 ≤ x.toBits.toNat
  let b := Binary.ofFloat x
  let body := if b.mantissa = 0 then ['0', '.', '0'] else l.unsigned b.shortest.trim
  if negative then '-' :: body else body

end Layout

end GrammarPackages.Decimal
