import GrammarPackages.Json.Value
import GrammarPackages.Json.Fault
import GrammarPackages.Decimal.Scale

namespace GrammarPackages.Json

/-- How far a number has been read. -/
inductive Numeral.Stage
  /-- A minus sign, no digit yet. -/
  | sign
  /-- A leading zero, which no digit may follow. -/
  | zero
  | digits
  /-- Further whole digits, each one a power of ten. -/
  | excess
  /-- A point, no digit yet. -/
  | point
  | fraction
  /-- Further digits of the fraction, which do not count. -/
  | spent
  /-- The letter of the exponent. -/
  | mark
  | exponentSign (negative : Bool)
  | exponent (negative : Bool) (value : Nat)
  /-- Further digits of an exponent so large that the value is zero. -/
  | vanished

structure Numeral where
  negative : Bool
  significand : Nat
  scale : Int
  stage : Numeral.Stage

namespace Numeral

/-- Significands are 64-bit words. -/
def Fits (n : Nat) : Prop := n < UInt64.size

instance (n : Nat) : Decidable (Fits n) := inferInstanceAs (Decidable (n < UInt64.size))

def largestExponent : Nat := 0x7fffffff

/-- The size of the least whole number of 64 bits. -/
def largestNegative : Nat := 0x8000000000000000

def digit? (c : Char) : Option Nat :=
  if '0' ≤ c ∧ c ≤ '9' then some (c.toNat - '0'.toNat) else none

/-- A further character of the number; `none` when the number ends before it. -/
def step (n : Numeral) (c : Char) : Except Reason (Option Numeral) :=
  let move (stage : Stage) : Except Reason (Option Numeral) := .ok (some {n with stage})
  match n.stage, digit? c with
  | .sign, some 0 => move .zero
  | .sign, some d => .ok (some {n with significand := d, stage := .digits})
  | .sign, none => .error .numberMalformed
  | .zero, some _ => .error .numberMalformed
  | .digits, some d =>
    if Fits (n.significand * 10 + d) then
      .ok (some {n with significand := n.significand * 10 + d})
    else .ok (some {n with scale := n.scale + 1, stage := .excess})
  | .excess, some _ => .ok (some {n with scale := n.scale + 1})
  | .point, some d | .fraction, some d =>
    if Fits (n.significand * 10 + d) then
      .ok (some {n with
        significand := n.significand * 10 + d, scale := n.scale - 1, stage := .fraction})
    else move .spent
  | .point, none => .error .numberMalformed
  | .spent, some _ => move .spent
  | .mark, some d => move (.exponent false d)
  | .mark, none =>
    if c = '+' then move (.exponentSign false)
    else if c = '-' then move (.exponentSign true)
    else .error .numberMalformed
  | .exponentSign negative, some d => move (.exponent negative d)
  | .exponentSign _, none => .error .numberMalformed
  | .exponent negative e, some d =>
    if e * 10 + d ≤ largestExponent then move (.exponent negative (e * 10 + d))
    else if n.significand ≠ 0 ∧ ¬ negative then .error .numberTooLarge
    else move .vanished
  | .vanished, some _ => move .vanished
  | .zero, none | .digits, none | .excess, none =>
    if c = '.' then move .point
    else if c = 'e' ∨ c = 'E' then move .mark
    else .ok none
  | .fraction, none | .spent, none => if c = 'e' ∨ c = 'E' then move .mark else .ok none
  | .exponent .., none | .vanished, none => .ok none

def signed (negative : Bool) (x : Float) : Value := .float (if negative then -x else x)

/-- `significand * 10 ^ e` as a double. -/
def double (n : Numeral) (e : Int) : Except Reason Value :=
  match Decimal.scaled n.significand e with
  | some x => .ok (signed n.negative x)
  | none => .error .numberTooLarge

/-- Whole numbers of 64 bits stay whole, except that minus zero is a double. -/
def value (n : Numeral) : Except Reason Value :=
  match n.stage with
  | .sign | .point | .mark | .exponentSign _ => .error .valueCut
  | .zero | .digits =>
    if ¬ n.negative then .ok (.integer n.significand)
    else if n.significand = 0 ∨ largestNegative < n.significand then
      .ok (signed true (.ofNat n.significand))
    else .ok (.integer (-n.significand))
  | .excess | .fraction | .spent => n.double n.scale
  | .exponent negative e => n.double (if negative then n.scale - e else n.scale + e)
  | .vanished => .ok (signed n.negative 0)

end Numeral

end GrammarPackages.Json
