namespace GrammarPackages.Library

/-- Bytes by their address. -/
abbrev Memory := Nat → UInt8

namespace Memory

variable (m : Memory)

/-- A little-endian word of `n` bytes. -/
def word (a : Nat) : (n : Nat) → Nat
  | 0 => 0
  | n + 1 => (m a).toNat + 256 * word (a + 1) n

def signedWord (a : Nat) : Int :=
  let w := m.word a 4
  if w < 0x80000000 then w else (w : Int) - 0x100000000

/-- Whether these bytes stand at an address, with a zero behind them. -/
def Holds (a : Nat) : List UInt8 → Prop
  | [] => m a = 0
  | c :: rest => m a = c ∧ Holds (a + 1) rest

instance decidableHolds : (a : Nat) → (s : List UInt8) → Decidable (m.Holds a s)
  | a, [] => inferInstanceAs (Decidable (m a = 0))
  | a, c :: rest =>
    have := decidableHolds (a + 1) rest
    inferInstanceAs (Decidable (m a = c ∧ m.Holds (a + 1) rest))

/-- The bytes from an address up to the next zero, at most so many. -/
def string (a : Nat) : (limit : Nat) → List UInt8
  | 0 => []
  | limit + 1 => if m a = 0 then [] else m a :: string (a + 1) limit

end Memory

end GrammarPackages.Library
