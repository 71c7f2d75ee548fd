import GrammarPackages.Library.Image

namespace GrammarPackages.Library

/-- An entry of a library's table of symbols. -/
structure Symbol where
  name : Nat
  kind : Nat
  binding : Nat
  visibility : Nat
  home : Nat
  value : Nat

namespace Symbol

/-- Kinds that stand for code or data. -/
def definitionKinds : List Nat := [0, 1, 2, 5, 6, 10]

def threadLocal : Nat := 6

/-- The home of a symbol that has no place in the library. -/
def absoluteHome : Nat := 0xfff1

def IsDefinition (s : Symbol) : Prop :=
  s.kind ∈ definitionKinds ∧ (s.value ≠ 0 ∨ s.home = absoluteHome ∨ s.kind = threadLocal)

instance (s : Symbol) : Decidable s.IsDefinition := inferInstanceAs (Decidable (_ ∧ _))

/-- Other libraries see it: neither internal nor hidden, and global, weak or unique. -/
def IsExported (s : Symbol) : Prop := s.visibility ∉ [1, 2] ∧ s.binding ∈ [1, 2, 10]

instance (s : Symbol) : Decidable s.IsExported := inferInstanceAs (Decidable (_ ∧ _))

/-- The hash of a name: each byte moves it up by four bits, and what leaves its 28 bits comes
back in four bits above the lowest. -/
def hash (name : List UInt8) : Nat :=
  name.foldl (fun h c ↦
    let h := h * 16 + c.toNat
    (h ^^^ h / 0x10000000 % 16 * 16) % 0x10000000) 0

end Symbol

namespace Image

variable (image : Image)

def symbol (i : Nat) : Symbol :=
  let m := image.memory
  let a := (image.table? 6).getD 0 + 24 * i
  { name := image.strings + m.word a 4
    kind := m.word (a + 4) 1 % 16
    binding := m.word (a + 4) 1 / 16
    visibility := m.word (a + 5) 1 % 4
    home := m.word (a + 6) 2
    value := m.word (a + 8) 8 }

/-- A chain of symbol numbers, each of which leads to the next. Zero ends it. -/
def chain (links i : Nat) : (steps : Nat) → List Nat
  | 0 => []
  | steps + 1 =>
    if i = 0 then [] else i :: chain links (image.memory.word (links + 4 * i) 4) steps

/-- The symbols whose names may have this hash. -/
def candidates (hash : Nat) : List Nat :=
  match image.table? 4 with
  | none => []
  | some table =>
    let m := image.memory
    let buckets := m.word table 4
    if buckets = 0 then []
    else
      let first := m.word (table + 8 + 4 * (hash % buckets)) 4
      image.chain (table + 8 + 4 * buckets) first image.file.size

/-- The address of the symbol of a name. The first one with that name counts. -/
def export? (name : List UInt8) : Option Nat :=
  let symbols := (image.candidates (Symbol.hash name)).map image.symbol
  ((symbols.find? (fun s ↦ s.IsDefinition ∧ image.memory.Holds s.name name)).filter
    (fun s ↦ s.IsExported)).map Symbol.value

end Image

end GrammarPackages.Library
