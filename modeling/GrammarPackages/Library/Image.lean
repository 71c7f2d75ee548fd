import GrammarPackages.Library.Word

namespace GrammarPackages.Library

/-- A part of a library's file, and where it lies in memory. -/
structure Segment where
  kind : Nat
  offset : Nat
  address : Nat
  fileSize : Nat
  memorySize : Nat

/-- A shared library as it lies in memory. -/
structure Image where
  file : ByteArray
  loaded : List Segment
  /-- Where the list of its tables starts. -/
  dynamic : Nat

def pageSize : Nat := 0x1000

def pageStart (a : Nat) : Nat := a / pageSize * pageSize

namespace Segment

def dataEnd (s : Segment) : Nat := s.address + s.fileSize

def memoryEnd (s : Segment) : Nat := s.address + s.memorySize

/-- No file reaches as far as this. -/
def offsetLimit : Nat := 0x8000000000000000

def CanBeLaid (s : Segment) : Prop :=
  s.offset % pageSize = s.address % pageSize ∧ s.offset < offsetLimit

instance (s : Segment) : Decidable s.CanBeLaid := inferInstanceAs (Decidable (_ ∧ _))

/-- Memory is laid out in whole pages. -/
def Covers (s : Segment) (a : Nat) : Prop :=
  pageStart s.address ≤ a ∧ pageStart a < max s.dataEnd s.memoryEnd

instance (s : Segment) (a : Nat) : Decidable (s.Covers a) := inferInstanceAs (Decidable (_ ∧ _))

end Segment

namespace Image

/-- The bytes of a file, with zeros behind its end. -/
def bytesOf (file : ByteArray) : Memory := fun i ↦ (file[i]?).getD 0

def headerSize : Nat := 64

def segmentSize : Nat := 56

/-- 64-bit, little-endian, a shared object for this machine. -/
def header : List (Nat × Nat × Nat) :=
  [(0, 4, 0x464c457f), (4, 1, 2), (5, 1, 1), (6, 1, 1), (9, 7, 0), (16, 2, 3), (18, 2, 0x3e),
    (20, 4, 1), (54, 2, segmentSize)]

/-- Of a system's own interfaces there are four versions, of the general one there is one. -/
def IsInterface (system version : Nat) : Prop := version = 0 ∧ system = 0 ∨ version < 4 ∧ system = 3

instance (system version : Nat) : Decidable (IsInterface system version) :=
  inferInstanceAs (Decidable (_ ∨ _))

def segments? (file : ByteArray) : Option (List Segment) :=
  let m := bytesOf file
  let table := m.word 32 8
  let count := m.word 56 2
  if file.size < headerSize ∨ ¬ header.all (fun (i, n, w) ↦ m.word i n = w) then none
  else if ¬ IsInterface (m.word 7 1) (m.word 8 1) then none
  else if file.size < table + segmentSize * count then none
  else some ((List.range count).map (fun i ↦
    let a := table + segmentSize * i
    ⟨m.word a 4, m.word (a + 8) 8, m.word (a + 16) 8, m.word (a + 32) 8, m.word (a + 40) 8⟩))

/-- More memory than this is not to be had. -/
def memoryLimit : Nat := 0x800000000

/-- There is something to lay out, and room for it. -/
def Fits (loaded : List Segment) : Prop :=
  (∀ s ∈ loaded, s.CanBeLaid) ∧
    match loaded.head?, loaded.getLast? with
    | some first, some last =>
      pageStart first.address < last.memoryEnd ∧
        last.memoryEnd < pageStart first.address + memoryLimit
    | _, _ => False

instance (loaded : List Segment) : Decidable (Fits loaded) := by
  unfold Fits; split <;> infer_instance

/-- The image of a library file. A file of another format, or for another machine, has none. -/
def ofBytes? (file : ByteArray) : Option Image := do
  let segments ← segments? file
  let loaded := segments.filter (fun s ↦ s.kind = 1)
  let tables := segments.filter (fun s ↦ s.kind = 2)
  if ¬ Fits loaded then none
  if tables.any (fun s ↦ s.fileSize = 0) then none
  let dynamic ← tables.getLast?
  if dynamic.address = 0 then none else some ⟨file, loaded, dynamic.address⟩

variable (image : Image)

/-- Behind what a segment takes from the file there are zeros. Of two segments the later one
lies on top. -/
def memory : Memory := fun a ↦
  match image.loaded.reverse.find? (fun s ↦ s.Covers a) with
  | some s =>
    if s.dataEnd ≤ a ∧ a < s.memoryEnd then 0 else bytesOf image.file (s.offset + a - s.address)
  | none => 0

/-- The values under a tag in the list of tables, which a zero tag ends. -/
def tableEntries (tag : Nat) : List Nat :=
  let m := image.memory
  let tags := (List.range (image.file.size / 16 + 1)).takeWhile
    (fun i ↦ m.word (image.dynamic + 16 * i) 8 ≠ 0)
  (tags.filter (fun i ↦ m.word (image.dynamic + 16 * i) 8 = tag)).map
    (fun i ↦ m.word (image.dynamic + 16 * i + 8) 8)

/-- Where a table is. The last word counts. -/
def table? (tag : Nat) : Option Nat := (image.tableEntries tag).getLast?

def strings : Nat := (image.table? 5).getD 0

def stringAt (i : Nat) : List UInt8 :=
  image.memory.string (image.strings + i) image.file.size

/-- The libraries that this one asks for. -/
def needed : List (List UInt8) := (image.tableEntries 1).map image.stringAt

/-- The name that a library gives itself. -/
def ownName? : Option (List UInt8) := (image.table? 14).map image.stringAt

/-- The address that a function returns, which loads it relative to its own. -/
def returned (function : Nat) : Nat :=
  ((function : Int) + 7 + image.memory.signedWord (function + 3)).toNat

/-- The interface version that a grammar starts with. -/
def version (grammar : Nat) : Nat := image.memory.word grammar 4

end Image

end GrammarPackages.Library
