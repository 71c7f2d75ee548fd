import GrammarPackages.Library.Symbol
import GrammarPackages.Library.Name
import GrammarPackages.Grammar.Cache
import GrammarPackages.Text.Quoted

namespace GrammarPackages.Library

/-- A compiled grammar: its place in a resident library. -/
structure CompiledGrammar where
  library : Nat
  address : Nat
  version : Nat
deriving DecidableEq

/-- A library in memory, with the names that it goes by. -/
structure Resident where
  names : List (List Char)
  identity : Nat
  image : Image

/-- The libraries in memory. One that a grammar was taken from stays for good. -/
structure Linker where
  residents : List Resident

instance : EmptyCollection Linker := ⟨⟨[]⟩⟩

instance : Inhabited Linker := ⟨∅⟩

inductive Fault
  | notOpened
  | noSymbol (name : String)
  | incompatible (version : Nat)
deriving DecidableEq

/-- Stands for the system's own account of a failure, which differs from one to the next. -/
def systemAccount : String := "<dlerror>"

def Fault.message (library : Path) : Fault → String
  | notOpened =>
    "Error opening dynamic library " ++ Text.quoted library.toString ++ ": " ++ systemAccount
  | noSymbol name => "Failed to load symbol " ++ name ++ ": " ++ systemAccount
  | incompatible version =>
    "Tried to load grammar with incompatible ABI " ++ toString version ++ "."

/-- What the system takes for a name: one zero at the end ends it, and it has no other. -/
def terminated? (s : List Char) : Option (List Char) :=
  let body := if s.getLast? = some '\x00' then s.dropLast else s
  if '\x00' ∈ body then none else some body

def versions : List Nat := [13, 14, 15]

/-- The function that gives the grammar of a name. -/
def symbolOf (name : String) : List Char :=
  "tree_sitter_".toList ++ Grammar.underscored name.toList

namespace Linker

variable (l : Linker)

/-- The library that goes by a name. -/
def named? (name : List Char) : Option Nat := l.residents.findIdx? (fun r ↦ name ∈ r.names)

/-- Whether what a library asks for is there. -/
def Provides (name : List UInt8) : Prop :=
  match String.fromUTF8? ⟨name.toArray⟩ with
  | some s => Name.IsSystem s.toList ∨ (l.named? s.toList).isSome
  | none => False

instance (name : List UInt8) : Decidable (l.Provides name) := by
  unfold Provides; split <;> infer_instance

def ownNames (image : Image) : List (List Char) :=
  ((image.ownName?.bind (fun name ↦ String.fromUTF8? ⟨name.toArray⟩)).map String.toList).toList

/-- Opens a library under a name: one that goes by this name already, or is the same file, or
else the file at that path. A name without a slash is no path. -/
def attach (files : FileView) (name : List Char) : Option (Nat × Linker) :=
  match l.named? name with
  | some i => some (i, l)
  | none =>
    if '/' ∉ name then none
    else do
      let path ← Name.expand 0 name
      let identity ← files.identity ⟨path⟩
      match l.residents.findIdx? (fun r ↦ r.identity = identity) with
      | some i =>
        some (i, ⟨l.residents.modify i (fun r ↦ {r with names := r.names ++ [name]})⟩)
      | none =>
        let image ← Image.ofBytes? (← (files.contents ⟨path⟩).toOption)
        if ¬ ∀ n ∈ image.needed, l.Provides n then none
        some (l.residents.length,
          ⟨l.residents ++ [⟨[name, path] ++ ownNames image, identity, image⟩]⟩)

/-- The grammar of a name in a library that was opened. -/
def take (library : Nat) (name : String) : Except Fault CompiledGrammar := do
  let some resident := l.residents[library]? | throw .notOpened
  let some symbol := terminated? (symbolOf name) | throw (.noSymbol name)
  let some function := resident.image.export? (String.ofList symbol).toUTF8.data.toList
    | throw (.noSymbol name)
  let address := resident.image.returned function
  let version := resident.image.version address
  if version ∈ versions then return ⟨library, address, version⟩ else throw (.incompatible version)

/-- A library that no grammar was taken from is closed again. -/
def load (files : FileView) (library : Path) (name : String) :
    Except Fault CompiledGrammar × Linker :=
  match terminated? library.chars with
  | none => (.error .notOpened, l)
  | some path =>
    if Name.IsSystem path then (.error (.noSymbol name), l)
    else match l.attach files path with
    | none => (.error .notOpened, l)
    | some (i, opened) =>
      match opened.take i name with
      | .ok g => (.ok g, opened)
      | .error f => (.error f, ⟨opened.residents.take l.residents.length⟩)

def openGrammar (files : FileView) : Grammar.Cache.Opener Linker CompiledGrammar :=
  fun l library name ↦
    let answer := l.load files library name
    (answer.1.mapError (fun f ↦ .unloadable (library.toString ++ ": " ++ f.message library)),
      answer.2)

end Linker

/-- Takes grammars from shared libraries, and keeps them. -/
def loader (files : FileView) :
    Grammar.Loader (Grammar.Cache CompiledGrammar × Linker) CompiledGrammar :=
  Grammar.Cache.loader files.canonical (Linker.openGrammar files)

end GrammarPackages.Library
