import GrammarPackages.Files.View

namespace GrammarPackages

namespace FileTree

inductive Content
  | file (bytes : ByteArray)
  | directory
  | link (target : Path)

/-- An entry of a directory. One that was removed keeps its place in the table, for it may
still be the working directory. -/
structure Node where
  parent : Nat
  name : List Char
  content : Content
  present : Bool

end FileTree

/-- A file system in memory: a table of nodes, the root first, and the working directory. -/
structure FileTree where
  nodes : Array FileTree.Node
  working : Nat

namespace FileTree

def empty : FileTree := ⟨#[⟨0, [], .directory, true⟩], 0⟩

instance : Inhabited FileTree := ⟨empty⟩

variable (t : FileTree)

def IsDirectory (n : Nat) : Prop :=
  match t.nodes[n]?.map Node.content with
  | some .directory => True
  | _ => False

instance (n : Nat) : Decidable (t.IsDirectory n) := by
  unfold IsDirectory; split <;> infer_instance

def IsPresent (n : Nat) : Prop := (t.nodes[n]?.map Node.present) = some true

instance (n : Nat) : Decidable (t.IsPresent n) := inferInstanceAs (Decidable (_ = _))

def target? (n : Nat) : Option Path :=
  match t.nodes[n]?.map Node.content with
  | some (.link p) => some p
  | _ => none

def parent (n : Nat) : Nat := (t.nodes[n]?.map Node.parent).getD 0

def child? (dir : Nat) (name : List Char) : Option Nat :=
  t.nodes.findIdx? (fun n ↦ n.present && n.parent == dir && n.name == name)

def nameLimit : Nat := 255

def pathLimit : Nat := 4096

def linkLimit : Nat := 40

def bytes (s : List Char) : Nat := s.foldr (fun c n ↦ c.utf8Size + n) 0

/-- The entry of a directory under this name. Nothing is found in a removed directory. -/
def entry (dir : Nat) (name : List Char) : Except FileFault Nat :=
  if ¬ t.IsPresent dir then .error .notFound
  else if nameLimit < bytes name then .error .nameTooLong
  else match t.child? dir name with
    | some n => .ok n
    | none => .error .notFound

/-- Where a path starts, seen from a directory. -/
def startOf (p : Path) (dir : Nat) : Nat := if p.IsAbsolute then 0 else dir

/-- The names from the root down to a node, if it is still below the root; `steps` bounds
their number. -/
def namesTo (node : Nat) : (steps : Nat) → Option (List (List Char))
  | 0 => if node = 0 then some [] else none
  | steps + 1 =>
    if node = 0 then some []
    else match t.nodes[node]? with
      | some n => if n.present then (namesTo n.parent steps).map (· ++ [n.name]) else none
      | none => none

def pathTo (node : Nat) : Option Path :=
  (t.namesTo node t.nodes.size).map (Path.spell (some .root))

def workingDirectory : Option Path := t.pathTo t.working

/-- The node that these segments lead to from a node, over entries that are in reach and
following at most so many links. Each segment, a blank one too, wants a directory before it. -/
def walk (reach : Nat → Bool) (links node : Nat) : List (List Char) → Except FileFault Nat
  | [] => .ok node
  | s :: rest =>
    if ¬ t.IsDirectory node then .error .notDirectory
    else if Path.Blank s then walk reach links node rest
    else if s = ['.', '.'] then walk reach links (t.parent node) rest
    else match t.entry node s with
      | .error f => .error f
      | .ok n =>
        if ¬ reach n then .error .nameTooLong
        else match t.target? n, links with
          | none, links => walk reach links n rest
          | some _, 0 => .error .tooManyLinks
          | some target, links + 1 =>
            walk reach links (startOf target node) (target.segments ++ rest)
termination_by l => (links, l.length)

/-- The node at a path of any length, over entries that are in reach. -/
def follow (reach : Nat → Bool) (p : Path) : Except FileFault Nat :=
  if '\x00' ∈ p.chars then .error .nulInName
  else if p.chars = [] then .error .notFound
  else t.walk reach linkLimit (startOf p t.working) p.segments

def checkLength (p : Path) : Except FileFault Unit :=
  if '\x00' ∉ p.chars ∧ pathLimit ≤ bytes p.chars then .error .nameTooLong else .ok ()

def anywhere : Nat → Bool := fun _ ↦ true

/-- The node at a path. -/
def find (p : Path) : Except FileFault Nat := do
  checkLength p
  t.follow anywhere p

/-- Whether the absolute path of a node is short enough to look at it. -/
def nearRoot (node : Nat) : Bool := (t.pathTo node).any (fun p ↦ bytes p.chars < pathLimit)

def kind (p : Path) : Option FileKind :=
  match t.find p with
  | .ok n => some (if t.IsDirectory n then .directory else .file)
  | .error _ => none

def contents (p : Path) : Except FileFault ByteArray := do
  match t.nodes[← t.find p]?.map Node.content with
  | some (.file bytes) => return bytes
  | some _ => throw .isDirectory
  | none => throw .notFound

/-- A relative path has an absolute spelling only as long as the working directory has. The
path is followed piece by piece, so its length does not matter, but that of the absolute path
of each piece does. -/
def canonical (p : Path) : Option Path := do
  if ¬ p.IsAbsolute then discard t.workingDirectory
  t.pathTo (← (t.follow t.nearRoot p).toOption)

def identity (p : Path) : Option Nat := (t.find p).toOption

def view : FileView where
  kind := t.kind
  contents := t.contents
  canonical := t.canonical
  identity := t.identity

end FileTree

end GrammarPackages
