import GrammarPackages.Files.Tree

namespace GrammarPackages.FileTree

/-- Where a path would put an entry. -/
structure Slot where
  directory : Nat
  name : List Char
  /-- The path ends in a slash, so that only a directory will do. -/
  slash : Bool

variable (t : FileTree)

def slot (p : Path) : Except FileFault Slot := do
  if '\x00' ∈ p.chars then throw .nulInName
  checkLength p
  match p.segments.reverse.dropWhile (fun s ↦ s = []) with
  | [] => throw (if p.chars = [] then .notFound else .occupied)
  | name :: before =>
    let directory ← t.walk anywhere linkLimit (startOf p t.working) before.reverse
    if ¬ t.IsDirectory directory then throw .notDirectory
    if name = ['.'] ∨ name = ['.', '.'] then throw .occupied
    if ¬ t.IsPresent directory then throw .notFound
    if nameLimit < bytes name then throw .nameTooLong
    return ⟨directory, name, p.chars.getLast? = some '/'⟩

def slot? (p : Path) : Option Slot := (t.slot p).toOption

def occupant? (s : Slot) : Option Nat := t.child? s.directory s.name

def add (s : Slot) (content : Content) : FileTree :=
  {t with nodes := t.nodes.push ⟨s.directory, s.name, content, true⟩}

/-- Whether a node lies in a directory, at any depth up to `steps`. -/
def Below (dir node : Nat) : (steps : Nat) → Bool
  | 0 => node == dir
  | steps + 1 => node == dir || node != 0 && Below dir (t.parent node) steps

/-- Removes a node, with all that lies in it. -/
def drop (node : Nat) : FileTree :=
  {t with nodes := t.nodes.mapIdx (fun i n ↦
    if t.Below node i t.nodes.size then {n with present := false} else n)}

def makeDirectory (p : Path) : Except FileFault FileTree := do
  let s ← t.slot p
  if (t.occupant? s).isSome then throw .occupied else return t.add s .directory

/-- Makes the first of these directories, after the others if it lacks one above it. -/
def makeFirst : List Path → FileTree × Bool
  | [] => (t, false)
  | p :: above =>
    if p.chars = [] then (t, true)
    else match t.makeDirectory p with
      | .ok made => (made, true)
      | .error .notFound =>
        let (t, ready) := makeFirst above
        if ¬ ready then (t, false)
        else match t.makeDirectory p with
          | .ok made => (made, true)
          | .error _ => (t, t.kind p = some .directory)
      | .error _ => (t, t.kind p = some .directory)

/-- Makes a directory and those above it. What was made stays, also when the rest fails. -/
def makeDirectories (p : Path) : FileTree × Bool := t.makeFirst p.ancestors

/-- Makes the directories above a path, then does the rest. -/
def inParents (p : Path) (f : FileTree → FileTree × Bool) : FileTree × Bool :=
  match p.parent? with
  | some parent =>
    let (t, ready) := t.makeDirectories parent
    if ready then f t else (t, false)
  | none => f t

/-- Adds an entry where there is none yet. -/
def create (p : Path) (content : Content) : FileTree × Bool :=
  match t.slot? p with
  | some s => if s.slash ∨ (t.occupant? s).isSome then (t, false) else (t.add s content, true)
  | none => (t, false)

/-- Removes the file or link at a path, if there is one. -/
def withoutFile (p : Path) : FileTree :=
  match t.slot? p with
  | some s =>
    match t.occupant? s with
    | some n => if t.IsDirectory n ∨ s.slash then t else t.drop n
    | none => t
  | none => t

/-- A new file in place of an older one. -/
def write (p : Path) (contents : ByteArray) : FileTree × Bool :=
  t.inParents p (fun t ↦ (t.withoutFile p).create p (.file contents))

def link (p target : Path) : FileTree × Bool :=
  t.inParents p (fun t ↦
    if target.chars = [] ∨ '\x00' ∈ target.chars ∨ pathLimit ≤ bytes target.chars then (t, false)
    else t.create p (.link target))

def remove (p : Path) : Option FileTree := do
  let s ← t.slot? p
  let n ← t.occupant? s
  if s.slash ∧ ¬ t.IsDirectory n then none else some (t.drop n)

/-- Moves an entry. It may take the place of a file, or of an empty directory if it is one
itself. -/
def rename (p q : Path) : Option FileTree := do
  let s ← t.slot? p
  let d ← t.slot? q
  let n ← t.occupant? s
  let isDirectory : Bool := t.IsDirectory n
  if ¬ isDirectory ∧ (s.slash ∨ d.slash) then none
  if isDirectory ∧ t.Below n d.directory t.nodes.size then none
  let moved (t : FileTree) : FileTree :=
    {t with nodes := t.nodes.modify n (fun m ↦ {m with parent := d.directory, name := d.name})}
  match t.occupant? d with
  | none => some (moved t)
  | some m =>
    if m = n then some t
    else if isDirectory ≠ decide (t.IsDirectory m) then none
    else if isDirectory ∧ t.nodes.any (fun e ↦ e.present && e.parent == m) then none
    else some (moved (t.drop m))

def enter (p : Path) : Option FileTree := do
  let n ← (t.find p).toOption
  if t.IsDirectory n then some {t with working := n} else none

end GrammarPackages.FileTree
