namespace GrammarPackages

/-- A path as it is spelled; two spellings may name one place. -/
structure Path where
  chars : List Char
deriving DecidableEq

namespace Path

inductive Component
  | root
  | here
  | up
  | name (chars : List Char)
deriving DecidableEq

def ofString (s : String) : Path := ⟨s.toList⟩

def toString (p : Path) : String := .ofList p.chars

instance : Inhabited Path := ⟨⟨[]⟩⟩

/-- The pieces between slashes. There is always one, possibly empty. -/
def segments (p : Path) : List (List Char) := p.chars.splitOn '/'

/-- A segment that names no step: nothing between two slashes, or a lone dot. -/
abbrev Blank (s : List Char) : Prop := s = [] ∨ s = ['.']

def Component.ofSegment? (s : List Char) : Option Component :=
  if Blank s then none else if s = ['.', '.'] then some .up else some (.name s)

abbrev IsAbsolute (p : Path) : Prop := p.chars.head? = some '/'

/-- What the path starts from, when it says so: the root, or a leading dot. -/
def anchor (p : Path) : Option Component :=
  if p.IsAbsolute then some .root
  else if p.segments.head? = some ['.'] then some .here
  else none

/-- Repeated and trailing slashes and inner dots do not count, a leading dot does,
and `..` stays as it is. -/
def components (p : Path) : List Component :=
  p.anchor.toList ++ p.segments.filterMap Component.ofSegment?

/-- Paths are equal as paths when they have the same components. -/
instance : Setoid Path where
  r p q := p.components = q.components
  iseqv := ⟨fun _ ↦ rfl, Eq.symm, Eq.trans⟩

theorem equiv_iff {p q : Path} : p ≈ q ↔ p.components = q.components := Iff.rfl

instance (p q : Path) : Decidable (p ≈ q) :=
  inferInstanceAs (Decidable (p.components = q.components))

/-- An absolute right side replaces the left one; else one slash stands between them,
none after an empty left side or one that ends in a slash. -/
def join (p q : Path) : Path :=
  if q.IsAbsolute then q
  else if p.chars = [] ∨ p.chars.getLast? = some '/' then ⟨p.chars ++ q.chars⟩
  else ⟨p.chars ++ '/' :: q.chars⟩

instance : Div Path := ⟨join⟩

theorem div_eq_join (p q : Path) : p / q = p.join q := rfl

def Component.toPath : Component → Path
  | root => ⟨['/']⟩
  | here => ⟨['.']⟩
  | up => ⟨['.', '.']⟩
  | name s => ⟨s⟩

/-- The shortest spelling with the given components. -/
def ofComponents (l : List Component) : Path := l.foldl (fun p c ↦ p / c.toPath) ⟨[]⟩

def normalize (p : Path) : Path := ofComponents p.components

/-- The segments that follow the anchor. -/
def body (p : Path) : List (List Char) :=
  if p.anchor.isSome then p.segments.tail else p.segments

def spell (anchor : Option Component) (segments : List (List Char)) : Path :=
  match anchor with
  | some .root => ⟨'/' :: ['/'].intercalate segments⟩
  | some c => ⟨['/'].intercalate (c.toPath.chars :: segments)⟩
  | none => ⟨['/'].intercalate segments⟩

/-- The proper ancestors, nearest first, of the path with this anchor and these
segments, the last one first. -/
def above (anchor : Option Component) : List (List Char) → List Path
  | [] => if anchor = some .here then [⟨[]⟩] else []
  | s :: rest =>
    if Blank s then above anchor rest
    else spell anchor (rest.dropWhile (fun t ↦ Blank t)).reverse :: above anchor rest

/-- The path itself, then its parent, and so on up to the root or the empty path. -/
def ancestors (p : Path) : List Path := p :: above p.anchor p.body.reverse

def parent? (p : Path) : Option Path := (above p.anchor p.body.reverse).head?

/-- The last component, when it is a name. -/
def fileName? (p : Path) : Option (List Char) :=
  match p.components.getLast? with
  | some (.name s) => some s
  | _ => none

/-- A name without its extension: what stands before the last dot, if anything does. -/
def stemOf (s : List Char) : List Char :=
  match (s.reverse.dropWhile (· ≠ '.')).tail with
  | [] => s
  | before => before.reverse

def fileStem? (p : Path) : Option (List Char) := p.fileName?.map stemOf

end Path

end GrammarPackages
