import GrammarPackages.Path.Basic

namespace GrammarPackages

/-- An ordered list of root directories, no two of them equal as paths. -/
structure SearchPath where
  roots : List Path
  distinct : roots.Pairwise (fun p q ↦ ¬ p ≈ q)

namespace SearchPath

instance : EmptyCollection SearchPath := ⟨⟨[], .nil⟩⟩

/-- Of each class of equal paths, the first one. -/
def firsts : List Path → List Path
  | [] => []
  | p :: l => p :: (firsts l).filter (fun q ↦ ¬ p ≈ q)

theorem firsts_pairwise (l : List Path) : (firsts l).Pairwise (fun p q ↦ ¬ p ≈ q) := by
  induction l with
  | nil => exact .nil
  | cons p l ih =>
    refine List.pairwise_cons.2 ⟨fun q hq ↦ ?_, ih.filter _⟩
    simpa using (List.mem_filter.1 hq).2

def ofList (l : List Path) : SearchPath := ⟨firsts l, firsts_pairwise l⟩

instance : Membership Path SearchPath := ⟨fun s p ↦ ∃ q ∈ s.roots, q ≈ p⟩

theorem mem_iff {s : SearchPath} {p : Path} : p ∈ s ↔ ∃ q ∈ s.roots, q ≈ p := Iff.rfl

instance (p : Path) (s : SearchPath) : Decidable (p ∈ s) :=
  inferInstanceAs (Decidable (∃ q ∈ s.roots, q ≈ p))

/-- Puts a root in front, unless it is there already. -/
def cons (p : Path) (s : SearchPath) : SearchPath :=
  if h : p ∈ s then s
  else ⟨p :: s.roots, List.pairwise_cons.2 ⟨fun q hq hpq ↦ h ⟨q, hq, hpq.symm⟩, s.distinct⟩⟩

/-- Host roots stand before the defaults, save those that are defaults themselves. -/
def merge (defaults host : List Path) : SearchPath := host.foldr cons (ofList defaults)

/-- The directory `name` beside or above each directory from `start` upwards; directories
of that name are passed over. -/
def lookups (start : Path) (name : String) : SearchPath :=
  ofList ((start.ancestors.filter (fun dir ↦ dir.fileName? ≠ some name.toList)).map
    (· / .ofString name))

def packagesDirectory : String := "packages"

/-- What the surroundings of a running program say about where packages are. -/
structure Surroundings where
  /-- A colon-separated list of extra roots. -/
  extra : Option String
  executable : Option Path
  working : Option Path
  userData : Option Path

namespace Surroundings

def extraRoots (s : Surroundings) : List Path :=
  match s.extra with
  | none => []
  | some text => ((text.toList.splitOn ':').filter (· ≠ [])).map Path.mk

def host (s : Surroundings) : List Path :=
  s.extraRoots ++ s.executable.elim [] (fun dir ↦ (lookups dir packagesDirectory).roots)

def defaults (s : Surroundings) : List Path :=
  s.working.elim [] (fun dir ↦ (lookups dir packagesDirectory).roots) ++
    (s.userData.map (· / .ofString "langpack" / .ofString packagesDirectory)).toList

end Surroundings

def ofSurroundings (s : Surroundings) : SearchPath := merge s.defaults s.host

/-- The user's data directory: the one that was set, if absolute, else the usual place
below the home directory. -/
def userDataDirectory (dataHome : Option Path) (home : Path) : Path :=
  match dataHome with
  | some dir => if dir.IsAbsolute then dir else home / .ofString ".local/share"
  | none => home / .ofString ".local/share"

/-- Search paths are alike when their roots are equal as paths, one by one. -/
def Alike (s t : SearchPath) : Prop := s.roots.map Path.components = t.roots.map Path.components

instance (s t : SearchPath) : Decidable (s.Alike t) :=
  inferInstanceAs (Decidable (_ = _))

end SearchPath

end GrammarPackages
