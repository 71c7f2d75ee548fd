import GrammarPackages.Files.View
import GrammarPackages.Event

namespace GrammarPackages.Package

/-- A path whose components are a single name. -/
def IsName (p : Path) : Prop :=
  match p.components with
  | [.name _] => True
  | _ => False

instance (p : Path) : Decidable (IsName p) := by
  unfold IsName; split <;> infer_instance

/-- The first of the roots that holds an entry of this name. Each root is reported as it is
tried. -/
def probe (files : FileView) (package : String) : List Path → Option Path × List Event
  | [] => (none, [])
  | root :: rest =>
    let candidate := root / .ofString package
    if files.Exists candidate then
      (some candidate,
        [.rootProbed package candidate, .packageLocated package candidate])
    else
      let later := probe files package rest
      (later.1, .rootProbed package candidate :: later.2)

/-- The directory of a package. A name that is not a plain one is not looked for, so what is
found lies right below a root. -/
def locate (files : FileView) (roots : List Path) (package : String) : Option Path × List Event :=
  if IsName (.ofString package) then probe files package roots
  else (none, [.nameRejected package])

end GrammarPackages.Package
