import GrammarPackages.Files.View
import GrammarPackages.Grammar.Name

namespace GrammarPackages.Grammar

/-- Why a grammar is not to be had. -/
inductive Fault
  | notFound (path : String)
  /-- The library, or what is in it, is no good. -/
  | unloadable (text : String)
  | unreadable (fault : FileFault)
deriving DecidableEq

namespace Fault

def message : Fault → String
  | notFound path => "grammar not found: " ++ path
  | unloadable text => "failed to load grammar library: " ++ text
  | unreadable f => "IO error: " ++ f.message

def messages (f : Fault) : List String :=
  f.message :: match f with
    | unreadable f => [f.message]
    | _ => []

end Fault

/-- The path with the extension of libraries added to its last name. -/
def withExtension (p : Path) : Path := ⟨p.chars ++ extension⟩

/-- The library that a directory of this name is to hold. -/
def inside (directory : Path) (name : List Char) : Path :=
  directory / ⟨libraryName (dropFamily name)⟩

/-- The library at a path: the file there, or the one with the extension, or, in a
directory, the one called after it. -/
def candidate? (files : FileView) (path : Path) : Option Path :=
  let base := path.normalize
  if files.IsFile base then some base
  else if files.IsFile (withExtension base) then some (withExtension base)
  else if files.IsDirectory base then
    (base.fileName?.map (inside base)).filter (fun library ↦ files.IsFile library)
  else none

/-- The library for a path of a manifest. A relative path is tried below each root in
turn. -/
def resolve (files : FileView) (roots : List Path) (path : String) : Except Fault Path :=
  let p := Path.ofString path
  let found :=
    if p.IsAbsolute then candidate? files p
    else roots.findSome? (fun root ↦ candidate? files (root / p))
  match found with
  | some library => .ok library
  | none => .error (.notFound path)

end GrammarPackages.Grammar
