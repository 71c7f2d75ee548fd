import GrammarPackages.Path.Basic

namespace GrammarPackages

/-- Why a file could not be reached or read. -/
inductive FileFault
  | notFound
  | notDirectory
  | isDirectory
  | nameTooLong
  | tooManyLinks
  | notText
  | nulInName
  | occupied
deriving DecidableEq

def FileFault.message : FileFault → String
  | notFound => "No such file or directory (os error 2)"
  | notDirectory => "Not a directory (os error 20)"
  | isDirectory => "Is a directory (os error 21)"
  | nameTooLong => "File name too long (os error 36)"
  | tooManyLinks => "Too many levels of symbolic links (os error 40)"
  | notText => "stream did not contain valid UTF-8"
  | nulInName => "file name contained an unexpected NUL byte"
  | occupied => "File exists (os error 17)"

inductive FileKind
  | file
  | directory
  /-- A device, a socket and the like. -/
  | other
deriving DecidableEq

/-- What can be seen of a file system at one moment. Links are followed throughout. -/
structure FileView where
  /-- What stands at a path, if anything does. -/
  kind : Path → Option FileKind
  contents : Path → Except FileFault ByteArray
  /-- The one absolute spelling without links, of a path that leads somewhere. -/
  canonical : Path → Option Path
  /-- A number of its own for each file that is there. -/
  identity : Path → Option Nat

namespace FileView

def Exists (v : FileView) (p : Path) : Prop := (v.kind p).isSome

instance (v : FileView) (p : Path) : Decidable (v.Exists p) :=
  inferInstanceAs (Decidable (_ = true))

def IsFile (v : FileView) (p : Path) : Prop := v.kind p = some .file

instance (v : FileView) (p : Path) : Decidable (v.IsFile p) := inferInstanceAs (Decidable (_ = _))

def IsDirectory (v : FileView) (p : Path) : Prop := v.kind p = some .directory

instance (v : FileView) (p : Path) : Decidable (v.IsDirectory p) :=
  inferInstanceAs (Decidable (_ = _))

def text (v : FileView) (p : Path) : Except FileFault String := do
  match String.fromUTF8? (← v.contents p) with
  | some s => return s
  | none => throw .notText

end FileView

end GrammarPackages
