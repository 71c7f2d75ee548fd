import GrammarPackages.Path.Basic

namespace GrammarPackages

inductive Level
  | debug
  | info
  | warn
deriving DecidableEq

def Level.name : Level → String
  | debug => "debug"
  | info => "info"
  | warn => "warn"

/-- What a call reports while it works. -/
inductive Event
  | nameRejected (package : String)
  | rootProbed (package : String) (candidate : Path)
  | packageLocated (package : String) (directory : Path)
  | manifestRejected (package cause : String)
  | grammarRegistered (package fileType scope : String) (replaced : Bool)
  | registryBuilt (package : String) (languages : Nat)
  | grammarReused (name : String) (library : Path)
  | grammarLoaded (name : String) (library : Path)
deriving DecidableEq

namespace Event

inductive Field
  | text (s : String)
  | flag (b : Bool)
  | count (n : Nat)

def level : Event → Level
  | packageLocated .. | registryBuilt .. => .info
  | manifestRejected .. => .warn
  | _ => .debug

def message : Event → String
  | nameRejected .. => "Rejected package name outside search roots"
  | rootProbed .. => "Probing package root"
  | packageLocated .. => "Located language package"
  | manifestRejected .. => "Rejected language package manifest"
  | grammarRegistered .. => "Registered grammar"
  | registryBuilt .. => "Built language registry"
  | grammarReused .. => "Reusing loaded grammar"
  | grammarLoaded .. => "Loaded grammar library"

def fields : Event → List (String × Field)
  | nameRejected package => [("package", .text package)]
  | rootProbed package path | packageLocated package path =>
    [("package", .text package), ("path", .text path.toString)]
  | manifestRejected package cause => [("package", .text package), ("cause", .text cause)]
  | grammarRegistered package fileType scope replaced =>
    [("package", .text package), ("file_type", .text fileType), ("scope", .text scope),
      ("replaced", .flag replaced)]
  | registryBuilt package languages =>
    [("package", .text package), ("languages", .count languages)]
  | grammarReused name library | grammarLoaded name library =>
    [("grammar", .text name), ("path", .text library.toString)]

end Event

end GrammarPackages
