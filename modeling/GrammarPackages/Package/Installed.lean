import GrammarPackages.SearchPath
import GrammarPackages.Package.Load
import GrammarPackages.Library.Linker

namespace GrammarPackages.Package

/-- Loads a package from where packages usually are, with its compiled grammars. -/
def loadInstalled (files : FileView) (s : SearchPath.Surroundings) (package : String)
    (state : Grammar.Cache Library.CompiledGrammar × Library.Linker) :
    Run (Grammar.Cache Library.CompiledGrammar × Library.Linker)
      (Registry Library.CompiledGrammar) :=
  load files (Library.loader files) (SearchPath.ofSurroundings s).roots package state

end GrammarPackages.Package
